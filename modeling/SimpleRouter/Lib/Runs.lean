/-
Runs of a labelled transition system, the rule that carries an invariant along a
run, and runs that are computed.

A run that is only allowed to take steps meeting a condition is a run of the
restricted step relation `fun s e t => C s e ∧ step s e t`.
-/
import Mathlib

namespace Runs

variable {σ ε : Type*} {step : σ → ε → σ → Prop} {s t u : σ} {es es' : List ε} {e : ε}

/-- `Run step s es t`: the events `es`, taken in order, lead from `s` to `t`. -/
inductive Run (step : σ → ε → σ → Prop) : σ → List ε → σ → Prop
  | nil (s : σ) : Run step s [] s
  | cons {s t u : σ} {e : ε} {es : List ε} :
      step s e t → Run step t es u → Run step s (e :: es) u

lemma Run.single (h : step s e t) : Run step s [e] t := .cons h (.nil t)

lemma Run.of_single (h : Run step s [e] t) : step s e t := by
  cases h with
  | cons hst hrest =>
      cases hrest
      exact hst

lemma Run.append (h : Run step s es t) (h' : Run step t es' u) : Run step s (es ++ es') u := by
  induction h with
  | nil s => exact h'
  | cons hstep _ ih => exact .cons hstep (ih h')

/-- What every step preserves, every run preserves. -/
lemma Run.invariant {I : σ → Prop} (h : Run step s es t)
    (hstep : ∀ s e t, e ∈ es → I s → step s e t → I t) (hs : I s) : I t := by
  induction h with
  | nil s => exact hs
  | @cons s t u e es hst _ ih =>
      exact ih (fun s e t he => hstep s e t (List.mem_cons_of_mem _ he))
        (hstep s e t (by simp) hs hst)

/-- What the steps of a run preserve, each from a state that is reached by the events
before it. -/
lemma Run.invariant_of_reached {I : σ → Prop} (h : Run step s es t)
    (hstep : ∀ es₁ e es₂ u v, es = es₁ ++ e :: es₂ → Run step s es₁ u → I u → step u e v → I v)
    (hs : I s) : I t := by
  induction h with
  | nil s => exact hs
  | @cons s t u e es hst _ ih =>
      refine ih ?_ (hstep [] e es s t rfl (.nil s) hs hst)
      rintro es₁ e' es₂ v w rfl hrun hv hvw
      exact hstep (e :: es₁) e' es₂ v w rfl (.cons hst hrun) hv hvw

/-! ### Two systems -/

section Simulation

variable {τ : Type*} {step' : τ → ε → τ → Prop} {g : σ → τ} {v : τ}

/-- What maps steps to steps maps runs to runs. -/
lemma Run.map (hg : ∀ s e t, step s e t → step' (g s) e (g t)) (h : Run step s es t) :
    Run step' (g s) es (g t) := by
  induction h with
  | nil s => exact .nil _
  | cons hst _ ih => exact .cons (hg _ _ _ hst) ih

/-- If every step from an image is the image of a step, then so is every run. -/
lemma Run.lift (hg : ∀ s e v, step' (g s) e v → ∃ t, step s e t ∧ g t = v)
    (h : Run step' (g s) es v) : ∃ t, Run step s es t ∧ g t = v := by
  induction es generalizing s with
  | nil =>
      cases h
      exact ⟨s, .nil s, rfl⟩
  | cons e es ih =>
      cases h with
      | cons hst hrest =>
          obtain ⟨t, hstep, rfl⟩ := hg _ _ _ hst
          obtain ⟨u, hrun, hu⟩ := ih hrest
          exact ⟨u, .cons hstep hrun, hu⟩

end Simulation

/-! ### Computing runs -/

variable {φ : Type*} {f : σ → ε → Except φ σ}

/-- Take the events one after the other with a step function that may fail. -/
def runWith (f : σ → ε → Except φ σ) : σ → List ε → Except φ σ
  | s, [] => .ok s
  | s, e :: es => do
      let s ← f s e
      runWith f s es

/-- The events can be taken and lead to a state with the property `P`. -/
def leadsTo (f : σ → ε → Except φ σ) (s : σ) (es : List ε) (P : σ → Bool) : Bool :=
  match runWith f s es with
  | .ok s => P s
  | .error _ => false

lemma run_of_runWith (hf : ∀ s e t, f s e = .ok t → step s e t) (h : runWith f s es = .ok t) :
    Run step s es t := by
  induction es generalizing s with
  | nil =>
      rw [runWith, Except.ok.injEq] at h
      subst h
      exact .nil s
  | cons e es ih =>
      rw [runWith] at h
      cases hfe : f s e with
      | error e => simp [hfe, bind, Except.bind] at h
      | ok u =>
          simp only [hfe, bind, Except.bind] at h
          exact .cons (hf _ _ _ hfe) (ih h)

lemma exists_run_of_leadsTo {P : σ → Bool} (hf : ∀ s e t, f s e = .ok t → step s e t)
    (h : leadsTo f s es P) : ∃ t, Run step s es t ∧ P t := by
  rw [leadsTo] at h
  cases hrun : runWith f s es with
  | error e => simp [hrun] at h
  | ok t =>
      rw [hrun] at h
      exact ⟨t, run_of_runWith hf hrun, h⟩

lemma exists_step_of_leadsTo {P : σ → Bool} (hf : ∀ s e t, f s e = .ok t → step s e t)
    (h : leadsTo f s [e] P) : ∃ t, step s e t ∧ P t := by
  obtain ⟨t, hrun, ht⟩ := exists_run_of_leadsTo hf h
  exact ⟨t, hrun.of_single, ht⟩

end Runs
