/-
The packet thread and the sweeper.

The two threads share the queue and take turns between the sections they run
under the lock of the cache.  `route_and_send` has two of them: it queues a frame,
lets go of the lock, and then handles the request it was given.  In between the
packet thread holds on to the request, and the sweeper may run.

A pass of the sweeper destroys the request that is held exactly if that request
has expired.  So the request survives in every run in which the sweeper only runs
while no request is held, or while the one that is held has not expired.
-/
import SimpleRouter.Sweep

namespace SimpleRouter

open Bytes CString Runs

/-- The router, and the request that `route_and_send` was given and has not
handled yet. -/
structure Threads where
  router : Router
  held : Option ReqId

/-- The sections of the two threads that are run under the lock, and the clock. -/
inductive Section where
  /-- `route_and_send` queues a frame. -/
  | queue (frame : Frame)
  /-- `route_and_send` handles the request it was given. -/
  | handle
  /-- `handle_arp_packet`. -/
  | arp (packet : Frame) (interface : List UInt8)
  /-- A pass of `sr_arpcache_timeout`. -/
  | sweep
  /-- The clock moves on by `d` seconds. -/
  | tick (d : ℕ)
deriving DecidableEq, Repr

/-- Run a section.  The packet thread does nothing else while it holds a request,
and handles a request only if it holds one. -/
def runSection (fuel : ℕ) (t : Threads) : Section → Except Fault Threads
  | .queue frame =>
      match t.held with
      | some _ => .ok t
      | none =>
          let (s, req) := routeAndQueue t.router frame
          .ok ⟨s, req⟩
  | .handle =>
      match t.held with
      | none => .ok t
      | some id => do
          let s ← handleArpreq fuel t.router id
          .ok ⟨s, none⟩
  | .arp packet interface =>
      match t.held with
      | some _ => .ok t
      | none => .ok ⟨handleArpPacket t.router packet interface, none⟩
  | .sweep => do
      let s ← srArpcacheTimeout fuel t.router
      .ok ⟨s, t.held⟩
  | .tick d => .ok ⟨{ t.router with now := t.router.now + d }, t.held⟩

/-- The section returns. -/
def Turn (t : Threads) (e : Section) (t' : Threads) : Prop := ∃ fuel, runSection fuel t e = .ok t'

lemma turn_of_ok {fuel : ℕ} (t : Threads) (e : Section) (t' : Threads)
    (h : runSection fuel t e = .ok t') : Turn t e t' :=
  ⟨fuel, h⟩

/-- The threads before the first section. -/
def Threads.init (ifs : List SrIf) (rt : List SrRt) (now : ℕ) (junk : ℕ → ℕ → UInt8) : Threads :=
  ⟨Router.init ifs rt now junk, none⟩

/-- The request that `handle_arpreq` is going to be applied to has not been
destroyed. -/
def Threads.HeldLive (t : Threads) : Prop :=
  ∀ id, t.held = some id → (t.router.findReq id).isSome

/-- The request that is held has not expired. -/
def Threads.HeldFresh (t : Threads) : Prop :=
  ∀ id r, t.held = some id → t.router.findReq id = some r → ¬ Expired t.router.now r

instance (t : Threads) : Decidable t.HeldFresh :=
  decidable_of_iff (∀ id ∈ t.held, ∀ r ∈ t.router.findReq id, ¬ Expired t.router.now r)
    ⟨fun h id r hid hr => h id hid r hr, fun h id hid r hr => h id r hid hr⟩

/-- A section that is not a pass of the sweeper over an expired request that is
held. -/
def SafeTurn (t : Threads) (e : Section) (t' : Threads) : Prop :=
  (e = .sweep → t.HeldFresh) ∧ Turn t e t'

variable {t t' : Threads} {e : Section} {s s' : Router} {fuel : ℕ} {a : ReqId} {r : SrArpreq}

/-! ### A pass of the sweeper -/

lemma walk_of_srArpcacheTimeout (hw : WF s) (h : srArpcacheTimeout fuel s = .ok s') :
    ∃ ids, Walk (expireEntries s) (s.requests.head?.map (·.id)) ids s' := by
  have hw' : WF (expireEntries s) := hw.congr rfl rfl
  obtain ⟨ids, hwalk, -⟩ := walk_of_sweepFrom hw' h
  exact ⟨ids, hwalk⟩

/-- A request that is pending survives a pass exactly if it has not expired. -/
lemma isSome_after_timeout_iff (hw : WF s) (h : srArpcacheTimeout fuel s = .ok s')
    (hr : s.findReq a = some r) : (s'.findReq a).isSome ↔ ¬ Expired s.now r := by
  obtain ⟨ids, hwalk⟩ := walk_of_srArpcacheTimeout hw h
  have hw' : WF (expireEntries s) := hw.congr rfl rfl
  constructor
  · intro hlive hx
    have hmem : a ∈ (expireEntries s).requests.map (·.id) :=
      findReq_isSome_iff.1 (show ((expireEntries s).findReq a).isSome by
        change (s.findReq a).isSome
        rw [hr]
        rfl)
    have hnone := @Walk.destroys_expired _ _ _ _ _ _ hwalk hw' [] _ rfl List.head?_map.symm hmem hr hx
    rw [hnone] at hlive
    exact absurd hlive (by simp)
  · exact hwalk.survives hr

lemma wf_of_srArpcacheTimeout (hw : WF s) (h : srArpcacheTimeout fuel s = .ok s') : WF s' :=
  Step.wf hw (e := .sweep) ⟨fuel, h⟩

/-! ### Sections -/

/-- A frame is queued on a pending request. -/
lemma routeAndQueue_wf_isSome (hw : WF s) {frame : Frame} {held : Option ReqId}
    (h : routeAndQueue s frame = (s', held)) :
    WF s' ∧ ∀ id, held = some id → (s'.findReq id).isSome := by
  rcases routeAndQueue_cases hw frame with
    ⟨-, hq⟩ | ⟨-, -, hq⟩ | ⟨-, rt, i, s₁, nid, -, hq, hqs⟩
  · obtain ⟨rfl, rfl⟩ := Prod.mk.inj (hq.symm.trans h)
    exact ⟨hw, by simp⟩
  · obtain ⟨rfl, rfl⟩ := Prod.mk.inj (hq.symm.trans h)
    exact ⟨hw.noteRead _ _ _, by simp⟩
  · obtain ⟨rfl, rfl⟩ := Prod.mk.inj (hq.symm.trans h)
    refine ⟨hqs.wf ((hw.noteRead _ _ _).emit _), ?_⟩
    rintro id hid
    obtain rfl := Option.some.inj hid
    obtain ⟨req, hreq, -⟩ := hqs.findReq_self
    rw [hreq]
    rfl

lemma ArpOutcome.wf {packet : Frame} {interface : List UInt8}
    (h : ArpOutcome s packet interface s') (hw : WF s) : WF s' := by
  cases h with
  | ignored hq hno => exact hq.wf hw
  | answered hq hno hr => exact (hq.wf hw).of_core (sendArpReply_core _ _ _)
  | learned hq hr hnone => exact (hq.wf hw).congr rfl rfl
  | @drained s₁ s' req hq hr hf hip hcore htrace hreads =>
      have hlearn : WF (learn s₁ (arSha (slice packet 14 28)) (arSip (slice packet 14 28))) :=
        (hq.wf hw).congr rfl rfl
      exact hlearn.srArpreqDestroy.of_core hcore

/-- What a safe section preserves. -/
lemma SafeTurn.heldLive (h : SafeTurn t e t') (hw : WF t.router) (hlive : t.HeldLive) :
    WF t'.router ∧ t'.HeldLive := by
  obtain ⟨hsafe, fuel, h⟩ := h
  obtain ⟨s, held⟩ := t
  cases e with
  | queue frame =>
      cases held with
      | some id =>
          obtain rfl := Except.ok.inj h
          exact ⟨hw, hlive⟩
      | none =>
          obtain rfl := Except.ok.inj h
          exact routeAndQueue_wf_isSome hw rfl
  | handle =>
      cases held with
      | none =>
          obtain rfl := Except.ok.inj h
          exact ⟨hw, hlive⟩
      | some id =>
          obtain ⟨s', hcall, h⟩ := bind_eq_ok.1 h
          obtain rfl := Except.ok.inj h
          exact ⟨(tidy_of_handleArpreq hw hcall).wf, by simp [Threads.HeldLive]⟩
  | arp packet interface =>
      cases held with
      | some id =>
          obtain rfl := Except.ok.inj h
          exact ⟨hw, hlive⟩
      | none =>
          obtain rfl := Except.ok.inj h
          exact ⟨(handleArpPacket_outcome hw).wf hw, by simp [Threads.HeldLive]⟩
  | sweep =>
      obtain ⟨s', hpass, h⟩ := bind_eq_ok.1 h
      obtain rfl := Except.ok.inj h
      refine ⟨wf_of_srArpcacheTimeout hw hpass, ?_⟩
      intro id hid
      obtain ⟨r, hr⟩ := Option.isSome_iff_exists.1 (hlive id hid)
      exact (isSome_after_timeout_iff hw hpass hr).2 (hsafe rfl id r hid hr)
  | tick d =>
      obtain rfl := Except.ok.inj h
      exact ⟨hw.congr rfl rfl, hlive⟩

/-- A pass of the sweeper leaves the request that is held alive exactly if it has
not expired. -/
lemma Turn.heldLive_iff (h : Turn t .sweep t') (hw : WF t.router) (hlive : t.HeldLive) :
    t'.HeldLive ↔ t.HeldFresh := by
  obtain ⟨fuel, h⟩ := h
  obtain ⟨s', hpass, h⟩ := bind_eq_ok.1 h
  obtain rfl := Except.ok.inj h
  constructor
  · intro hlive' id r hid hr
    exact (isSome_after_timeout_iff hw hpass hr).1 (hlive' id hid)
  · intro hfresh id hid
    obtain ⟨r, hr⟩ := Option.isSome_iff_exists.1 (hlive id hid)
    exact (isSome_after_timeout_iff hw hpass hr).2 (hfresh id r hid hr)

/-! ### Runs -/

variable {ifs : List SrIf} {rt : List SrRt} {now : ℕ} {junk : ℕ → ℕ → UInt8} {es : List Section}

/-- The request that `route_and_send` holds is never destroyed, as long as no pass
of the sweeper finds it expired; and a pass that does destroys it. -/
theorem held_request_survives (h : Run SafeTurn (Threads.init ifs rt now junk) es t) :
    t.HeldLive ∧ ∀ t', Turn t .sweep t' → (t'.HeldLive ↔ t.HeldFresh) := by
  have hinv : WF t.router ∧ t.HeldLive := by
    refine h.invariant (I := fun t => WF t.router ∧ t.HeldLive) ?_ ⟨wf_init .., ?_⟩
    · rintro t e t' - ⟨hw, hlive⟩ hturn
      exact hturn.heldLive hw hlive
    · simp [Threads.HeldLive, Threads.init]
  exact ⟨hinv.2, fun t' hturn => hturn.heldLive_iff hinv.1 hinv.2⟩

/-- A safe section, computed. -/
def runSafeSection (fuel : ℕ) (t : Threads) (e : Section) : Except Fault Threads :=
  if e = .sweep → t.HeldFresh then runSection fuel t e else .error .useAfterFree

lemma safeTurn_of_ok {fuel : ℕ} (t : Threads) (e : Section) (t' : Threads)
    (h : runSafeSection fuel t e = .ok t') : SafeTurn t e t' := by
  rw [runSafeSection] at h
  split_ifs at h with hsafe
  exact ⟨hsafe, fuel, h⟩

/-- The frame `handle_ip_packet` passes to `route_and_send` for a frame from
`10.0.0.2` to `10.0.1.2`. -/
def sampleTransit : Frame := transitFrame (sampleFrame (sampleIp 0 2) (sampleIp 1 2) 64 20)

/-- The sweeper runs while a request is held that is not yet a second old. -/
theorem held_request_survives_sample :
    ∃ es t id, Run SafeTurn ⟨sampleRouter, none⟩ es t ∧ t.held = some id ∧
      (t.router.findReq id).isSome ∧ ∀ t', Turn t .sweep t' → (t'.HeldLive ↔ t.HeldFresh) := by
  obtain ⟨t, hrun, ht⟩ := exists_run_of_leadsTo safeTurn_of_ok
    (show leadsTo (runSafeSection 9) ⟨sampleRouter, none⟩
      [.queue sampleTransit, .sweep, .handle, .tick 1, .sweep, .queue sampleTransit, .sweep]
      (fun t => t.held = some 0) by decide +kernel)
  have hheld : t.held = some 0 := of_decide_eq_true ht
  obtain ⟨hlive, hsweep⟩ := held_request_survives hrun
  exact ⟨_, t, 0, hrun, hheld, hlive 0 hheld, hsweep⟩

/-- A frame is queued on a request that has just expired, and the sweeper runs before
the packet thread gets to handle it. -/
theorem held_request_destroyed :
    ∃ es t id, Run Turn ⟨sampleRouter, none⟩ es t ∧ t.held = some id ∧ ¬ t.HeldLive ∧
      handleArpreq 9 t.router id = .error .useAfterFree := by
  obtain ⟨t, hrun, ht⟩ := exists_run_of_leadsTo turn_of_ok
    (show leadsTo (runSection 9) ⟨sampleRouter, none⟩
      [.queue sampleTransit, .handle, .tick 1, .sweep, .tick 1, .sweep, .tick 1, .sweep, .tick 1,
        .sweep, .tick 1, .queue sampleTransit, .sweep]
      (fun t => t.held = some 0 ∧ t.router.findReq 0 = none ∧
        faultOf (handleArpreq 9 t.router 0) = some .useAfterFree) by decide +kernel)
  obtain ⟨hheld, hnone, hfault⟩ := of_decide_eq_true ht
  refine ⟨_, t, 0, hrun, hheld, ?_, eq_error_of_faultOf hfault⟩
  intro hlive
  have := hlive 0 hheld
  rw [hnone] at this
  exact absurd this (by simp)

end SimpleRouter
