/-
Chains of errors.

When an expired request is given up, the error for each of its frames is queued
on the request for the next hop on the way back.  If that one has expired too it
is given up in turn, with the error in front of its own frames, and so on.  The
stations of such a chain are the addresses of the requests, each with the source
address of the error that was queued on it: `Leads s x y` says that giving up the
request of `x` in the state `s` queues an error on the request of `y`.

The requests change in the course of the calls, but those that are expired are as
they were when the first call was made, except for the ones on the stack.  So the
whole chain can be read off the state `s₀` of the first call.
-/
import SimpleRouter.Expired

namespace SimpleRouter

open Bytes CString

/-- A station: the address of a request, and the source address of the error that
was queued on it, if any. -/
abbrev Station := Ip × Option Ip

/-- The request of the first station has expired, and the error for one of its
frames, or for the error that was queued on it, is queued on the request of the
second. -/
def Leads (s : Router) (x y : Station) : Prop :=
  ∃ r ∈ s.requests, r.ip = x.1 ∧ Expired s.now r ∧ ∃ src,
    ((∃ p ∈ r.packets, 34 ≤ p.buf.length ∧ p.src = src) ∨ x.2 = some src) ∧
      returnHop s src = some y.1 ∧ y.2 = some (returnSource s src)

variable {s s' s₀ s₁ s₂ : Router} {id nid a : ReqId} {r r₁ : SrArpreq} {pkt : SrPacket}
  {A B : List ReqId} {x y : Station}

/-! ### Expired requests are as at the start -/

/-- In the state `s`, reached from `s₀` within a call, the requests that have
expired are as they were in `s₀`, but for those of the stack. -/
structure Stage (s₀ : Router) (A : List ReqId) (s : Router) : Prop where
  wf : WF s
  env : SameEnv s₀ s
  old : ∀ a r, a ∉ A → s.findReq a = some r → Expired s.now r → s₀.findReq a = some r

namespace Stage

lemma refl (hw : WF s) : Stage s [] s := ⟨hw, .refl s, fun _ _ _ hr _ => hr⟩

lemma mono (h : Stage s₀ A s) (hAB : ∀ a ∈ A, a ∈ B) : Stage s₀ B s :=
  ⟨h.wf, h.env, fun a r ha => h.old a r fun hmem => ha (hAB a hmem)⟩

lemma of_core (h : Stage s₀ A s) (hcore : s'.core = s.core) : Stage s₀ A s' := by
  refine ⟨h.wf.of_core hcore, h.env.trans (.of_core hcore), ?_⟩
  intro a r ha hr hx
  rw [findReq_of_core hcore] at hr
  exact h.old a r ha hr ((SameEnv.of_core hcore).expired_iff.1 hx)

/-- Queueing a frame changes one request. -/
lemma queues (hw : WF s₀) {ip : Ip} (hcore : s.core = s₀.core) (hq : Queues s ip pkt s₁ nid) :
    Stage s₀ [nid] s₁ := by
  have he : SameEnv s₀ s₁ := (SameEnv.of_core hcore).trans hq.sameEnv
  refine ⟨hq.wf (hw.of_core hcore), he, ?_⟩
  intro a r ha hr hx
  rw [hq.findReq_of_ne (by simpa using ha), findReq_of_core hcore] at hr
  exact hr

/-- So does queueing an error. -/
lemma report (h : Stage s₀ A s) (hsrc : returnSource s pkt.src ≠ 0)
    (hq : routeAndQueue (quoted s id pkt) (unreachableFrame s id pkt) = (s₁, some nid)) :
    Stage s₀ (nid :: A) s₁ := by
  obtain ⟨he, hw₁⟩ := report_sameEnv h.wf hsrc hq
  refine ⟨hw₁, h.env.trans he, ?_⟩
  intro a r ha hr hx
  rw [List.mem_cons, not_or] at ha
  rw [report_findReq_of_ne h.wf hsrc hq ha.1] at hr
  exact h.old a r ha.2 hr (he.expired_iff.1 hx)

/-- After the call on that request it is no longer expired. -/
lemma call (h : Stage s₀ (nid :: A) s₁) (hcall : Tidy B (.handle nid) s₁ s₂) : Stage s₀ A s₂ := by
  refine ⟨hcall.wf, h.env.trans hcall.sameEnv, ?_⟩
  intro a r ha hr hx
  refine h.old a r ?_ (hcall.findReq_of_expired hr hx) (hcall.sameEnv.expired_iff.1 hx)
  rw [List.mem_cons, not_or]
  refine ⟨?_, ha⟩
  rintro rfl
  exact hcall.not_expired_self hr hx

end Stage

/-! ### Stations of a chain -/

/-- The request `r` is at the station `x`: it is the one that was pending in `s₀`,
with at most an error in addition, and the error is long enough to be quoted or has
no way back. -/
def AtStation (s₀ : Router) (r : SrArpreq) (x : Station) : Prop :=
  r.ip = x.1 ∧ ∃ r₀ ∈ s₀.requests, r₀.ip = x.1 ∧ Expired s₀.now r₀ ∧ ∀ p ∈ r.packets,
    p ∈ r₀.packets ∨
      x.2 = some p.src ∧ (42 ≤ p.buf.length ∨ returnHop s₀ p.src = none)

/-- Queueing a frame does not change its source address. -/
lemma src_routedPacket (s : Router) {frame : Frame} (i : SrIf) (hl : 34 ≤ frame.length) :
    (routedPacket s frame i).src = ip32 frame 26 := by
  have h₁ : (patch frame 6 i.addr.bytes).length = frame.length := by
    rw [length_patch (by simp; omega)]
  rw [SrPacket.src, routedPacket, ip32_patch_of_disjoint (by rw [h₁]; simp; omega) (by simp),
    ip32_patch_of_disjoint (by simp; omega) (by simp)]

lemma src_errPacket (s : Router) (id : ReqId) (pkt : SrPacket) (i : SrIf) :
    (errPacket s id pkt i).src = returnSource s pkt.src := by
  rw [errPacket, src_routedPacket _ _ (by rw [length_unreachableFrame]; omega), unreachableFrame,
    ip32_icmpErrorFrame_src]

lemma length_errPacket (s : Router) (id : ReqId) (pkt : SrPacket) (i : SrIf) :
    (errPacket s id pkt i).buf.length = 70 := by
  rw [errPacket, length_routedPacket (by rw [length_unreachableFrame]; omega),
    length_unreachableFrame]

/-- The error for a packet of a request leads to the next station. -/
lemma AtStation.leads (h : AtStation s₀ r x) (he : SameEnv s₀ s) (hp : pkt ∈ r.packets)
    (hl : 34 ≤ pkt.buf.length) {hop : Ip} (hret : returnHop s pkt.src = some hop) :
    Leads s₀ x (hop, some (returnSource s pkt.src)) := by
  obtain ⟨-, r₀, hr₀, hip, hx, hpk⟩ := h
  refine ⟨r₀, hr₀, hip, hx, pkt.src, ?_, ?_, ?_⟩
  · rcases hpk pkt hp with hmem | ⟨hsrc, -⟩
    · exact Or.inl ⟨pkt, hmem, hl, rfl⟩
    · exact Or.inr hsrc
  · rw [← he.returnHop, hret]
  · rw [he.returnSource]

/-- The request of the next station, if it is expired and not on the stack, is at
that station. -/
lemma Stage.atStation (h : Stage s₀ A s) (hsrc : returnSource s pkt.src ≠ 0)
    (hq : routeAndQueue (quoted s id pkt) (unreachableFrame s id pkt) = (s₁, some nid))
    (hnid : nid ∉ A) (hr : s₁.findReq nid = some r₁) (hx : Expired s₁.now r₁) :
    AtStation s₀ r₁ (r₁.ip, some (returnSource s pkt.src)) := by
  obtain ⟨r₀, i, hr₀, hx₀, rfl, hret⟩ := report_expired h.wf hsrc hq hr hx
  have hold := h.old nid r₀ hnid hr₀ hx₀
  refine ⟨rfl, r₀, mem_of_findReq hold, rfl, h.env.expired_iff.1 hx₀, ?_⟩
  intro p hp
  rcases List.mem_cons.1 hp with rfl | hp
  · refine Or.inr ⟨by rw [src_errPacket], Or.inl ?_⟩
    rw [length_errPacket]
    omega
  · exact Or.inl hp

end SimpleRouter
