/-
The source address check of `sr_send_packet` never rejects a frame of the router.

The three callers take the hardware address and the name from different places:
the record of the receiving interface, the record found for the name kept with a
packet, and the name kept with a packet itself.  In each case the lookup in the
check finds the record the address was taken from.  Hardware information may
change addresses and add records while packets wait, so what is known about a
waiting packet is only that it is long enough and that its interface is still
registered.
-/
import SimpleRouter.QueueInvariant

namespace SimpleRouter

open Bytes CString Runs

variable {s s' : Router} {c c' : Config} {ifs : List SrIf} {pkt : SrPacket}
  {e : Event}

/-- A packet the drain can send. -/
structure Deliverable (ifs : List SrIf) (p : SrPacket) : Prop where
  len : 34 ≤ p.buf.length
  iface : (srGetInterface ifs p.iface).isSome

/-- An observation that is not a rejected frame. -/
def Passes (ifs : List SrIf) (o : Obs) : Prop :=
  ∀ origin iface frame v, o = .sent origin iface frame v →
    14 ≤ frame.length ∧ (∃ i, srGetInterface ifs iface = some i ∧ etherShost frame = i.addr) ∧
      v = .passed

lemma passes_of_not_sent {o : Obs} (h : ∀ origin iface frame v, o ≠ .sent origin iface frame v) :
    Passes ifs o :=
  fun origin iface frame v ho => absurd ho (h origin iface frame v)

/-- A frame that bears the hardware address of its interface passes. -/
lemma passes_sent {origin : Origin} {iface : List UInt8} {frame : Frame} {i : SrIf}
    (hlen : 14 ≤ frame.length) (hi : srGetInterface ifs iface = some i)
    (hs : etherShost frame = i.addr) :
    Passes ifs (.sent origin iface frame (sendVerdict ifs frame iface)) := by
  have hmatch : srEtherAddrsMatchInterface ifs frame iface = true := by
    rw [srEtherAddrsMatchInterface, hi]
    simp [hs]
  rintro origin' iface' frame' v ho
  rw [Obs.sent.injEq] at ho
  obtain ⟨rfl, rfl, rfl, rfl⟩ := ho
  refine ⟨hlen, ⟨i, hi, hs⟩, ?_⟩
  rw [sendVerdict, if_neg (by omega), if_pos hmatch]

lemma passes_arpFrame {origin : Origin} {name : List UInt8} {i : SrIf} (dhost : Mac) (op : ℕ)
    (tha : Mac) (tip : Ip) (hi : srGetInterface ifs name = some i) :
    Passes ifs (.sent origin i.name (arpFrame dhost i op tha tip)
      (sendVerdict ifs (arpFrame dhost i op tha tip) i.name)) :=
  passes_sent (by rw [length_arpFrame]; omega) (srGetInterface_name hi) rfl

lemma passes_drainObs (sha : Mac) (sip : Ip) (h : Deliverable s.ifList pkt) :
    Passes s.ifList (drainObs s sha sip pkt).2 := by
  obtain ⟨hlen, hreg⟩ := h
  obtain ⟨i, hi⟩ := Option.isSome_iff_exists.1 hreg
  have hsrc : (patch pkt.buf 6 i.addr.bytes).length = pkt.buf.length :=
    length_patch_shost hlen
  have hframe : drainFrame s.ifList sha pkt = patch (patch pkt.buf 6 i.addr.bytes) 0 sha.bytes := by
    rw [drainFrame, hi]
  refine passes_sent ?_ hi ?_
  · rw [hframe, length_patch (by rw [hsrc]; simp; omega), hsrc]
    omega
  · rw [hframe, etherShost, mac48_patch_of_disjoint (by rw [hsrc]; simp; omega) (by simp),
      mac48_patch_self _ (by omega)]

/-! ### Moves -/

/-- The packets that wait can be sent, and since the trace was `old` nothing has
been rejected. -/
structure GateOk (ifs : List SrIf) (old : List (ℕ × Obs)) (c : Config) : Prop where
  ifList : c.router.ifList = ifs
  packets : ∀ a r, c.router.findReq a = some r → ∀ p ∈ r.packets, Deliverable ifs p
  trace : ∃ new, c.router.trace = old ++ new ∧ ∀ o ∈ new, Passes ifs o.2

lemma Move.deliverable (h : Move e c c') (hifs : c.router.ifList = ifs)
    (hc : ∀ a r, c.router.findReq a = some r → ∀ p ∈ r.packets, Deliverable ifs p) :
    ∀ a r, c'.router.findReq a = some r → ∀ p ∈ r.packets, Deliverable ifs p := by
  intro a r' hf' p hp
  cases h.reqChange hf' with
  | same hf => exact hc a r' hf p hp
  | @pushed frame rt i req hlen hroute hip hreq hr' hdue hacc =>
      subst hr'
      rcases List.mem_cons.1 hp with rfl | hp
      · have hok := packetOk_routedPacket (s := c.router) hlen hroute
        obtain ⟨rt', i', -, -, -, hi', -⟩ := hok.route
        exact ⟨hok.len, by rw [← hifs, hi']; rfl⟩
      · rcases hreq with hf | ⟨-, rfl⟩
        · exact hc a req hf p hp
        · simp at hp
  | bumped hf ht hn hr' =>
      subst hr'
      exact hc a _ hf p hp

/-- What a move adds to the trace passes. -/
lemma Emitted.passes {o : Obs} (h : Emitted e c o)
    (hc : ∀ a r, c.router.findReq a = some r → ∀ p ∈ r.packets, Deliverable c.router.ifList p) :
    Passes c.router.ifList o := by
  cases h with
  | complain htc => exact passes_of_not_sent (by simp)
  | answer hi => exact passes_arpFrame _ _ _ _ hi
  | drain hr hf hp => exact passes_drainObs _ _ (hc _ _ hf _ hp)
  | sweep => exact passes_of_not_sent (by simp)
  | accepted hlen hroute => exact passes_of_not_sent (by simp)
  | retry hf hp hi => exact passes_arpFrame _ _ _ _ hi
  | report hf hx hp hact => exact passes_of_not_sent (by simp)

theorem Move.gateOk {old : List (ℕ × Obs)} (h : Move e c c') (hc : GateOk ifs old c) :
    GateOk ifs old c' := by
  obtain ⟨hifs, hpk, new, htrace, hnew⟩ := hc
  obtain ⟨new', htrace', hnew'⟩ := h.extends
  refine ⟨h.later.ifList.trans hifs, h.deliverable hifs hpk, new ++ new', ?_, ?_⟩
  · rw [htrace', htrace, List.append_assoc]
  · intro o ho
    rcases List.mem_append.1 ho with ho | ho
    · exact hnew o ho
    · rw [← hifs] at hpk ⊢
      exact (hnew' o ho).2.passes hpk

/-! ### Sessions -/

/-- Between two events of a session. -/
structure SessionOk (s : Router) : Prop where
  wf : WF s
  packets : ∀ a r, s.findReq a = some r → ∀ p ∈ r.packets, Deliverable s.ifList p

lemma Step.gateOk (h : Step s e s') (hs : SessionOk s) :
    WF s' ∧ GateOk s.ifList s.trace (.rest s') :=
  (h.moves hs.wf).invariant (fun _ _ _ hm hc => hm.gateOk hc) hs.wf
    ⟨rfl, hs.packets, [], by simp [Config.rest], by simp⟩

lemma srHandleHwinfo_requests {entries : List HwEntry} (h : srHandleHwinfo s entries = .ok s') :
    s'.requests = s.requests ∧ s'.nextId = s.nextId ∧ s'.trace = s.trace := by
  rw [srHandleHwinfo] at h
  cases hfold : entries.foldlM (hwEntry s.junk) s.ifList with
  | error _ => simp [hfold, Except.map] at h
  | ok ifs =>
      rw [hfold, Except.map, Except.ok.injEq] at h
      subst h
      exact ⟨rfl, rfl, rfl⟩

lemma hwinfo_of_sessionStep {entries : List HwEntry} (h : SessionStep s (.hwinfo entries) s') :
    srHandleHwinfo s entries = .ok s' := by
  obtain ⟨fuel, h⟩ := h
  rw [sessionStep, bind_eq_ok] at h
  obtain ⟨s₁, hinfo, h⟩ := h
  split_ifs at h
  rw [Except.ok.injEq] at h
  rw [hinfo, h]

/-- Hardware information takes no interface away from a waiting packet. -/
lemma SessionStep.sessionOk {e : SessionEvent} (h : SessionStep s e s') (hs : SessionOk s) :
    SessionOk s' := by
  cases e with
  | data e =>
      obtain ⟨hw, hok⟩ := Step.gateOk (e := e) h hs
      exact ⟨hw, fun a r hf p hp => hok.ifList ▸ hok.packets a r hf p hp⟩
  | hwinfo entries =>
      have hinfo := hwinfo_of_sessionStep h
      obtain ⟨hreq, hid, -⟩ := srHandleHwinfo_requests hinfo
      refine ⟨hs.wf.congr hreq hid, ?_⟩
      intro a r hf p hp
      have hp' := hs.packets a r (by rw [Router.findReq, ← hreq]; exact hf) p hp
      exact ⟨hp'.len, srHandleHwinfo_registered hinfo hp'.iface⟩

variable {rt : List SrRt} {now : ℕ} {junk : ℕ → ℕ → UInt8} {es : List SessionEvent}

lemma sessionOk_of_run (h : Run SessionStep (Router.init ifs rt now junk) es s) : SessionOk s :=
  h.invariant (fun _ _ _ _ hs hst => hst.sessionOk hs)
    ⟨wf_init .., by simp [Router.init, Router.findReq]⟩

/-- Every frame that is passed to `sr_send_packet` in a session, in whatever
state it happens, has room for a header, bears the hardware address of the
interface that is found for the name passed along, and is not rejected. -/
theorem send_gate_passes {e : SessionEvent}
    (h : Run SessionStep (Router.init ifs rt now junk) es s) (hstep : SessionStep s e s') :
    ∃ new, s'.trace = s.trace ++ new ∧
      ∀ t origin iface frame v, (t, Obs.sent origin iface frame v) ∈ new →
        14 ≤ frame.length ∧
        (∃ i, srGetInterface s.ifList iface = some i ∧ etherShost frame = i.addr) ∧
        v = .passed := by
  have hs := sessionOk_of_run h
  cases e with
  | data e =>
      obtain ⟨-, -, -, new, htrace, hnew⟩ := Step.gateOk (e := e) hstep hs
      exact ⟨new, htrace, fun t origin iface frame v ho => hnew _ ho origin iface frame v rfl⟩
  | hwinfo entries =>
      have htrace := (srHandleHwinfo_requests (hwinfo_of_sessionStep hstep)).2.2
      exact ⟨[], by simp [htrace], by simp⟩

/-- A frame waits while the address of its interface changes, and is then sent
off. -/
theorem send_gate_passes_sample :
    ∃ s s' es e, Run SessionStep sampleRouter es s ∧ SessionStep s e s' ∧ ∃ new,
      s'.trace = s.trace ++ new ∧ new.length = 1 ∧
      ∀ t origin iface frame v, (t, Obs.sent origin iface frame v) ∈ new →
        14 ≤ frame.length ∧
        (∃ i, srGetInterface s.ifList iface = some i ∧ etherShost frame = i.addr) ∧
        v = .passed := by
  obtain ⟨s, hrun, hlast⟩ := exists_run_of_leadsTo sessionStep_of_ok
    (show leadsTo (sessionStep 5) sampleRouter
      [.data (.recv (sampleFrame (sampleIp 0 2) (sampleIp 1 2) 64 8) (sampleName 0)),
        .hwinfo [⟨32, [2, 0, 0, 0, 1, 7]⟩]]
      (fun s => leadsTo (sessionStep 5) s
        [.data (.recv (sampleReply (sampleIp 1 2) ⟨2, 0, 0, 0, 9, 9⟩) (sampleName 1))]
        fun s' => s'.trace.length = s.trace.length + 1) by decide +kernel)
  obtain ⟨s', hstep, hlen⟩ := exists_step_of_leadsTo sessionStep_of_ok hlast
  obtain ⟨new, htrace, hnew⟩ := send_gate_passes hrun hstep
  have hone := of_decide_eq_true hlen
  rw [htrace, List.length_append] at hone
  exact ⟨s, s', _, _, hrun, hstep, new, htrace, by omega, hnew⟩

end SimpleRouter
