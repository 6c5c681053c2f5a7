/-
The ARP cache.

Mappings are put into the cache by ARP replies and by nothing else, and they expire.  The
cache is never looked at, since `sr_arpcache_lookup` has no caller: the router asks for the
address of the next hop whenever it has a frame to send.  Each function is shown to do the
same whatever the cache holds, and so is every session.
-/
import SimpleRouter.Routes

namespace SimpleRouter

open Bytes CString Runs

/-- The router with another cache. -/
def Router.withEntries (s : Router) (c : List SrArpentry) : Router := { s with entries := c }

/-- The router without its cache. -/
def Router.cacheless (s : Router) : Router := s.withEntries []

variable {s s' s₁ t : Router} {fuel : ℕ} {id : ReqId} {c : List SrArpentry} {e : SrArpentry}
  {es : List SessionEvent} {packet : Frame} {interface : List UInt8}

section Fields

variable (s c) (o : Obs) (buf : List UInt8) (off n : ℕ)

lemma withEntries_self : s.withEntries s.entries = s := rfl

lemma withEntries_ifList : (s.withEntries c).ifList = s.ifList := rfl

lemma withEntries_requests : (s.withEntries c).requests = s.requests := rfl

lemma withEntries_emit : (s.emit o).withEntries c = (s.withEntries c).emit o := rfl

lemma withEntries_noteRead :
    (s.noteRead buf off n).withEntries c = (s.withEntries c).noteRead buf off n := rfl

lemma withEntries_load :
    (s.withEntries c).load buf off n
      = ((s.load buf off n).1, (s.load buf off n).2.withEntries c) := rfl

lemma withEntries_peek : (s.withEntries c).peek buf off n = s.peek buf off n := rfl

lemma withEntries_findReq : (s.withEntries c).findReq id = s.findReq id := rfl

end Fields

/-! ### Sending -/

lemma srSendPacket_withEntries (s : Router) (origin : Origin) (buf : Frame) (iface : List UInt8) :
    srSendPacket (s.withEntries c) origin buf iface
      = (srSendPacket s origin buf iface).withEntries c := by
  rw [srSendPacket_eq, srSendPacket_eq]
  split_ifs
  · rfl
  · rfl

lemma sendArpRequest_withEntries (s : Router) (id : ReqId) (ip : Ip) (name : List UInt8) :
    sendArpRequest (s.withEntries c) id ip name = (sendArpRequest s id ip name).withEntries c := by
  rw [sendArpRequest, sendArpRequest]
  cases hi : srGetInterface s.ifList name with
  | none => rw [withEntries_ifList, hi]
  | some i =>
      rw [withEntries_ifList, hi]
      exact srSendPacket_withEntries ..

lemma retryArp_withEntries (s : Router) (req : SrArpreq) :
    retryArp (s.withEntries c) req = (retryArp s req).withEntries c := by
  rw [retryArp, retryArp]
  cases req.packets with
  | nil => rfl
  | cons pkt rest =>
      simp only [sendArpRequest_withEntries]
      rfl

lemma drainPackets_withEntries (sha : Mac) (sip : Ip) (pkts : List SrPacket) (s : Router) :
    drainPackets sha sip pkts (s.withEntries c) = (drainPackets sha sip pkts s).withEntries c := by
  induction pkts generalizing s with
  | nil => rfl
  | cons pkt rest ih =>
      rw [drainPackets_cons, drainPackets_cons]
      split_ifs
      · exact ih s
      · rw [← ih, ← srSendPacket_withEntries]
        rfl

/-! ### Queueing -/

lemma addPacket_withEntries (s : Router) (id : ReqId) (packet : Frame) (iface : List UInt8) :
    addPacket (s.withEntries c) id packet iface = (addPacket s id packet iface).withEntries c := by
  rw [addPacket, addPacket]
  split_ifs
  · rfl
  · rfl

lemma srArpcacheQueuereq_withEntries (s : Router) (ip : Ip) (packet : Frame) (iface : List UInt8) :
    srArpcacheQueuereq (s.withEntries c) ip packet iface
      = ((srArpcacheQueuereq s ip packet iface).1.withEntries c,
        (srArpcacheQueuereq s ip packet iface).2) := by
  rw [srArpcacheQueuereq, srArpcacheQueuereq]
  cases hf : s.requests.find? (·.ip = ip) with
  | none =>
      rw [withEntries_requests, hf]
      exact Prod.ext (addPacket_withEntries
        { s with requests := ⟨s.nextId, ip, 0, 0, []⟩ :: s.requests, nextId := s.nextId + 1 }
        s.nextId packet iface) rfl
  | some req =>
      rw [withEntries_requests, hf]
      exact Prod.ext (addPacket_withEntries ..) rfl

lemma routeAndQueue_withEntries (s : Router) (frame : Frame) :
    routeAndQueue (s.withEntries c) frame
      = ((routeAndQueue s frame).1.withEntries c, (routeAndQueue s frame).2) := by
  rw [routeAndQueue, routeAndQueue]
  by_cases hlen : frame.length < 14 + 20
  · rw [if_pos hlen, if_pos hlen]
  rw [if_neg hlen, if_neg hlen]
  simp only [withEntries_load]
  have hload : ∀ s : Router, ((s.load frame 14 20).2.withEntries c).routingTable
      = (s.load frame 14 20).2.routingTable := fun _ => rfl
  rw [hload]
  cases rtExactMatch (s.load frame 14 20).2.routingTable (ipDst (s.load frame 14 20).1) with
  | none => rfl
  | some rt =>
      simp only [withEntries_ifList]
      cases srGetInterface (s.load frame 14 20).2.ifList rt.interface with
      | none => rfl
      | some i =>
          simp only [← withEntries_emit, srArpcacheQueuereq_withEntries]
          rfl

/-! ### Functions that handle requests -/

/-- The function does the same whatever the cache holds, and leaves the cache alone. -/
def Blind (handle : Router → ReqId → Except Fault Router) : Prop :=
  ∀ s c id, handle (s.withEntries c) id = (handle s id).map (Router.withEntries · c)

/-- Both take the same branch. -/
lemma ite_map {α β : Type*} {c c' : Prop} [Decidable c] [Decidable c'] {g : α → β}
    {x y : Except Fault α} {x' y' : Except Fault β} (hc : c' ↔ c) (hx : x' = x.map g)
    (hy : y' = y.map g) : (if c' then x' else y') = (if c then x else y).map g := by
  rw [hx, hy, apply_ite (Except.map g)]
  exact if_congr hc rfl rfl

section Handle

variable {handle : Router → ReqId → Except Fault Router} (hh : Blind handle)

include hh

lemma routeAndSend_withEntries (s : Router) (frame : Frame) :
    routeAndSend handle (s.withEntries c) frame
      = (routeAndSend handle s frame).map fun p => (p.1, p.2.withEntries c) := by
  rw [routeAndSend, routeAndSend, routeAndQueue_withEntries]
  rcases routeAndQueue s frame with ⟨s₁, _ | id⟩
  · rfl
  · simp only [hh s₁ c id]
    cases handle s₁ id with
    | error f => rfl
    | ok s₂ => rfl

lemma sendIcmpError_withEntries (s : Router) (cause : Cause) (type code : UInt8) (orig : Frame)
    (src : Ip) :
    sendIcmpError handle (s.withEntries c) cause type code orig src
      = (sendIcmpError handle s cause type code orig src).map (Router.withEntries · c) := by
  have hsource : ∀ (s : Router) dst, returnSource (s.withEntries c) dst = returnSource s dst :=
    fun _ _ => rfl
  rw [sendIcmpError, sendIcmpError]
  simp only [Router.load, ← withEntries_emit, ← withEntries_noteRead, withEntries_peek, hsource]
  split_ifs
  all_goals try rfl
  all_goals
    rw [routeAndSend_withEntries hh]
    generalize routeAndSend handle _ _ = x
    cases x with
    | error f => rfl
    | ok p => rfl

lemma giveUpLoop_withEntries (id : ReqId) (pkts : List SrPacket) (s : Router) :
    giveUpLoop handle id pkts (s.withEntries c)
      = (giveUpLoop handle id pkts s).map (Router.withEntries · c) := by
  induction pkts generalizing s with
  | nil => rfl
  | cons pkt rest ih =>
      rw [giveUpLoop, giveUpLoop]
      split_ifs with hlen
      · exact ih s
      rw [sendIcmpError_withEntries hh]
      cases sendIcmpError handle s (.giveUp id pkt.fid) 3 1 pkt.buf 0 with
      | error f => rfl
      | ok s₁ =>
          refine ite_map Iff.rfl ?_ ?_
          · exact ih s₁
          · rfl

end Handle

lemma blind_handleArpreq (fuel : ℕ) : Blind (handleArpreq fuel) := by
  induction fuel with
  | zero => exact fun s c id => rfl
  | succ fuel ih =>
      intro s c id
      rw [handleArpreq, handleArpreq, withEntries_findReq]
      cases s.findReq id with
      | none => rfl
      | some req =>
          refine ite_map Iff.rfl rfl (ite_map Iff.rfl ?_ ?_)
          · rw [giveUpLoop_withEntries ih]
            cases giveUpLoop (handleArpreq fuel) id req.packets s with
            | error f => rfl
            | ok s₁ => rfl
          · rw [retryArp_withEntries]
            rfl

/-! ### Received frames -/

section HandleIp

variable {handle : Router → ReqId → Except Fault Router} (hh : Blind handle)

include hh

lemma handleIpForUs_withEntries (s : Router) (packet : Frame) (ip : List UInt8) :
    handleIpForUs handle (s.withEntries c) packet ip
      = (handleIpForUs handle s packet ip).map fun p => (p.1.withEntries c, p.2) := by
  rw [handleIpForUs, handleIpForUs]
  refine ite_map Iff.rfl (ite_map Iff.rfl rfl (ite_map Iff.rfl (ite_map Iff.rfl rfl ?_) rfl)) rfl
  simp only [← withEntries_noteRead, withEntries_peek]
  rw [routeAndSend_withEntries hh]
  generalize routeAndSend handle _ _ = x
  cases x with
  | error f => rfl
  | ok p => rfl

lemma handleIpTransit_withEntries (s : Router) (packet : Frame) (interface ip : List UInt8) :
    handleIpTransit handle (s.withEntries c) packet interface ip
      = (handleIpTransit handle s packet interface ip).map (Router.withEntries · c) := by
  have hsource : ∀ s : Router,
      arrivalSource (s.withEntries c) interface = arrivalSource s interface := fun _ => rfl
  rw [handleIpTransit, handleIpTransit]
  simp only [← withEntries_noteRead, hsource]
  split_ifs
  · exact sendIcmpError_withEntries hh ..
  · rw [routeAndSend_withEntries hh]
    generalize routeAndSend handle _ _ = x
    rcases x with f | ⟨rc, s₁⟩
    · rfl
    · refine ite_map Iff.rfl ?_ rfl
      exact sendIcmpError_withEntries hh ..

lemma handleIpPacket_withEntries (s : Router) (packet : Frame) (interface : List UInt8) :
    handleIpPacket handle (s.withEntries c) packet interface
      = (handleIpPacket handle s packet interface).map fun p => (p.1.withEntries c, p.2) := by
  rw [handleIpPacket, handleIpPacket]
  refine ite_map Iff.rfl rfl (ite_map Iff.rfl rfl (ite_map Iff.rfl rfl (ite_map Iff.rfl rfl
    (ite_map Iff.rfl rfl ?_))))
  simp only [← withEntries_noteRead, withEntries_peek]
  rw [withEntries_ifList]
  cases findIfaceForIp _ _ with
  | some i => exact handleIpForUs_withEntries hh ..
  | none =>
      simp only [handleIpTransit_withEntries hh]
      generalize handleIpTransit handle _ _ _ _ = x
      cases x with
      | error f => rfl
      | ok s₁ => rfl

end HandleIp

/-- The packet list of the request that is taken off the queue does not depend on the cache. -/
lemma srArpcacheInsert_cacheless (s : Router) (mac : Mac) (ip : Ip) :
    srArpcacheInsert s.cacheless mac ip
      = ((srArpcacheInsert s mac ip).1, (srArpcacheInsert s mac ip).2.cacheless) := rfl

lemma handleArpValid_cacheless (s : Router) (arp : List UInt8) (i : SrIf) :
    handleArpValid s.cacheless arp i = (handleArpValid s arp i).cacheless := by
  rw [handleArpValid, handleArpValid]
  split_ifs
  · exact srSendPacket_withEntries ..
  · rfl
  · rw [srArpcacheInsert_cacheless]
    rcases srArpcacheInsert s (arSha arp) (arSip arp) with ⟨_ | req, s₁⟩
    · rfl
    · have hdrain := drainPackets_withEntries (c := []) (arSha arp) (arSip arp) req.packets s₁
      exact congrArg (srArpreqDestroy · req.id) hdrain
  · rfl

lemma handleArpPacket_cacheless (s : Router) (packet : Frame) (interface : List UInt8) :
    handleArpPacket s.cacheless packet interface
      = (handleArpPacket s packet interface).cacheless := by
  by_cases hlen : 42 ≤ packet.length
  · have hifs : s.cacheless.ifList = s.ifList := rfl
    have hnote : s.cacheless.noteRead packet 14 28 = (s.noteRead packet 14 28).cacheless := rfl
    rw [handleArpPacket_eq _ _ hlen, handleArpPacket_eq _ _ hlen, hifs, hnote]
    split_ifs
    · rfl
    · cases srGetInterface s.ifList interface with
      | none => rfl
      | some i => exact handleArpValid_cacheless ..
  · rw [handleArpPacket, handleArpPacket, if_pos (show packet.length < 14 + 28 by omega),
      if_pos (show packet.length < 14 + 28 by omega)]

lemma srHandlepacket_cacheless (fuel : ℕ) (s : Router) (packet : Frame) (interface : List UInt8) :
    srHandlepacket fuel s.cacheless packet interface
      = (srHandlepacket fuel s packet interface).map fun p => (p.1.cacheless, p.2) := by
  rw [srHandlepacket, srHandlepacket]
  refine ite_map Iff.rfl rfl (ite_map Iff.rfl ?_ (ite_map Iff.rfl ?_ rfl))
  · exact congrArg (fun t => Except.ok (t, packet))
      (handleArpPacket_cacheless (s.noteRead packet 0 14) packet interface)
  · exact handleIpPacket_withEntries (blind_handleArpreq fuel) (s.noteRead packet 0 14) packet
      interface

/-! ### Sessions -/

lemma sweepFrom_withEntries {handle : Router → ReqId → Except Fault Router} (hh : Blind handle)
    (n : ℕ) (s : Router) (cur : Option ReqId) :
    sweepFrom handle n (s.withEntries c) cur
      = (sweepFrom handle n s cur).map (Router.withEntries · c) := by
  induction n generalizing s cur with
  | zero =>
      cases cur with
      | none => rfl
      | some id => rfl
  | succ n ih =>
      cases cur with
      | none => rfl
      | some id =>
          rw [sweepFrom, sweepFrom, withEntries_requests]
          cases nextReq s.requests id with
          | none => rfl
          | some next =>
              simp only [← withEntries_emit, hh (s.emit (.swept id)) c id]
              cases handle (s.emit (.swept id)) id with
              | error f => rfl
              | ok s₁ => exact ih s₁ next

lemma step_cacheless (fuel : ℕ) (s : Router) (e : Event) :
    step fuel s.cacheless e = (step fuel s e).map Router.cacheless := by
  cases e with
  | recv packet interface =>
      rw [step, step, srHandlepacket_cacheless]
      cases srHandlepacket fuel s packet interface with
      | error f => rfl
      | ok p => rfl
  | sweep => exact sweepFrom_withEntries (blind_handleArpreq fuel) fuel (expireEntries s) _
  | tick d => rfl

lemma sessionStep_cacheless (fuel : ℕ) (s : Router) (e : SessionEvent) :
    sessionStep fuel s.cacheless e = (sessionStep fuel s e).map Router.cacheless := by
  cases e with
  | data e => exact step_cacheless fuel s e
  | hwinfo entries =>
      have hinfo : srHandleHwinfo s.cacheless entries
          = (srHandleHwinfo s entries).map Router.cacheless := by
        rw [srHandleHwinfo, srHandleHwinfo]
        change Except.map _ (entries.foldlM (hwEntry s.junk) s.ifList) = _
        cases entries.foldlM (hwEntry s.junk) s.ifList with
        | error f => rfl
        | ok ifs => rfl
      rw [sessionStep, sessionStep, hinfo]
      cases srHandleHwinfo s entries with
      | error f => rfl
      | ok s₁ =>
          refine ite_map Iff.rfl ?_ ?_
          · rfl
          · rfl

lemma SessionStep.cacheless {e : SessionEvent} (h : SessionStep s e s') :
    SessionStep s.cacheless e s'.cacheless := by
  obtain ⟨fuel, h⟩ := h
  exact ⟨fuel, by rw [sessionStep_cacheless, h]; rfl⟩

lemma SessionStep.of_cacheless {e : SessionEvent} (h : SessionStep s.cacheless e t) :
    ∃ s', SessionStep s e s' ∧ s'.cacheless = t := by
  obtain ⟨fuel, h⟩ := h
  rw [sessionStep_cacheless] at h
  cases hstep : sessionStep fuel s e with
  | error f => simp [hstep, Except.map] at h
  | ok s' =>
      rw [hstep, Except.map, Except.ok.injEq] at h
      exact ⟨s', ⟨fuel, hstep⟩, h⟩

/-- The cache has no effect: routers that differ in their caches only, in whatever they hold
and however large they are, go through the same sessions and still differ in their caches
only at the end; they have sent the same frames in the same order. -/
theorem cache_has_no_effect (h : s.cacheless = t.cacheless) (hrun : Run SessionStep s es s') :
    ∃ t', Run SessionStep t es t' ∧ s'.cacheless = t'.cacheless ∧ s'.trace = t'.trace ∧
      s'.requests = t'.requests := by
  have hblind : Run SessionStep t.cacheless es s'.cacheless :=
    h ▸ hrun.map (g := Router.cacheless) fun _ _ _ hst => hst.cacheless
  obtain ⟨t', hrun', ht'⟩ := hblind.lift fun _ _ _ hst => hst.of_cacheless
  have htrace : t'.cacheless.trace = s'.cacheless.trace := by rw [ht']
  have hrequests : t'.cacheless.requests = s'.cacheless.requests := by rw [ht']
  exact ⟨t', hrun', ht'.symm, htrace.symm, hrequests.symm⟩

/-- The cache holds the address of the next hop, or nothing: the router asks for it. -/
theorem cache_has_no_effect_sample :
    ∃ es s' t', Run SessionStep
        (sampleRouter.withEntries [⟨⟨2, 0, 0, 0, 9, 9⟩, sampleIp 1 2, 1, true⟩]) es s' ∧
      Run SessionStep sampleRouter es t' ∧ s'.trace = t'.trace ∧
      (sentFrames s'.trace).length = 1 := by
  obtain ⟨s', hrun, hlen⟩ := exists_run_of_leadsTo sessionStep_of_ok
    (show leadsTo (sessionStep 5)
      (sampleRouter.withEntries [⟨⟨2, 0, 0, 0, 9, 9⟩, sampleIp 1 2, 1, true⟩])
      [.data (.recv (sampleFrame (sampleIp 0 2) (sampleIp 1 2) 64 8) (sampleName 0))]
      (fun s => (sentFrames s.trace).length = 1) by decide +kernel)
  have hsame : (sampleRouter.withEntries [⟨⟨2, 0, 0, 0, 9, 9⟩, sampleIp 1 2, 1, true⟩]).cacheless
      = sampleRouter.cacheless := rfl
  obtain ⟨t', hrun', -, htrace, -⟩ := cache_has_no_effect hsame hrun
  exact ⟨_, s', t', hrun, hrun', htrace, of_decide_eq_true hlen⟩

/-! ### What the cache holds -/

/-- What is the same with whatever cache `c` has left the cache `c` alone. -/
lemma entries_of_eq_withEntries (h : s = s.withEntries c) : s.entries = c :=
  congrArg Router.entries h

lemma routeAndSend_entries {frame : Frame} {rc : ℤ}
    (h : routeAndSend (handleArpreq fuel) s frame = .ok (rc, s')) : s'.entries = s.entries := by
  have hsame := routeAndSend_withEntries (c := s.entries) (blind_handleArpreq fuel) s frame
  rw [withEntries_self, h, Except.map, Except.ok.injEq, Prod.mk.injEq] at hsame
  exact entries_of_eq_withEntries hsame.2

lemma sendIcmpError_entries {cause : Cause} {type code : UInt8} {src : Ip}
    (h : sendIcmpError (handleArpreq fuel) s cause type code packet src = .ok s') :
    s'.entries = s.entries := by
  have hsame := sendIcmpError_withEntries (c := s.entries) (blind_handleArpreq fuel) s cause type
    code packet src
  rw [withEntries_self, h, Except.map, Except.ok.injEq] at hsame
  exact entries_of_eq_withEntries hsame

lemma sweepFrom_entries {n : ℕ} {cur : Option ReqId}
    (h : sweepFrom (handleArpreq fuel) n s cur = .ok s') : s'.entries = s.entries := by
  have hsame := sweepFrom_withEntries (c := s.entries) (blind_handleArpreq fuel) n s cur
  rw [withEntries_self, h, Except.map, Except.ok.injEq] at hsame
  exact entries_of_eq_withEntries hsame

lemma sweepFrom_now {n : ℕ} {cur : Option ReqId} (hw : WF s)
    (h : sweepFrom (handleArpreq fuel) n s cur = .ok s') : s'.now = s.now := by
  induction n generalizing s cur with
  | zero =>
      rcases sweepFrom_cases h with ⟨-, rfl⟩ | ⟨m, id, next, s₁, hn, -⟩
      · rfl
      · omega
  | succ n ih =>
      rcases sweepFrom_cases h with ⟨-, rfl⟩ | ⟨m, id, next, s₁, hn, -, hnext, hcall, hrest⟩
      · rfl
      · obtain rfl : n = m := by omega
        have htidy := tidy_of_handleArpreq (hw.emit _) hcall
        exact (ih htidy.wf hrest).trans htidy.sameEnv.now

lemma Quiet.entries (h : Quiet s s') : s'.entries = s.entries := entries_of_core h.core

lemma IpOutcome.entries (h : IpOutcome (handleArpreq fuel) s packet interface s') :
    s'.entries = s.entries := by
  cases h with
  | dropped hq hno => exact hq.entries
  | echoed hq hv hus hecho hsend => exact (routeAndSend_entries hsend).trans hq.entries
  | expired hq ht httl herr => exact (sendIcmpError_entries herr).trans hq.entries
  | forwarded hq ht httl hsend => exact (routeAndSend_entries hsend).trans hq.entries
  | unroutable hq ht httl hno herr => exact (sendIcmpError_entries herr).trans hq.entries

/-- The mapping that an ARP reply tells, as it is entered at the time `now`. -/
def toldBy (packet : Frame) (now : ℕ) : SrArpentry :=
  ⟨arSha (slice packet 14 28), arSip (slice packet 14 28), now, true⟩

/-- Only an ARP reply changes the cache when a frame arrives. -/
lemma ArpOutcome.entries (h : ArpOutcome s packet interface s') :
    s'.entries = s.entries ∨
      ArpReply s packet interface ∧ s'.entries = insertEntry (toldBy packet s.now) s.entries := by
  cases h with
  | ignored hq hno => exact Or.inl hq.entries
  | @answered s₁ i hq hno hr =>
      exact Or.inl ((entries_of_core (sendArpReply_core _ _ _)).trans hq.entries)
  | @learned s₁ hq hr hnone =>
      refine Or.inr ⟨hr, ?_⟩
      rw [toldBy, ← hq.entries, ← now_of_core hq.core]
      rfl
  | @drained s₁ s' req hq hr hf hip hcore htrace hreads =>
      refine Or.inr ⟨hr, ?_⟩
      rw [entries_of_core hcore, toldBy, ← hq.entries, ← now_of_core hq.core]
      rfl

lemma ArpReply.congr (h : ArpReply s₁ packet interface) (hifs : s₁.ifList = s.ifList) :
    ArpReply s packet interface :=
  ⟨h.len, h.hrd, h.pro, h.op, hifs ▸ h.iface⟩

/-- What an event does to the cache. -/
inductive Caches (s : Router) : SessionEvent → Router → Prop
  | same {e : SessionEvent} {s' : Router} (h : s'.entries = s.entries)
      (hsweep : e ≠ .data .sweep) : Caches s e s'
  | told {packet : Frame} {interface : List UInt8} {s' : Router}
      (hr : ArpReply s packet interface)
      (h : s'.entries = insertEntry (toldBy packet s.now) s.entries) :
      Caches s (.data (.recv packet interface)) s'
  | expired {s' : Router} (h : s'.entries = (expireEntries s).entries) (hnow : s'.now = s.now) :
      Caches s (.data .sweep) s'

lemma SessionStep.caches {e : SessionEvent} (h : SessionStep s e s') (hw : WF s) :
    Caches s e s' := by
  cases e with
  | hwinfo entries =>
      refine .same ?_ (by simp)
      have hinfo := hwinfo_of_sessionStep h
      rw [srHandleHwinfo] at hinfo
      cases hfold : entries.foldlM (hwEntry s.junk) s.ifList with
      | error f => simp [hfold, Except.map] at hinfo
      | ok ifs =>
          rw [hfold, Except.map, Except.ok.injEq] at hinfo
          rw [← hinfo]
  | data e =>
      have hstep : Step s e s' := h
      cases e with
      | tick d =>
          obtain ⟨fuel, htick⟩ := hstep
          rw [step, Except.ok.injEq] at htick
          exact .same (by rw [← htick]) (by simp)
      | sweep =>
          obtain ⟨fuel, hsweep⟩ := hstep
          rw [step, srArpcacheTimeout, srArpcacheSweepreqs] at hsweep
          have hw' : WF (expireEntries s) := hw.congr rfl rfl
          have hnow : s'.now = (expireEntries s).now := sweepFrom_now hw' hsweep
          exact .expired (sweepFrom_entries hsweep) hnow
      | recv packet interface =>
          obtain ⟨fuel, hout⟩ := hstep.outcome hw
          cases hout with
          | ignored hq hno => exact .same hq.entries (by simp)
          | @arp s₁ _ htype hq harp =>
              rcases harp.entries with hsame | ⟨hr, htold⟩
              · exact .same (hsame.trans hq.entries) (by simp)
              · refine .told (hr.congr (ifList_of_core hq.core)) ?_
                rw [htold, hq.entries, now_of_core hq.core]
          | ip htype hip => exact .same hip.entries (by simp)

/-! ### Slots -/

lemma length_insertEntry (e : SrArpentry) (c : List SrArpentry) :
    (insertEntry e c).length = c.length := by
  induction c with
  | nil => rfl
  | cons x c ih =>
      rw [insertEntry]
      split_ifs
      · rw [List.length_cons, ih, List.length_cons]
      · rfl

lemma mem_of_mem_insertEntry {x : SrArpentry} (h : e ∈ insertEntry x c) : e = x ∨ e ∈ c := by
  induction c with
  | nil => simp [insertEntry] at h
  | cons y c ih =>
      rw [insertEntry] at h
      split_ifs at h
      · rcases List.mem_cons.1 h with rfl | h
        · exact Or.inr List.mem_cons_self
        · exact (ih h).imp_right (List.mem_cons_of_mem _)
      · rcases List.mem_cons.1 h with rfl | h
        · exact Or.inl rfl
        · exact Or.inr (List.mem_cons_of_mem _ h)

/-- What is valid after the first loop of `sr_arpcache_timeout` was told 15 seconds ago at
the most. -/
lemma mem_expireEntries_iff (hv : e.valid = true) :
    e ∈ (expireEntries s).entries ↔ e ∈ s.entries ∧ s.now ≤ e.added + 15 := by
  have hmap : (expireEntries s).entries = s.entries.map fun e =>
      if e.valid && decide (15 < s.now - e.added) then { e with valid := false } else e := rfl
  rw [hmap, List.mem_map]
  constructor
  · rintro ⟨x, hx, hxe⟩
    split_ifs at hxe with hold
    · rw [← hxe] at hv
      simp at hv
    · subst hxe
      simp only [hv, Bool.true_and, decide_eq_true_eq] at hold
      exact ⟨hx, by omega⟩
  · rintro ⟨he, hage⟩
    refine ⟨e, he, if_neg ?_⟩
    simp only [hv, Bool.true_and, decide_eq_true_eq]
    omega

lemma Caches.length {ev : SessionEvent} (h : Caches s ev s') :
    s'.entries.length = s.entries.length := by
  cases h with
  | same h hsweep => rw [h]
  | told hr h => rw [h, length_insertEntry]
  | expired h hnow =>
      rw [h]
      exact List.length_map _

/-- The entry was told by an ARP reply that arrived in the run. -/
def ToldIn (s : Router) (es : List SessionEvent) (e : SrArpentry) : Prop :=
  ∃ es₁ packet interface es₂ s₁, es = es₁ ++ .data (.recv packet interface) :: es₂ ∧
    Run SessionStep s es₁ s₁ ∧ ArpReply s₁ packet interface ∧ e = toldBy packet s₁.now

lemma ToldIn.cons {ev : SessionEvent} (hst : SessionStep s ev t) (h : ToldIn t es e) :
    ToldIn s (ev :: es) e := by
  obtain ⟨es₁, packet, interface, es₂, s₁, rfl, hrun, hr, he⟩ := h
  exact ⟨ev :: es₁, packet, interface, es₂, s₁, rfl, .cons hst hrun, hr, he⟩

/-- A valid entry was there before, or was told. -/
lemma told_of_run (h : Run SessionStep s es s') (hw : WF s) (he : e ∈ s'.entries)
    (hv : e.valid = true) : e ∈ s.entries ∨ ToldIn s es e := by
  induction h with
  | nil s => exact Or.inl he
  | @cons s t s' ev es hst hrest ih =>
      rcases ih (hst.routes hw).1 he with hmem | htold
      · cases hst.caches hw with
        | same h hsweep => exact Or.inl (h ▸ hmem)
        | @told packet interface _ hr h =>
            rw [h] at hmem
            rcases mem_of_mem_insertEntry hmem with rfl | hmem
            · exact Or.inr ⟨[], packet, interface, es, s, rfl, .nil s, hr, rfl⟩
            · exact Or.inl hmem
        | expired h hnow =>
            rw [h] at hmem
            exact Or.inl ((mem_expireEntries_iff hv).1 hmem).1
      · exact Or.inr (htold.cons hst)

variable {ifs : List SrIf} {rt : List SrRt} {now : ℕ} {junk : ℕ → ℕ → UInt8}

/-- In a session the cache has its 100 slots, and every mapping in it was told by an ARP
reply, at the time that is noted with it; a pass of `sr_arpcache_timeout` takes away exactly
those that were told more than 15 seconds ago. -/
theorem cache_holds_replies (h : Run SessionStep (Router.init ifs rt now junk) es s) :
    s.entries.length = 100 ∧
      (∀ e ∈ s.entries, e.valid = true → ToldIn (Router.init ifs rt now junk) es e) ∧
      ∀ s', SessionStep s (.data .sweep) s' → ∀ e, e.valid = true →
        (e ∈ s'.entries ↔ e ∈ s.entries ∧ s.now ≤ e.added + 15) := by
  have hinv := h.invariant (I := fun t => WF t ∧ t.entries.length = 100)
    (fun _ _ _ _ hI hst => ⟨(hst.routes hI.1).1, (hst.caches hI.1).length.trans hI.2⟩)
    ⟨wf_init .., List.length_replicate⟩
  refine ⟨hinv.2, ?_, ?_⟩
  · intro e he hv
    refine (told_of_run h (wf_init ..) he hv).resolve_left fun hinit => ?_
    rw [List.eq_of_mem_replicate hinit] at hv
    simp at hv
  · intro s' hst e hv
    cases hst.caches hinv.1 with
    | same h hsweep => exact absurd rfl hsweep
    | expired h hnow => rw [h, mem_expireEntries_iff hv]

/-- `10.0.0.2` gives its hardware address, and ten seconds go by. -/
theorem cache_holds_replies_sample :
    ∃ es s, Run SessionStep sampleRouter es s ∧
      (∃ e ∈ s.entries, e.valid = true ∧ ToldIn sampleRouter es e ∧
        ∀ s', SessionStep s (.data .sweep) s' → e ∈ s'.entries) := by
  obtain ⟨s, hrun, hany⟩ := exists_run_of_leadsTo sessionStep_of_ok
    (show leadsTo (sessionStep 5) sampleRouter
      [.data (.recv (sampleReply (sampleIp 0 2) ⟨2, 0, 0, 0, 9, 9⟩) (sampleName 0)),
        .data (.tick 10)]
      (fun s => s.entries.any fun e => e.valid ∧ s.now ≤ e.added + 15) by decide +kernel)
  obtain ⟨e, he, hage⟩ := List.any_eq_true.1 hany
  obtain ⟨hv, hage⟩ := of_decide_eq_true hage
  obtain ⟨-, htold, hsweep⟩ := cache_holds_replies hrun
  exact ⟨_, s, hrun, e, he, hv, htold e he hv, fun s' hst => (hsweep s' hst e hv).2 ⟨he, hage⟩⟩

end SimpleRouter
