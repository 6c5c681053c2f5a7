/-
ARP requests, and the filter in front of the router.

`sr_read_from_server_expect` looks at the frame of a packet message before it passes the
frame to `sr_handlepacket`: `sr_arp_req_not_for_us` recognises ARP requests for other
addresses, which are dropped.  It checks less than `handle_arp_packet` does, and the two
were written apart; on a frame that the filter drops the handler does nothing either.

The filter also insists on knowing the interface, where the router treats an unknown
interface as a reason to drop the frame: it calls `assert`, and the program ends.

What the filter reads lies inside the frame, since it looks at nothing before it has
checked the length, and is not recorded.
-/
import SimpleRouter.Rejected
import SimpleRouter.Gate
import SimpleRouter.Codec

namespace SimpleRouter

open Bytes CString

variable {s s' : Router} {packet : Frame} {interface : List UInt8} {i : SrIf}

/-! ### The filter -/

/-- `sr_arp_req_not_for_us`. -/
def srArpReqNotForUs (ifs : List SrIf) (packet : Frame) (interface : List UInt8) :
    Except Fault Bool :=
  let iface := srGetInterface ifs interface
  if packet.length < 14 + 28 then .ok false
  else
    match iface with
    | none => .error .assertFailed
    | some iface =>
        .ok (ethertype packet = ethertypeArp ∧ arOp (slice packet 14 28) = 1 ∧
          arTip (slice packet 14 28) ≠ iface.ip)

/-- The case `VNSPACKET` of `sr_read_from_server_expect`, for the frame and the name of
the message. -/
def readVnspacket (fuel : ℕ) (s : Router) (packet : Frame) (interface : List UInt8) :
    Except Fault Router := do
  let notForUs ← srArpReqNotForUs s.ifList packet interface
  if notForUs then .ok s
  else
    let (s, _) ← srHandlepacket fuel s packet interface
    .ok s

/-- What can be seen of a router: its observations, the queue and the cache. -/
def Router.visible (s : Router) : List (ℕ × Obs) × List SrArpreq × List SrArpentry :=
  (s.trace, s.requests, s.entries)

lemma srArpReqNotForUs_of_registered (hi : srGetInterface s.ifList interface = some i) :
    srArpReqNotForUs s.ifList packet interface =
      .ok (42 ≤ packet.length ∧ ethertype packet = ethertypeArp ∧
        arOp (slice packet 14 28) = 1 ∧ arTip (slice packet 14 28) ≠ i.ip) := by
  rw [srArpReqNotForUs, hi]
  by_cases hlen : packet.length < 14 + 28
  · rw [if_pos hlen]
    have hshort : ¬ 42 ≤ packet.length := by omega
    simp [hshort]
  · have hlong : 42 ≤ packet.length := by omega
    rw [if_neg hlen]
    simp [hlong]

/-- What the filter drops, the handler only looks at. -/
lemma rejected_of_filtered (hi : srGetInterface s.ifList interface = some i)
    (h : srArpReqNotForUs s.ifList packet interface = .ok true) :
    Rejected s packet interface := by
  rw [srArpReqNotForUs_of_registered hi, Except.ok.injEq, decide_eq_true_eq] at h
  obtain ⟨-, htype, hop, htip⟩ := h
  exact .arp htype (.target hi hop htip)

/-- The filter cannot be seen from outside. -/
lemma readVnspacket_visible (fuel : ℕ) (hi : srGetInterface s.ifList interface = some i) :
    (readVnspacket fuel s packet interface).map Router.visible =
      (srHandlepacket fuel s packet interface).map fun p => p.1.visible := by
  rw [readVnspacket]
  cases hfilter : srArpReqNotForUs s.ifList packet interface with
  | error f =>
      rw [srArpReqNotForUs_of_registered hi] at hfilter
      simp at hfilter
  | ok drop =>
      cases drop with
      | true =>
          obtain ⟨s', hq, hret⟩ := (rejected_of_filtered hi hfilter).quiet
          have hsame : s'.visible = s.visible := by
            rw [Router.visible, Router.visible, hq.trace, requests_of_core hq.core,
              entries_of_core hq.core]
          rw [hret fuel]
          simp [bind, Except.bind, Except.map, hsame]
      | false =>
          cases srHandlepacket fuel s packet interface with
          | error f => rfl
          | ok p => rfl

/-! ### Answers -/

/-- An ARP request for `ip`. -/
structure ArpAsks (packet : Frame) (ip : Ip) : Prop where
  len : 42 ≤ packet.length
  type : ethertype packet = ethertypeArp
  hrd : arHrd (slice packet 14 28) = 1
  pro : arPro (slice packet 14 28) = ethertypeIp
  op : arOp (slice packet 14 28) = 1
  tip : arTip (slice packet 14 28) = ip

/-- `g` is the reply of the interface `i` to a request that was sent by `sip` with the
hardware address `sha`. -/
structure ArpAnswer (sha : Mac) (sip : Ip) (i : SrIf) (g : Frame) : Prop where
  len : g.length = 42
  dhost : etherDhost g = sha
  shost : etherShost g = i.addr
  type : ethertype g = ethertypeArp
  hrd : arHrd (slice g 14 28) = 1
  pro : arPro (slice g 14 28) = ethertypeIp
  op : arOp (slice g 14 28) = 2
  senderMac : arSha (slice g 14 28) = i.addr
  senderIp : arSip (slice g 14 28) = i.ip
  targetMac : mac48 (slice g 14 28) 18 = sha
  targetIp : arTip (slice g 14 28) = sip

/-- An ARP reply of the router is among the observations. -/
def ArpAnswers (obs : List (ℕ × Obs)) : Prop :=
  ∃ t name g v, (t, Obs.sent .arpReply name g v) ∈ obs

/-- The frame that `send_arp_reply` builds. -/
lemma arpAnswer_arpFrame (sha : Mac) (sip : Ip) (i : SrIf) :
    ArpAnswer sha sip i (arpFrame sha i 2 sha sip) :=
  ⟨rfl, rfl, rfl, u16_be16 (by decide), u16_be16 (by decide), u16_be16 (by decide),
    u16_be16 (by decide), rfl, rfl, rfl, rfl⟩

/-- Between the two states the router did not answer an ARP request. -/
def Silent (s s' : Router) : Prop := ∃ new, s'.trace = s.trace ++ new ∧ ¬ ArpAnswers new

lemma Silent.refl (s : Router) : Silent s s := ⟨[], by simp, by simp [ArpAnswers]⟩

lemma Silent.of_trace (h : s'.trace = s.trace) : Silent s s' :=
  ⟨[], by simp [h], by simp [ArpAnswers]⟩

lemma Silent.trans {s₁ s₂ s₃ : Router} (h : Silent s₁ s₂) (h' : Silent s₂ s₃) : Silent s₁ s₃ := by
  obtain ⟨new, htrace, hnew⟩ := h
  obtain ⟨new', htrace', hnew'⟩ := h'
  refine ⟨new ++ new', by rw [htrace', htrace, List.append_assoc], ?_⟩
  rintro ⟨t, name, g, v, hmem⟩
  rcases List.mem_append.1 hmem with hmem | hmem
  · exact hnew ⟨t, name, g, v, hmem⟩
  · exact hnew' ⟨t, name, g, v, hmem⟩

lemma Silent.of_one {o : Obs} (h : s'.trace = s.trace ++ [(s.now, o)])
    (ho : ∀ name g v, o ≠ .sent .arpReply name g v) : Silent s s' := by
  refine ⟨_, h, ?_⟩
  rintro ⟨t, name, g, v, hmem⟩
  rw [List.mem_singleton, Prod.mk.injEq] at hmem
  exact ho name g v hmem.2.symm

/-! ### IP frames are never answered so -/

lemma routeAndQueue_silent (s : Router) (frame : Frame) : Silent s (routeAndQueue s frame).1 := by
  by_cases hlen : frame.length < 34
  · rw [routeAndQueue, if_pos hlen]
    exact .refl s
  rw [not_lt] at hlen
  cases hroute : lookupRoute s (ip32 frame 30) with
  | none =>
      rw [routeAndQueue_of_no_route hlen hroute]
      exact .of_trace rfl
  | some p =>
      obtain ⟨rt, out⟩ := p
      obtain ⟨s', nid, heq, hq⟩ := routeAndQueue_of_route hlen hroute
      have htrace := queuedOn_trace s frame rt out
      rw [queuedOn, hq] at htrace
      rw [heq]
      exact .of_one htrace (by simp)

lemma retryArp_silent (s : Router) (req : SrArpreq) : Silent s (retryArp s req) := by
  refine ⟨_, retryArp_trace s req, ?_⟩
  rintro ⟨t, name, g, v, hmem⟩
  obtain ⟨p, rest, i, -, -, hobs⟩ := of_mem_retryObs hmem
  simp at hobs

lemma Exec.silent {c : Call} (h : Exec c s s') : Silent s s' := by
  induction h with
  | idle hf ht => exact .refl _
  | retry hf ht hn => exact retryArp_silent _ _
  | expire hf hx hloop ih => exact ih.trans (.of_trace rfl)
  | done => exact .refl _
  | short hl hrest ih => exact ih
  | @mute s s' id pkt rest hl hsrc hlive hrest ih =>
      have hnoted : Silent s (noted s id pkt) := .of_one rfl (by simp)
      exact hnoted.trans ih
  | @report s s₁ s₂ s' id nid pkt rest hl hsrc hq hcall hlive hrest ih₁ ih₂ =>
      have hquoted : Silent s (quoted s id pkt) := .of_one rfl (by simp)
      have hqueue := routeAndQueue_silent (quoted s id pkt) (unreachableFrame s id pkt)
      rw [hq] at hqueue
      exact hquoted.trans (hqueue.trans (ih₁.trans ih₂))

lemma routeAndSend_silent {fuel : ℕ} {frame : Frame} {rc : ℤ}
    (h : routeAndSend (handleArpreq fuel) s frame = .ok (rc, s')) : Silent s s' := by
  have hqueue := routeAndQueue_silent s frame
  rw [routeAndSend_eq_ok_iff] at h
  rcases h with ⟨hq, -⟩ | ⟨s₁, nid, hq, hcall, -⟩
  · rw [hq] at hqueue
    exact hqueue
  · rw [hq] at hqueue
    exact hqueue.trans (exec_of_handleArpreq hcall).silent

lemma sendIcmpError_silent {fuel : ℕ} {cause : Cause} {type code : UInt8} {orig : Frame} {src : Ip}
    (hl : 34 ≤ orig.length)
    (h : sendIcmpError (handleArpreq fuel) s cause type code orig src = .ok s') : Silent s s' := by
  rcases sendIcmpError_cases hl h with ⟨-, rfl⟩ | ⟨-, rc, hsend⟩
  · exact .of_one rfl (by simp)
  · have hquoted : Silent s
        (((s.emit (.icmpError type code cause)).noteRead orig 14 20).noteRead orig 14 28) :=
      .of_one rfl (by simp)
    exact hquoted.trans (routeAndSend_silent hsend)

lemma IpOutcome.silent {fuel : ℕ} (h : IpOutcome (handleArpreq fuel) s packet interface s') :
    Silent s s' := by
  cases h with
  | dropped hq hno => exact .of_trace hq.trace
  | echoed hq hv hus hecho hsend =>
      exact (Silent.of_trace hq.trace).trans (routeAndSend_silent hsend)
  | expired hq ht httl herr =>
      exact (Silent.of_trace hq.trace).trans (sendIcmpError_silent ht.valid.len herr)
  | forwarded hq ht httl hsend => exact (Silent.of_trace hq.trace).trans (routeAndSend_silent hsend)
  | unroutable hq ht httl hno herr =>
      exact (Silent.of_trace hq.trace).trans (sendIcmpError_silent ht.valid.len herr)

/-! ### ARP frames -/

/-- A request for the address of its interface is answered. -/
lemma handleArpPacket_of_asks (hi : srGetInterface s.ifList interface = some i)
    (h : ArpAsks packet i.ip) :
    handleArpPacket s packet interface =
      sendArpReply (s.noteRead packet 14 28) (slice packet 14 28) i := by
  have hgood : ¬ (arHrd (slice packet 14 28) ≠ 1 ∨ arPro (slice packet 14 28) ≠ ethertypeIp) :=
    fun hbad => hbad.elim (fun hne => hne h.hrd) fun hne => hne h.pro
  simp only [handleArpPacket_eq s interface h.len, if_neg hgood, hi, handleArpValid, if_pos h.op,
    if_pos h.tip]

/-- Nothing else that carries ARP is. -/
lemma handleArpPacket_silent (htype : ethertype packet = ethertypeArp)
    (hi : srGetInterface s.ifList interface = some i) (h : ¬ ArpAsks packet i.ip) :
    Silent s (handleArpPacket s packet interface) := by
  by_cases hlen : packet.length < 42
  · rw [handleArpPacket, if_pos hlen]
    exact .refl s
  rw [not_lt] at hlen
  have hread : Silent s (s.noteRead packet 14 28) := .of_trace rfl
  simp only [handleArpPacket_eq s interface hlen, hi, handleArpValid]
  split_ifs with hbad hop₁ htip hop₂
  · exact hread
  · rw [not_or, not_not, not_not] at hbad
    exact absurd ⟨hlen, htype, hbad.1, hbad.2, hop₁, htip⟩ h
  · exact hread
  · -- an ARP reply is followed by queued frames only
    rcases hinsert : srArpcacheInsert (s.noteRead packet 14 28) (arSha (slice packet 14 28))
      (arSip (slice packet 14 28)) with ⟨_ | req, t⟩
    · obtain rfl := (congrArg Prod.snd hinsert :)
      exact .of_trace rfl
    · obtain rfl := (congrArg Prod.snd hinsert :)
      obtain ⟨-, htrace, -⟩ := drainPackets_spec (arSha (slice packet 14 28))
        (arSip (slice packet 14 28)) req.packets (srArpcacheInsert (s.noteRead packet 14 28)
          (arSha (slice packet 14 28)) (arSip (slice packet 14 28))).2
      refine ⟨_, htrace, ?_⟩
      rintro ⟨now, name, g, v, hmem⟩
      obtain ⟨p, -, hobs⟩ := List.mem_map.1 hmem
      simp [drainObs] at hobs
  · exact hread

/-- `sr_handlepacket` answers a request for the address of its interface, and this is all
it does. -/
lemma srHandlepacket_of_asks (hi : srGetInterface s.ifList interface = some i)
    (h : ArpAsks packet i.ip) :
    ∃ s' g, (∀ fuel, srHandlepacket fuel s packet interface = .ok (s', packet)) ∧
      s'.trace = s.trace ++ [(s.now, .sent .arpReply i.name g .passed)] ∧
      srGetInterface s.ifList i.name = some i ∧
      ArpAnswer (arSha (slice packet 14 28)) (arSip (slice packet 14 28)) i g := by
  have hlen := h.len
  have hret : ∀ fuel, srHandlepacket fuel s packet interface = .ok (sendArpReply
      ((s.noteRead packet 0 14).noteRead packet 14 28) (slice packet 14 28) i, packet) := by
    intro fuel
    have hi₁ : srGetInterface (s.noteRead packet 0 14).ifList interface = some i := hi
    rw [srHandlepacket_eq fuel s interface (by omega), if_pos h.type, handleArpPacket_of_asks hi₁ h]
  have hpass : Passes s.ifList (.sent .arpReply i.name (arpFrame (arSha (slice packet 14 28)) i 2
      (arSha (slice packet 14 28)) (arSip (slice packet 14 28))) _) := passes_arpFrame _ _ _ _ hi
  refine ⟨_, _, hret, ?_, srGetInterface_name hi, arpAnswer_arpFrame _ _ i⟩
  rw [sendArpReply_trace, ← (hpass _ _ _ _ rfl).2.2]
  rfl

lemma srHandlepacket_silent {fuel : ℕ} {buf : Frame} (hlen : 14 ≤ packet.length)
    (hi : srGetInterface s.ifList interface = some i) (hno : ¬ ArpAsks packet i.ip)
    (h : srHandlepacket fuel s packet interface = .ok (s', buf)) : Silent s s' := by
  have hread : Silent s (s.noteRead packet 0 14) := .of_trace rfl
  rw [srHandlepacket_eq fuel s interface hlen] at h
  split_ifs at h with harp hip
  · rw [Except.ok.injEq, Prod.mk.injEq] at h
    obtain ⟨rfl, -⟩ := h
    exact hread.trans (handleArpPacket_silent (s := s.noteRead packet 0 14) harp hi hno)
  · exact hread.trans (handleIpPacket_outcome h).1.silent
  · rw [Except.ok.injEq, Prod.mk.injEq] at h
    obtain ⟨rfl, -⟩ := h
    exact hread

/-- The router answers an ARP request for the address of the interface it comes in on,
and no other frame, with the reply `ArpAnswer` describes; and to drop what
`sr_arp_req_not_for_us` recognises before the router sees it changes neither what is sent
nor the queue nor the cache. -/
theorem arp_request_answered (hi : srGetInterface s.ifList interface = some i)
    (hlen : 14 ≤ packet.length) :
    (∀ fuel s' buf, srHandlepacket fuel s packet interface = .ok (s', buf) →
      ∃ new, s'.trace = s.trace ++ new ∧ (ArpAnswers new ↔ ArpAsks packet i.ip)) ∧
    (ArpAsks packet i.ip → ∃ s' g,
      (∀ fuel, srHandlepacket fuel s packet interface = .ok (s', packet)) ∧
      s'.trace = s.trace ++ [(s.now, .sent .arpReply i.name g .passed)] ∧
      srGetInterface s.ifList i.name = some i ∧
      ArpAnswer (arSha (slice packet 14 28)) (arSip (slice packet 14 28)) i g) ∧
    ∀ fuel, (readVnspacket fuel s packet interface).map Router.visible =
      (srHandlepacket fuel s packet interface).map fun p => p.1.visible := by
  refine ⟨fun fuel s' buf h => ?_, srHandlepacket_of_asks hi,
    fun fuel => readVnspacket_visible fuel hi⟩
  by_cases hask : ArpAsks packet i.ip
  · obtain ⟨s₁, g, hret, htrace, -⟩ := srHandlepacket_of_asks hi hask
    rw [hret fuel, Except.ok.injEq, Prod.mk.injEq] at h
    obtain ⟨rfl, -⟩ := h
    exact ⟨_, htrace, fun _ => hask, fun _ => ⟨_, _, _, _, List.mem_singleton_self _⟩⟩
  · obtain ⟨new, htrace, hnew⟩ := srHandlepacket_silent hlen hi hask h
    exact ⟨new, htrace, fun h => absurd h hnew, fun h => absurd h hask⟩

/-- `10.0.0.2` asks `eth0` for its address, and then for another one. -/
theorem arp_request_answered_sample :
    (∃ s' g, srHandlepacket 1 sampleRouter sampleArpRequest (sampleName 0)
        = .ok (s', sampleArpRequest) ∧
      s'.trace = [(1, .sent .arpReply (sampleName 0) g .passed)] ∧
      ArpAnswer ⟨2, 0, 0, 0, 9, 9⟩ (sampleIp 0 2) sampleIfs[0] g) ∧
    srArpReqNotForUs sampleRouter.ifList sampleArpRequest (sampleName 0) = .ok false ∧
    srArpReqNotForUs sampleRouter.ifList sampleArpRequest (sampleName 1) = .ok true ∧
    (readVnspacket 1 sampleRouter sampleArpRequest (sampleName 1)).map Router.visible =
      (srHandlepacket 1 sampleRouter sampleArpRequest (sampleName 1)).map fun p => p.1.visible := by
  have h₁ : srGetInterface sampleRouter.ifList (sampleName 1) = some sampleIfs[1] := by
    decide +kernel
  have hask : ArpAsks sampleArpRequest sampleIfs[0].ip :=
    ⟨by decide +kernel, by decide +kernel, by decide +kernel, by decide +kernel, by decide +kernel,
      by decide +kernel⟩
  obtain ⟨s', g, hret, htrace, -, hans⟩ :=
    (arp_request_answered srGetInterface_eth0 (by decide +kernel)).2.1 hask
  refine ⟨⟨s', g, hret 1, htrace, hans⟩, ?_, ?_, ?_⟩
  · rw [srArpReqNotForUs_of_registered srGetInterface_eth0, Except.ok.injEq]
    decide +kernel
  · rw [srArpReqNotForUs_of_registered h₁, Except.ok.injEq]
    decide +kernel
  · exact (arp_request_answered h₁ (by decide +kernel)).2.2 1

end SimpleRouter
