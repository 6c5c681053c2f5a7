/-
The decision about a transit frame, and the errors it may lead to.

A valid frame to somewhere else is forwarded, or reported to its sender as expired or
as unroutable.  What happens until `handle_arpreq` is called is described for any
function in its place: which observations have been made, which frame was queued, and
on which route.
-/
import SimpleRouter.Forward

namespace SimpleRouter

open Bytes CString OnesComplement

variable {s t : Router} {packet : Frame} {interface data : List UInt8} {type code : UInt8}
  {src dst : Ip}

/-! ### The frame of an error -/

/-- `err` is an error of the given type and code about `packet`, sent by `src`. -/
structure ErrorAbout (type code : UInt8) (src : Ip) (packet err : Frame) : Prop where
  len : err.length = 70
  src : ip32 err 26 = src
  dst : ip32 err 30 = ip32 packet 26
  type : u8 err 34 = type
  code : u8 err 35 = code
  hdrSum : onesSum (slice err 14 20) = 0xffff
  msgSum : onesSum (slice err 34 36) = 0xffff
  /-- The first 28 bytes of the datagram are quoted as they are. -/
  quote : slice err 42 28 = slice packet 14 28

/-- The IP header of an error before its checksum is stored. -/
def rawIpHdr (src dst : Ip) : List UInt8 :=
  [0x45, 0] ++ be16 (20 + 36) ++ be16 0 ++ be16 0x4000 ++ [255, 1] ++ be16 0 ++ src.bytes
    ++ dst.bytes

/-- The message of an error before its checksum is stored. -/
def rawMsg (type code : UInt8) (data : List UInt8) : List UInt8 :=
  [type, code] ++ be16 0 ++ [0, 0, 0, 0] ++ data

lemma icmpErrorIpHdr_eq : icmpErrorIpHdr src dst
    = patch (rawIpHdr src dst) 10 (be16 (cksum (rawIpHdr src dst))) :=
  rfl

lemma icmpErrorMsg_eq : icmpErrorMsg type code data
    = patch (rawMsg type code data) 2 (be16 (cksum (rawMsg type code data))) :=
  rfl

lemma length_rawMsg : (rawMsg type code data).length = 8 + data.length := by
  simp [rawMsg]
  omega

lemma length_icmpErrorIpHdr : (icmpErrorIpHdr src dst).length = 20 := by
  rw [icmpErrorIpHdr_eq, length_patch (by simp [rawIpHdr])]
  rfl

lemma length_icmpErrorMsg : (icmpErrorMsg type code data).length = 8 + data.length := by
  rw [icmpErrorMsg_eq, length_patch (by rw [length_rawMsg, length_be16]; omega), length_rawMsg]

lemma slice_icmpErrorFrame_hdr :
    slice (icmpErrorFrame type code src dst data) 14 20 = icmpErrorIpHdr src dst := by
  have h := slice_append_append (List.replicate 14 0) (icmpErrorIpHdr src dst)
    (icmpErrorMsg type code data)
  rw [List.length_replicate, length_icmpErrorIpHdr] at h
  exact h

lemma slice_icmpErrorFrame_msg (hdata : data.length = 28) :
    slice (icmpErrorFrame type code src dst data) 34 36 = icmpErrorMsg type code data := by
  have h := slice_append_append (List.replicate 14 0 ++ icmpErrorIpHdr src dst)
    (icmpErrorMsg type code data) []
  rw [List.length_append, List.length_replicate, length_icmpErrorIpHdr, length_icmpErrorMsg, hdata,
    List.append_nil] at h
  exact h

/-- The frame that `send_icmp_error` builds. -/
lemma errorAbout_icmpErrorFrame (hlen : 42 ≤ packet.length) :
    ErrorAbout type code src packet
      (icmpErrorFrame type code src (ip32 packet 26) (slice packet 14 28)) := by
  have hdata : (slice packet 14 28).length = 28 := length_slice (by omega)
  have hraw : (rawMsg type code (slice packet 14 28)).length = 8 + (slice packet 14 28).length :=
    length_rawMsg
  have hmsg : slice (icmpErrorFrame type code src (ip32 packet 26) (slice packet 14 28)) 34 36
      = icmpErrorMsg type code (slice packet 14 28) := slice_icmpErrorFrame_msg hdata
  -- type and code stand in front of the checksum
  have hbyte : ∀ k, k < 2 →
      u8 (icmpErrorFrame type code src (ip32 packet 26) (slice packet 14 28)) (34 + k)
        = u8 (rawMsg type code (slice packet 14 28)) k := by
    intro k hk
    rw [← u8_slice (show k < 36 by omega), hmsg, icmpErrorMsg_eq,
      u8_patch_of_lt (by rw [hraw]; simp; omega) hk]
  have hhdrZero : u16 (rawIpHdr src (ip32 packet 26)) 10 = 0 := by
    simp [rawIpHdr, u16, u8, be16, Ip.bytes]
  have hmsgZero : u16 (rawMsg type code (slice packet 14 28)) 2 = 0 := by
    simp [rawMsg, u16, u8, be16]
  refine ⟨length_icmpErrorFrame hdata, ip32_icmpErrorFrame_src, ip32_icmpErrorFrame_dst,
    hbyte 0 (by omega), hbyte 1 (by omega), ?_, ?_, ?_⟩
  · rw [slice_icmpErrorFrame_hdr, icmpErrorIpHdr_eq,
      cksum_eq_negate (wordSum_lt_of_length_le (by simp [rawIpHdr]))]
    exact onesSum_patch_negate (by omega) (by simp [rawIpHdr]) hhdrZero
  · rw [hmsg, icmpErrorMsg_eq, cksum_eq_negate (wordSum_lt_of_length_le (by rw [hraw]; omega))]
    exact onesSum_patch_negate (by omega) (by rw [hraw]; omega) hmsgZero
  · have hinner : slice (icmpErrorMsg type code (slice packet 14 28)) 8 28 = slice packet 14 28 := by
      rw [icmpErrorMsg_eq,
        slice_patch_of_disjoint (by rw [hraw, length_be16]; omega) (by simp)]
      have h := slice_append_append ([type, code] ++ be16 0 ++ [0, 0, 0, 0]) (slice packet 14 28) []
      rw [hdata, List.append_nil] at h
      exact h
    have hquote : slice (slice (icmpErrorFrame type code src (ip32 packet 26)
        (slice packet 14 28)) 34 36) 8 28
        = slice (icmpErrorFrame type code src (ip32 packet 26) (slice packet 14 28)) 42 28 :=
      slice_slice (by omega)
    rw [hmsg, hinner] at hquote
    exact hquote.symm

/-! ### What is done with a frame -/

/-- Until `handle_arpreq` is called, `obs` has been observed and `frame` is queued on a
route: it stands in front of the packets of the request for its next hop, and the rest of
the queue is as before.  Then the call returns. -/
def QueuesOnce (s : Router) (packet : Frame) (interface : List UInt8) (obs : List (ℕ × Obs))
    (frame : Frame) (rt : SrRt) (i : SrIf) : Prop :=
  ∃ t, t.core = s.core ∧ t.trace = s.trace ++ obs ∧
    (queuedOn t frame rt i).1.trace = s.trace ++ obs ++
      [(s.now, .accepted (nextHop rt (ip32 frame 30)) (routedPacket s frame i))] ∧
    (WF s → Queues (acceptedOn t frame rt i) (nextHop rt (ip32 frame 30)) (routedPacket s frame i)
      (queuedOn t frame rt i).1 (queuedOn t frame rt i).2) ∧
    ∀ handle, handleIpPacket handle s packet interface =
      (handle (queuedOn t frame rt i).1 (queuedOn t frame rt i).2).map fun s' => (s', packet)

/-- `obs` is observed, and nothing is queued. -/
def QueuesNothing (s : Router) (packet : Frame) (interface : List UInt8) (obs : List (ℕ × Obs)) :
    Prop :=
  ∃ t, t.core = s.core ∧ t.trace = s.trace ++ obs ∧
    ∀ handle, handleIpPacket handle s packet interface = .ok (t, packet)

/-- One error about the frame is built, and queued on the route back if there is one;
the frame itself is not queued. -/
def Reports (s : Router) (packet : Frame) (interface : List UInt8) (src : Ip) (type code : UInt8) :
    Prop :=
  ∃ err, ErrorAbout type code src packet err ∧
    (lookupRoute s (ip32 packet 26) = none →
      QueuesNothing s packet interface [(s.now, .icmpError type code .arrival)]) ∧
    ∀ rt i, lookupRoute s (ip32 packet 26) = some (rt, i) →
      QueuesOnce s packet interface [(s.now, .icmpError type code .arrival)] err rt i

/-- The frame is queued on a route with its TTL decremented, and no error is built. -/
def Forwards (s : Router) (packet : Frame) (interface : List UInt8) (rt : SrRt) (i : SrIf) : Prop :=
  ∃ frame, frame.length = packet.length ∧ u8 frame 22 = u8 packet 22 - 1 ∧
    (∀ k, k ≠ 22 → k ≠ 24 → k ≠ 25 → frame[k]? = packet[k]?) ∧
    QueuesOnce s packet interface [] frame rt i

/-- The state in which `send_icmp_error` passes the error on. -/
def errorNoted (s : Router) (packet : Frame) (type code : UInt8) : Router :=
  ((s.emit (.icmpError type code .arrival)).noteRead packet 14 20).noteRead packet 14 28

lemma sendIcmpError_arrival (handle : Router → ReqId → Except Fault Router) (t : Router)
    (type code : UInt8) (hlen : 42 ≤ packet.length) (hsrc : src ≠ 0) :
    sendIcmpError handle t .arrival type code packet src =
      (routeAndSend handle (errorNoted t packet type code)
        (icmpErrorFrame type code src (ip32 packet 26) (slice packet 14 28))).map Prod.snd := by
  have herr : errorSource t src (ip32 packet 26) = src := if_neg hsrc
  rw [sendIcmpError_eq handle t .arrival type code src (by omega), herr, if_neg hsrc,
    Router.peek_eq_slice _ (by omega)]
  rfl

/-- Passing the error on, as the last thing that is done. -/
lemma reports_of_sendIcmpError (ht : Quiet s t) (hlen : 42 ≤ packet.length) (hsrc : src ≠ 0)
    (h : ∀ handle, handleIpPacket handle s packet interface =
      (sendIcmpError handle t .arrival type code packet src).map fun s' => (s', packet)) :
    Reports s packet interface src type code := by
  have herr : ErrorAbout type code src packet
      (icmpErrorFrame type code src (ip32 packet 26) (slice packet 14 28)) :=
    errorAbout_icmpErrorFrame hlen
  set err := icmpErrorFrame type code src (ip32 packet 26) (slice packet 14 28) with herrdef
  have hcore : (errorNoted t packet type code).core = s.core := ht.core
  have hnow : t.now = s.now := now_of_core ht.core
  have htrace : (errorNoted t packet type code).trace
      = s.trace ++ [(s.now, .icmpError type code .arrival)] := by
    rw [errorNoted, Router.noteRead_trace, Router.noteRead_trace, Router.emit_trace, ht.trace, hnow]
  have hlong : 34 ≤ err.length := by
    rw [herr.len]
    omega
  have hroute : lookupRoute (errorNoted t packet type code) (ip32 err 30)
      = lookupRoute s (ip32 packet 26) := by
    rw [herr.dst]
    exact (SameEnv.of_core hcore).lookupRoute _
  refine ⟨err, herr, ?_, ?_⟩
  · intro hnone
    refine ⟨(errorNoted t packet type code).noteRead err 14 20, hcore, htrace, fun handle => ?_⟩
    rw [h, sendIcmpError_arrival handle t type code hlen hsrc, ← herrdef,
      routeAndSend_eq handle _ hlong, hroute, hnone]
    rfl
  · intro rt i hsome
    have hpkt : routedPacket (errorNoted t packet type code) err i = routedPacket s err i := by
      rw [routedPacket, routedPacket, nextFid_of_core hcore]
    refine ⟨errorNoted t packet type code, hcore, htrace, ?_, fun hw => ?_, fun handle => ?_⟩
    · rw [queuedOn_trace, htrace, now_of_core hcore, hpkt]
    · rw [← hpkt]
      exact queues_queuedOn (hw.of_core hcore) hlong rt i
    · rw [h, sendIcmpError_arrival handle t type code hlen hsrc, ← herrdef,
        routeAndSend_eq handle _ hlong, hroute, hsome]
      simp only [map_map_eq]

/-! ### The decision -/

section Transit

variable {i : SrIf} (hi : srGetInterface s.ifList interface = some i) (hip : i.ip ≠ 0)
  (ht : Transit s packet) (hlen : 42 ≤ packet.length)

/-- A transit frame is handled by the branch behind the checks. -/
lemma handleIpPacket_of_transit (ht : Transit s packet)
    (handle : Router → ReqId → Except Fault Router) :
    handleIpPacket handle s packet interface =
      (handleIpTransit handle (ipChecked s packet) packet interface (slice packet 14 20)).map
        fun s' => (s', packet) := by
  have hq := quiet_ipChecked s (validIp_iff.1 ht.valid).1
  rw [handleIpPacket_of_valid s interface ht.valid, handleIpValid, hq.sameEnv.ifList, ht.notForUs]

lemma arrivalSource_eq (hi : srGetInterface s.ifList interface = some i) (hq : Quiet s t) :
    arrivalSource t interface = i.ip := by
  rw [arrivalSource, hq.sameEnv.ifList, hi]

include hi ht

/-- A frame whose TTL does not allow another hop is reported, and nothing else is done. -/
lemma handleIpPacket_of_expired (httl : u8 packet 22 ≤ 1) :
    ∃ t, Quiet s t ∧ ∀ handle, handleIpPacket handle s packet interface =
      (sendIcmpError handle t .arrival 11 0 packet i.ip).map fun s' => (s', packet) := by
  have hq := quiet_ipChecked s (validIp_iff.1 ht.valid).1
  refine ⟨_, hq, fun handle => ?_⟩
  rw [handleIpPacket_of_transit ht, handleIpTransit, u8_slice_ttl, if_pos httl,
    arrivalSource_eq hi hq]

/-- A frame without a route is reported, once the copy has been made. -/
lemma handleIpPacket_of_unroutable (httl : ¬ u8 packet 22 ≤ 1)
    (hno : lookupRoute s (ip32 packet 30) = none) :
    ∃ t, Quiet s t ∧ ∀ handle, handleIpPacket handle s packet interface =
      (sendIcmpError handle t .arrival 3 0 packet i.ip).map fun s' => (s', packet) := by
  have hframe := length_transitFrame ht.valid
  have hlen := ht.valid.len
  have hq := quiet_ipChecked s (validIp_iff.1 ht.valid).1
  have hq₁ : Quiet s ((ipChecked s packet).noteRead packet 0 packet.length) :=
    hq.trans (.noteRead _ _ _ _ (by omega))
  have hq₂ := hq₁.trans (.noteRead _ (transitFrame packet) 14 20 (by omega))
  refine ⟨_, hq₂, fun handle => ?_⟩
  -- `route_and_send` finds no route for the copy
  have hsend : routeAndSend handle ((ipChecked s packet).noteRead packet 0 packet.length)
      (transitFrame packet) = .ok (-1, ((ipChecked s packet).noteRead packet 0
        packet.length).noteRead (transitFrame packet) 14 20) := by
    rw [routeAndSend_eq handle _ (by omega), ip32_transitFrame_dst ht.valid,
      hq₁.sameEnv.lookupRoute, hno]
  rw [handleIpPacket_of_transit ht, handleIpTransit, u8_slice_ttl, if_neg httl,
    ← ipHdrLen.eq_1, ← transitFrame.eq_1]
  simp only [hsend, bind, Except.bind]
  rw [if_pos (by decide), arrivalSource_eq hi hq₂]

include hip hlen

lemma reports_expired (httl : u8 packet 22 ≤ 1) : Reports s packet interface i.ip 11 0 := by
  obtain ⟨t, hq, heq⟩ := handleIpPacket_of_expired hi ht httl
  exact reports_of_sendIcmpError hq hlen hip heq

lemma reports_unroutable (httl : ¬ u8 packet 22 ≤ 1) (hno : lookupRoute s (ip32 packet 30) = none) :
    Reports s packet interface i.ip 3 0 := by
  obtain ⟨t, hq, heq⟩ := handleIpPacket_of_unroutable hi ht httl hno
  exact reports_of_sendIcmpError hq hlen hip heq

omit hi hip hlen

lemma forwards_of_route (httl : ¬ u8 packet 22 ≤ 1) {rt : SrRt} {out : SrIf}
    (hroute : lookupRoute s (ip32 packet 30) = some (rt, out)) :
    Forwards s packet interface rt out := by
  have hframe := length_transitFrame ht.valid
  have hl := ht.valid.len
  have hq := quiet_ipChecked s (validIp_iff.1 ht.valid).1
  have hq₁ : Quiet s ((ipChecked s packet).noteRead packet 0 packet.length) :=
    hq.trans (.noteRead _ _ _ _ (by omega))
  set t := (ipChecked s packet).noteRead packet 0 packet.length with htdef
  have hsend : ∀ handle, routeAndSend handle t (transitFrame packet)
      = (handle (queuedOn t (transitFrame packet) rt out).1
          (queuedOn t (transitFrame packet) rt out).2).map fun s' => (0, s') := by
    intro handle
    rw [routeAndSend_eq handle t (by omega), ip32_transitFrame_dst ht.valid,
      hq₁.sameEnv.lookupRoute, hroute]
  have hpkt : routedPacket t (transitFrame packet) out
      = routedPacket s (transitFrame packet) out := by
    rw [routedPacket, routedPacket, nextFid_of_core hq₁.core]
  refine ⟨transitFrame packet, hframe, u8_transitFrame_ttl ht.valid,
    fun k h₁ h₂ h₃ => getElem?_transitFrame ht.valid h₁ h₂ h₃,
    t, hq₁.core, by rw [hq₁.trace, List.append_nil], ?_, fun hw => ?_, fun handle => ?_⟩
  · rw [queuedOn_trace, hq₁.trace, now_of_core hq₁.core, hpkt, List.append_nil]
  · rw [← hpkt]
    exact queues_queuedOn (hq₁.wf hw) (by omega) rt out
  · rw [handleIpPacket_of_transit ht, handleIpTransit, u8_slice_ttl, if_neg httl,
      ← ipHdrLen.eq_1, ← transitFrame.eq_1]
    simp only [← htdef, hsend]
    cases handle (queuedOn t (transitFrame packet) rt out).1
        (queuedOn t (transitFrame packet) rt out).2 with
    | error f => rfl
    | ok s' => rfl

end Transit

/-- A valid frame to somewhere else is reported as expired, or forwarded, or reported
as unroutable; what decides is its TTL and whether it has a route. -/
theorem transit_decision {i : SrIf} (hi : srGetInterface s.ifList interface = some i)
    (hip : i.ip ≠ 0) (hv : ValidIp packet) (hlen : 42 ≤ packet.length)
    (hnot : findIfaceForIp s.ifList (ip32 packet 30) = none) :
    (u8 packet 22 ≤ 1 → Reports s packet interface i.ip 11 0) ∧
    (¬ u8 packet 22 ≤ 1 → ∀ rt out, lookupRoute s (ip32 packet 30) = some (rt, out) →
      Forwards s packet interface rt out) ∧
    (¬ u8 packet 22 ≤ 1 → lookupRoute s (ip32 packet 30) = none →
      Reports s packet interface i.ip 3 0) := by
  have ht : Transit s packet := ⟨hv, hnot⟩
  exact ⟨reports_expired hi hip ht hlen,
    fun httl rt out hroute => forwards_of_route ht httl hroute,
    fun httl hno => reports_unroutable hi hip ht hlen httl hno⟩

/-- The three cases in the sample network: a frame with TTL 1, one to `10.0.1.2`, and one
to an address without a route. -/
theorem transit_decision_sample :
    Reports sampleRouter (sampleFrame (sampleIp 0 2) (sampleIp 1 2) 1 8) (sampleName 0)
      (sampleIp 0 1) 11 0 ∧
    Forwards sampleRouter (sampleFrame (sampleIp 0 2) (sampleIp 1 2) 64 8) (sampleName 0)
      (sampleRoute 1 2) sampleIfs[1] ∧
    Reports sampleRouter (sampleFrame (sampleIp 0 2) (sampleIp 7 2) 64 8) (sampleName 0)
      (sampleIp 0 1) 3 0 := by
  have hip : sampleIfs[0].ip ≠ 0 := by
    decide
  refine ⟨?_, ?_, ?_⟩
  · exact (transit_decision srGetInterface_eth0 hip (by decide +kernel) (by decide +kernel)
      (by decide +kernel)).1 (by decide +kernel)
  · exact (transit_decision srGetInterface_eth0 hip (by decide +kernel) (by decide +kernel)
      (by decide +kernel)).2.1 (by decide +kernel) _ _ (by decide +kernel)
  · exact (transit_decision srGetInterface_eth0 hip (by decide +kernel) (by decide +kernel)
      (by decide +kernel)).2.2 (by decide +kernel) (by decide +kernel)

end SimpleRouter
