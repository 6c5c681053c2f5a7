/-
Which packet messages make an assertion fail.

On the way of a packet message through `sr_read_from_server_expect`, the filter in front
of the router, `sr_handlepacket` and `sr_send_packet`, all assertions but one are about
pointers that the callers took from a record, a buffer or a successful allocation.  The
one that is left is the assertion of the filter that the interface is known.  The router
itself treats an unknown interface as a reason to drop a frame or to go on without it,
and none of its functions ends with a failed assertion.
-/
import SimpleRouter.Filter

namespace SimpleRouter

open Bytes CString

variable {s : Router} {packet : Frame} {interface : List UInt8} {id : ReqId}

/-! ### The router -/

/-- No assertion fails in the call. -/
def Unaborted {α : Type} (x : Except Fault α) : Prop := x ≠ .error .assertFailed

lemma unaborted_ok {α : Type} (a : α) : Unaborted (.ok a : Except Fault α) := by
  simp [Unaborted]

lemma unaborted_error {α : Type} {f : Fault} (hf : f ≠ .assertFailed) :
    Unaborted (.error f : Except Fault α) := by
  simpa [Unaborted] using hf

lemma Unaborted.bind {α β : Type} {x : Except Fault α} {f : α → Except Fault β} (hx : Unaborted x)
    (hf : ∀ a, Unaborted (f a)) : Unaborted (x >>= f) := by
  cases x with
  | error e => exact fun h => hx (congrArg _ (Except.error.inj h))
  | ok a => exact hf a

lemma Unaborted.map {α β : Type} {x : Except Fault α} (hx : Unaborted x) (f : α → β) :
    Unaborted (x.map f) := by
  cases x with
  | error e => exact fun h => hx (congrArg _ (Except.error.inj h))
  | ok a => exact unaborted_ok _

section Handle

variable {handle : Router → ReqId → Except Fault Router} (hh : ∀ s id, Unaborted (handle s id))

include hh

lemma routeAndSend_unaborted (s : Router) (frame : Frame) :
    Unaborted (routeAndSend handle s frame) := by
  rw [routeAndSend]
  rcases routeAndQueue s frame with ⟨t, _ | req⟩
  · exact unaborted_ok _
  · exact (hh t req).bind fun _ => unaborted_ok _

lemma sendIcmpError_unaborted (s : Router) (cause : Cause) (type code : UInt8) (orig : Frame)
    (src : Ip) : Unaborted (sendIcmpError handle s cause type code orig src) := by
  rw [sendIcmpError]
  by_cases hlen : orig.length < 14 + 20
  · rw [if_pos hlen]
    exact unaborted_ok _
  · rw [if_neg hlen]
    simp only
    generalize (if src = 0 then _ else src) = srcIp
    by_cases hsrc : srcIp = 0
    · rw [if_pos hsrc]
      exact unaborted_ok _
    · rw [if_neg hsrc]
      exact (routeAndSend_unaborted hh _ _).bind fun _ => unaborted_ok _

lemma giveUpLoop_unaborted (id : ReqId) (pkts : List SrPacket) (s : Router) :
    Unaborted (giveUpLoop handle id pkts s) := by
  induction pkts generalizing s with
  | nil => exact unaborted_ok _
  | cons pkt rest ih =>
      rw [giveUpLoop]
      split_ifs
      · exact ih s
      · refine (sendIcmpError_unaborted hh _ _ _ _ _ _).bind fun t => ?_
        split_ifs
        · exact ih t
        · exact unaborted_error (by decide)

lemma handleIpForUs_unaborted (s : Router) (packet : Frame) (ip : List UInt8) :
    Unaborted (handleIpForUs handle s packet ip) := by
  simp only [handleIpForUs]
  split_ifs
  · exact unaborted_ok _
  · exact unaborted_ok _
  · exact (routeAndSend_unaborted hh _ _).bind fun _ => unaborted_ok _
  · exact unaborted_ok _
  · exact unaborted_ok _

lemma handleIpTransit_unaborted (s : Router) (packet : Frame) (interface ip : List UInt8) :
    Unaborted (handleIpTransit handle s packet interface ip) := by
  simp only [handleIpTransit]
  split_ifs
  · exact sendIcmpError_unaborted hh _ _ _ _ _ _
  · refine (routeAndSend_unaborted hh _ _).bind fun p => ?_
    split_ifs
    · exact sendIcmpError_unaborted hh _ _ _ _ _ _
    · exact unaborted_ok _

lemma handleIpPacket_unaborted (s : Router) (packet : Frame) (interface : List UInt8) :
    Unaborted (handleIpPacket handle s packet interface) := by
  by_cases hv : ValidIp packet
  · rw [handleIpPacket_of_valid s interface hv, handleIpValid]
    cases findIfaceForIp (ipChecked s packet).ifList (ip32 packet 30) with
    | some i => exact handleIpForUs_unaborted hh _ _ _
    | none => exact (handleIpTransit_unaborted hh _ _ _ _).map _
  · obtain ⟨s₁, -, heq⟩ := handleIpPacket_of_not_valid s interface hv
    rw [heq handle]
    exact unaborted_ok _

end Handle

lemma handleArpreq_unaborted (fuel : ℕ) (s : Router) (id : ReqId) :
    Unaborted (handleArpreq fuel s id) := by
  induction fuel generalizing s id with
  | zero => exact unaborted_error (by decide)
  | succ fuel ih =>
      rw [handleArpreq]
      cases s.findReq id with
      | none => exact unaborted_error (by decide)
      | some req =>
          simp only
          split_ifs
          · exact unaborted_ok _
          · exact (giveUpLoop_unaborted ih id req.packets s).bind fun _ => unaborted_ok _
          · exact unaborted_ok _

/-- No assertion of the router fails, whatever the frame and the interface are. -/
lemma srHandlepacket_unaborted (fuel : ℕ) (s : Router) (packet : Frame) (interface : List UInt8) :
    Unaborted (srHandlepacket fuel s packet interface) := by
  by_cases hlen : packet.length < 14
  · rw [srHandlepacket, if_pos hlen]
    exact unaborted_ok _
  · rw [srHandlepacket_eq fuel s interface (not_lt.1 hlen)]
    split_ifs
    · exact unaborted_ok _
    · exact handleIpPacket_unaborted (handleArpreq_unaborted fuel) _ _ _
    · exact unaborted_ok _

/-! ### The message -/

/-- The filter insists on the interface once the frame has room for an ARP packet. -/
lemma srArpReqNotForUs_unaborted_iff (ifs : List SrIf) (packet : Frame) (interface : List UInt8) :
    Unaborted (srArpReqNotForUs ifs packet interface) ↔
      (srGetInterface ifs interface).isSome ∨ packet.length < 42 := by
  rw [srArpReqNotForUs]
  by_cases hlen : packet.length < 14 + 28
  · rw [if_pos hlen]
    exact ⟨fun _ => Or.inr hlen, fun _ => unaborted_ok _⟩
  · rw [if_neg hlen]
    cases srGetInterface ifs interface with
    | none => simpa [Unaborted] using hlen
    | some i => simp [Unaborted]

lemma readVnspacket_unaborted_iff (s : Router) (packet : Frame) (interface : List UInt8) :
    (∀ fuel, Unaborted (readVnspacket fuel s packet interface)) ↔
      (srGetInterface s.ifList interface).isSome ∨ packet.length < 42 := by
  rw [← srArpReqNotForUs_unaborted_iff]
  constructor
  · intro h hfail
    refine h 0 ?_
    rw [readVnspacket, hfail]
    rfl
  · intro h fuel
    refine h.bind fun drop => ?_
    split_ifs
    · exact unaborted_ok _
    · exact (srHandlepacket_unaborted fuel s packet interface).bind fun _ => unaborted_ok _

/-- The case `VNSPACKET` of `sr_read_from_server_expect` for a message; `junk` is the
memory behind its buffer. -/
def readPacketMessage (fuel : ℕ) (s : Router) (junk bytes : List UInt8) : Except Fault Router :=
  let args := packetArgs junk bytes
  readVnspacket fuel s (args.packet.take args.len.toNat) args.interface

section Message

variable {junk bytes : List UInt8} (hge : 24 ≤ bytes.length)

include hge

lemma take_packetArgs (hle : bytes.length ≤ 10000) :
    (packetArgs junk bytes).packet.take (packetArgs junk bytes).len.toNat = bytes.drop 24 := by
  have hlen : (packetArgs junk bytes).len.toNat = (bytes.drop 24).length := by
    have hargs : (packetArgs junk bytes).len = bytes.length - 24 := (packetLen_eq_iff hle).2 hge
    rw [hargs, List.length_drop]
    omega
  have hpacket : (packetArgs junk bytes).packet = bytes.drop 24 ++ junk :=
    List.drop_append_of_le_length hge
  rw [hlen, hpacket]
  exact List.take_left' rfl

/-- The name ends in its field, so that what follows is not looked at. -/
lemma srGetInterface_packetArgs (ifs : List SrIf) (hnul : 0 ∈ slice bytes 8 16) :
    srGetInterface ifs (packetArgs junk bytes).interface
      = srGetInterface ifs (slice bytes 8 16) := by
  have hsplit : (packetArgs junk bytes).interface
      = slice bytes 8 16 ++ (bytes.drop 24 ++ junk) := by
    have hname : bytes.drop 8 = slice bytes 8 16 ++ bytes.drop 24 := by
      rw [slice, show 24 = 8 + 16 from rfl, ← List.drop_drop, List.take_append_drop]
    change (bytes ++ junk).drop 8 = _
    rw [List.drop_append_of_le_length (by omega), hname, List.append_assoc]
  rw [hsplit]
  exact srGetInterface_congr ifs (cstr_append_of_mem 32 _ hnul)

end Message

/-- A packet message makes no assertion fail if and only if its interface is registered,
or its frame has no room for an ARP packet. -/
theorem no_assertion_fails_iff (s : Router) (junk bytes : List UInt8) (hge : 24 ≤ bytes.length)
    (hle : bytes.length ≤ 10000) (hnul : 0 ∈ slice bytes 8 16) :
    (∀ fuel, readPacketMessage fuel s junk bytes ≠ .error .assertFailed) ↔
      (srGetInterface s.ifList (slice bytes 8 16)).isSome ∨ bytes.length < 66 := by
  have hframe := readVnspacket_unaborted_iff s (bytes.drop 24) (packetArgs junk bytes).interface
  rw [srGetInterface_packetArgs hge s.ifList hnul, List.length_drop] at hframe
  have hshort : bytes.length - 24 < 42 ↔ bytes.length < 66 := by omega
  rw [← hshort, ← hframe]
  simp only [readPacketMessage, take_packetArgs hge hle]
  rfl

/-- A message for `eth0`, which the sample network has. -/
theorem no_assertion_fails_iff_sample :
    (packetMessage sampleArpRequest (sampleName 0)).length = 66 ∧
    ∀ fuel, readPacketMessage fuel sampleRouter [] (packetMessage sampleArpRequest (sampleName 0))
      ≠ .error .assertFailed := by
  have hlen : (packetMessage sampleArpRequest (sampleName 0)).length = 66 := by
    decide +kernel
  refine ⟨hlen, ?_⟩
  exact (no_assertion_fails_iff sampleRouter [] (packetMessage sampleArpRequest (sampleName 0))
    (by omega) (by omega) (by decide +kernel)).2 (Or.inl (by decide +kernel))

/-- Before the first hardware information message no interface is registered.  A message
with an ARP packet of 42 bytes then ends the program in the filter, although the router
would have dropped the frame. -/
theorem message_before_hwinfo_aborts :
    (packetMessage sampleArpRequest (sampleName 0)).length = 66 ∧
    0 ∈ slice (packetMessage sampleArpRequest (sampleName 0)) 8 16 ∧
    readPacketMessage 1 (Router.init [] sampleRoutes 1 fun _ _ => 0) []
      (packetMessage sampleArpRequest (sampleName 0)) = .error .assertFailed ∧
    ∃ s', srHandlepacket 1 (Router.init [] sampleRoutes 1 fun _ _ => 0) sampleArpRequest
        (sampleName 0) = .ok (s', sampleArpRequest) ∧ s'.trace = [] := by
  refine ⟨by decide +kernel, by decide +kernel, eq_error_of_faultOf (by decide +kernel), ?_⟩
  have hrej : Rejected (Router.init [] sampleRoutes 1 fun _ _ => 0) sampleArpRequest
      (sampleName 0) := .arp (by decide +kernel) (.iface rfl)
  obtain ⟨s', hq, hret⟩ := hrej.quiet
  exact ⟨s', hret 1, hq.trace⟩

end SimpleRouter
