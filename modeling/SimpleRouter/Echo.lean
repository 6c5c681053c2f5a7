/-
The echo reply.

`send_icmp_echo_reply` edits a copy of the request in place: first the IP header,
whose checksum is computed with its field zeroed, then the ICMP header in the same
way.  The buffer is followed through these writes; each changes a few bytes and
leaves the others alone.
-/
import SimpleRouter.Receive

namespace SimpleRouter

open Bytes CString OnesComplement

variable {packet : Frame} {i : ℕ}

/-- The buffer with the addresses swapped, a fresh TTL, and the header checksum
zeroed. -/
def echoSwapped (packet : Frame) : Frame :=
  patch (patch (patch (patch packet 26 (ip32 packet 30).bytes) 30 (ip32 packet 26).bytes) 22 [255])
    24 (be16 0)

/-- The buffer with the header checksum filled in. -/
def echoHeader (packet : Frame) : Frame :=
  patch (echoSwapped packet) 24 (be16 (cksum (slice (echoSwapped packet) 14 (ipHdrLen packet))))

/-- The buffer with type, code and ICMP checksum zeroed. -/
def echoCleared (packet : Frame) : Frame :=
  patch (patch (echoHeader packet) (14 + ipHdrLen packet) [0, 0]) (14 + ipHdrLen packet + 2) (be16 0)

lemma icmpEchoReply_eq (packet : Frame) :
    icmpEchoReply packet = patch (echoCleared packet) (14 + ipHdrLen packet + 2)
      (be16 (cksum (slice (echoCleared packet) (14 + ipHdrLen packet)
        (packet.length - 14 - ipHdrLen packet)))) :=
  rfl

section Writes

variable (hhdr : 20 ≤ ipHdrLen packet) (hlen : 14 + ipHdrLen packet + 8 ≤ packet.length)

include hhdr hlen

lemma length_echo_writes :
    (patch packet 26 (ip32 packet 30).bytes).length = packet.length ∧
      (patch (patch packet 26 (ip32 packet 30).bytes) 30 (ip32 packet 26).bytes).length
        = packet.length ∧
      (patch (patch (patch packet 26 (ip32 packet 30).bytes) 30 (ip32 packet 26).bytes) 22
        [255]).length = packet.length := by
  have h₁ : (patch packet 26 (ip32 packet 30).bytes).length = packet.length :=
    length_patch (by simp; omega)
  have h₂ : (patch (patch packet 26 (ip32 packet 30).bytes) 30 (ip32 packet 26).bytes).length
      = packet.length := (length_patch (by rw [h₁]; simp; omega)).trans h₁
  exact ⟨h₁, h₂, (length_patch (by rw [h₂]; simp; omega)).trans h₂⟩

lemma length_echoSwapped : (echoSwapped packet).length = packet.length := by
  obtain ⟨-, -, h₃⟩ := length_echo_writes hhdr hlen
  exact (length_patch (by rw [h₃]; simp; omega)).trans h₃

/-- Of the header only the TTL, the checksum and the addresses change. -/
lemma getElem?_echoSwapped (hi : i < 22 ∨ i = 23 ∨ 34 ≤ i) :
    (echoSwapped packet)[i]? = packet[i]? := by
  obtain ⟨h₁, h₂, h₃⟩ := length_echo_writes hhdr hlen
  rw [echoSwapped, getElem?_patch_of_disjoint (by rw [h₃]; simp; omega) (by simp; omega),
    getElem?_patch_of_disjoint (by rw [h₂]; simp; omega) (by simp; omega),
    getElem?_patch_of_disjoint (by rw [h₁]; simp; omega) (by simp; omega),
    getElem?_patch_of_disjoint (by simp; omega) (by simp; omega)]

lemma echoSwapped_fields :
    ip32 (echoSwapped packet) 26 = ip32 packet 30 ∧ ip32 (echoSwapped packet) 30 = ip32 packet 26 ∧
      u8 (echoSwapped packet) 22 = 255 ∧ u16 (echoSwapped packet) 24 = 0 := by
  obtain ⟨h₁, h₂, h₃⟩ := length_echo_writes hhdr hlen
  refine ⟨?_, ?_, ?_, ?_⟩
  · rw [echoSwapped, ip32_patch_of_disjoint (by rw [h₃]; simp; omega) (by simp),
      ip32_patch_of_disjoint (by rw [h₂]; simp; omega) (by simp),
      ip32_patch_of_disjoint (by rw [h₁]; simp; omega) (by simp), ip32_patch_self _ (by omega)]
  · rw [echoSwapped, ip32_patch_of_disjoint (by rw [h₃]; simp; omega) (by simp),
      ip32_patch_of_disjoint (by rw [h₂]; simp; omega) (by simp), ip32_patch_self _ (by omega)]
  · rw [echoSwapped, u8_patch_of_lt (by rw [h₃]; simp; omega) (by omega),
      u8_patch_of_mem (by rw [h₂]; simp; omega) (by omega) (by simp)]
    rfl
  · rw [echoSwapped, u16_patch_self (by omega) (by omega)]

lemma length_echoHeader : (echoHeader packet).length = packet.length := by
  have h := length_echoSwapped hhdr hlen
  exact (length_patch (by rw [h]; simp; omega)).trans h

lemma getElem?_echoHeader (hi : i < 24 ∨ 26 ≤ i) :
    (echoHeader packet)[i]? = (echoSwapped packet)[i]? := by
  have h := length_echoSwapped hhdr hlen
  exact getElem?_patch_of_disjoint (by rw [h]; simp; omega) (by simp; omega)

lemma length_echoCleared : (echoCleared packet).length = packet.length := by
  have h := length_echoHeader hhdr hlen
  have h₁ : (patch (echoHeader packet) (14 + ipHdrLen packet) [0, 0]).length = packet.length :=
    (length_patch (by rw [h]; simp; omega)).trans h
  exact (length_patch (by rw [h₁]; simp; omega)).trans h₁

lemma getElem?_echoCleared (hi : i < 14 + ipHdrLen packet ∨ 14 + ipHdrLen packet + 4 ≤ i) :
    (echoCleared packet)[i]? = (echoHeader packet)[i]? := by
  have h := length_echoHeader hhdr hlen
  have h₁ : (patch (echoHeader packet) (14 + ipHdrLen packet) [0, 0]).length = packet.length :=
    (length_patch (by rw [h]; simp; omega)).trans h
  rw [echoCleared, getElem?_patch_of_disjoint (by rw [h₁]; simp; omega) (by simp; omega),
    getElem?_patch_of_disjoint (by rw [h]; simp; omega) (by simp; omega)]

/-- The reply is as long as the request. -/
lemma length_icmpEchoReply : (icmpEchoReply packet).length = packet.length := by
  have h := length_echoCleared hhdr hlen
  rw [icmpEchoReply_eq]
  exact (length_patch (by rw [h]; simp; omega)).trans h

lemma getElem?_icmpEchoReply
    (hi : i < 14 + ipHdrLen packet + 2 ∨ 14 + ipHdrLen packet + 4 ≤ i) :
    (icmpEchoReply packet)[i]? = (echoCleared packet)[i]? := by
  have h := length_echoCleared hhdr hlen
  rw [icmpEchoReply_eq]
  exact getElem?_patch_of_disjoint (by rw [h]; simp; omega) (by simp; omega)

/-- In front of the ICMP message the last writes change nothing. -/
lemma getElem?_icmpEchoReply_of_lt (hi : i < 14 + ipHdrLen packet) :
    (icmpEchoReply packet)[i]? = (echoHeader packet)[i]? := by
  rw [getElem?_icmpEchoReply hhdr hlen (by omega), getElem?_echoCleared hhdr hlen (by omega)]

/-- The reply goes the other way, with a fresh TTL. -/
lemma icmpEchoReply_fields :
    ip32 (icmpEchoReply packet) 26 = ip32 packet 30 ∧
      ip32 (icmpEchoReply packet) 30 = ip32 packet 26 ∧ u8 (icmpEchoReply packet) 22 = 255 := by
  have hbyte : ∀ i, i < 34 → (i < 24 ∨ 26 ≤ i) →
      u8 (icmpEchoReply packet) i = u8 (echoSwapped packet) i := by
    intro i hi hi'
    refine u8_eq_of_getElem?_eq ?_
    rw [getElem?_icmpEchoReply_of_lt hhdr hlen (by omega), getElem?_echoHeader hhdr hlen hi']
  obtain ⟨hsrc, hdst, httl, -⟩ := echoSwapped_fields hhdr hlen
  refine ⟨?_, ?_, ?_⟩
  · rw [← hsrc]
    simp only [ip32]
    rw [hbyte 26 (by omega) (by omega), hbyte (26 + 1) (by omega) (by omega),
      hbyte (26 + 2) (by omega) (by omega), hbyte (26 + 3) (by omega) (by omega)]
  · rw [← hdst]
    simp only [ip32]
    rw [hbyte 30 (by omega) (by omega), hbyte (30 + 1) (by omega) (by omega),
      hbyte (30 + 2) (by omega) (by omega), hbyte (30 + 3) (by omega) (by omega)]
  · rw [hbyte 22 (by omega) (by omega), httl]

lemma echoCleared_fields :
    u8 (echoCleared packet) (14 + ipHdrLen packet) = 0 ∧
      u8 (echoCleared packet) (14 + ipHdrLen packet + 1) = 0 ∧
      u16 (echoCleared packet) (14 + ipHdrLen packet + 2) = 0 := by
  have h := length_echoHeader hhdr hlen
  have h₁ : (patch (echoHeader packet) (14 + ipHdrLen packet) [0, 0]).length = packet.length :=
    (length_patch (by rw [h]; simp; omega)).trans h
  refine ⟨?_, ?_, ?_⟩
  · rw [echoCleared, u8_patch_of_lt (by rw [h₁]; simp; omega) (by omega),
      u8_patch_of_mem (by rw [h]; simp; omega) (by omega) (by simp), Nat.sub_self]
    rfl
  · rw [echoCleared, u8_patch_of_lt (by rw [h₁]; simp; omega) (by omega),
      u8_patch_of_mem (by rw [h]; simp; omega) (by omega) (by simp), Nat.add_sub_cancel_left]
    rfl
  · rw [echoCleared, u16_patch_self (by omega) (by rw [h₁]; omega)]

/-- The IP header of the reply adds up to all ones. -/
lemma onesSum_icmpEchoReply_hdr :
    onesSum (slice (icmpEchoReply packet) 14 (ipHdrLen packet)) = 0xffff := by
  have hl := length_echoSwapped hhdr hlen
  have hle := ipHdrLen_le packet
  -- the ICMP header is written behind the IP header
  have hsame : slice (icmpEchoReply packet) 14 (ipHdrLen packet)
      = slice (echoHeader packet) 14 (ipHdrLen packet) := by
    ext i : 1
    rw [getElem?_slice, getElem?_slice]
    split_ifs with hi
    · exact getElem?_icmpEchoReply_of_lt hhdr hlen (by omega)
    · rfl
  have hlenS : (slice (echoSwapped packet) 14 (ipHdrLen packet)).length = ipHdrLen packet :=
    length_slice (by omega)
  have hinside : slice (echoHeader packet) 14 (ipHdrLen packet)
      = patch (slice (echoSwapped packet) 14 (ipHdrLen packet)) 10
        (be16 (cksum (slice (echoSwapped packet) 14 (ipHdrLen packet)))) :=
    slice_patch_inside (by omega) (by omega) (by simp; omega)
  rw [hsame, hinside, cksum_eq_negate (wordSum_lt_of_length_le (by omega))]
  refine onesSum_patch_negate (by omega) (by omega) ?_
  rw [u16_slice (by omega)]
  exact (echoSwapped_fields hhdr hlen).2.2.2

/-- Everything behind the IP header of the reply adds up to all ones. -/
lemma onesSum_icmpEchoReply_icmp (hmax : packet.length ≤ 131072) :
    onesSum (slice (icmpEchoReply packet) (14 + ipHdrLen packet)
      (packet.length - 14 - ipHdrLen packet)) = 0xffff := by
  have hl := length_echoCleared hhdr hlen
  have hlenS : (slice (echoCleared packet) (14 + ipHdrLen packet)
      (packet.length - 14 - ipHdrLen packet)).length = packet.length - 14 - ipHdrLen packet :=
    length_slice (by omega)
  rw [icmpEchoReply_eq, slice_patch_inside (by omega) (by omega) (by simp; omega),
    Nat.add_sub_cancel_left, cksum_eq_negate (wordSum_lt_of_length_le (by omega))]
  refine onesSum_patch_negate (by omega) (by omega) ?_
  rw [u16_slice (by omega)]
  exact (echoCleared_fields hhdr hlen).2.2

end Writes

/-! ### The reply -/

/-- `reply` answers the echo request `packet`. -/
structure EchoReplyTo (packet reply : Frame) : Prop where
  len : reply.length = packet.length
  src : ip32 reply 26 = ip32 packet 30
  dst : ip32 reply 30 = ip32 packet 26
  /-- `INIT_TTL`. -/
  ttl : u8 reply 22 = 255
  /-- The other fields of the IP header, and its options. -/
  hdr : ∀ i, 14 ≤ i → i < 14 + ipHdrLen packet → i < 22 ∨ i = 23 ∨ 34 ≤ i → reply[i]? = packet[i]?
  hdrSum : onesSum (slice reply 14 (ipHdrLen packet)) = 0xffff
  type : u8 reply (14 + ipHdrLen packet) = 0
  code : u8 reply (14 + ipHdrLen packet + 1) = 0
  /-- The identifier, the sequence number and the payload. -/
  data : ∀ i, 14 + ipHdrLen packet + 4 ≤ i → reply[i]? = packet[i]?
  icmpSum : onesSum (slice reply (14 + ipHdrLen packet)
    (ipLen (slice packet 14 20) - ipHdrLen packet)) = 0xffff

/-- What stands in front of the ICMP header is only changed in the IP header's TTL,
checksum and addresses. -/
lemma getElem?_icmpEchoReply_hdr (hhdr : 20 ≤ ipHdrLen packet)
    (hlen : 14 + ipHdrLen packet + 8 ≤ packet.length) (hi : i < 14 + ipHdrLen packet)
    (hi' : i < 22 ∨ i = 23 ∨ 34 ≤ i) : (icmpEchoReply packet)[i]? = packet[i]? := by
  rw [getElem?_icmpEchoReply_of_lt hhdr hlen hi, getElem?_echoHeader hhdr hlen (by omega),
    getElem?_echoSwapped hhdr hlen hi']

/-- What stands behind the ICMP checksum is not changed. -/
lemma getElem?_icmpEchoReply_data (hhdr : 20 ≤ ipHdrLen packet)
    (hlen : 14 + ipHdrLen packet + 8 ≤ packet.length) (hi : 14 + ipHdrLen packet + 4 ≤ i) :
    (icmpEchoReply packet)[i]? = packet[i]? := by
  rw [getElem?_icmpEchoReply hhdr hlen (by omega), getElem?_echoCleared hhdr hlen (by omega),
    getElem?_echoHeader hhdr hlen (by omega), getElem?_echoSwapped hhdr hlen (by omega)]

lemma icmpEchoReply_type_code (hhdr : 20 ≤ ipHdrLen packet)
    (hlen : 14 + ipHdrLen packet + 8 ≤ packet.length) :
    u8 (icmpEchoReply packet) (14 + ipHdrLen packet) = 0 ∧
      u8 (icmpEchoReply packet) (14 + ipHdrLen packet + 1) = 0 := by
  obtain ⟨htype, hcode, -⟩ := echoCleared_fields hhdr hlen
  constructor
  · rw [← htype]
    exact u8_eq_of_getElem?_eq (getElem?_icmpEchoReply hhdr hlen (by omega))
  · rw [← hcode]
    exact u8_eq_of_getElem?_eq (getElem?_icmpEchoReply hhdr hlen (by omega))

/-- A request without trailing bytes is answered as it should be. -/
lemma echoReplyTo_icmpEchoReply (hhdr : 20 ≤ ipHdrLen packet)
    (hlen : 14 + ipHdrLen packet + 8 ≤ packet.length)
    (hexact : packet.length = 14 + ipLen (slice packet 14 20)) :
    EchoReplyTo packet (icmpEchoReply packet) := by
  obtain ⟨hsrc, hdst, httl⟩ := icmpEchoReply_fields hhdr hlen
  obtain ⟨htype, hcode⟩ := icmpEchoReply_type_code hhdr hlen
  have hip : ipLen (slice packet 14 20) < 65536 := u16_lt _ _
  refine ⟨length_icmpEchoReply hhdr hlen, hsrc, hdst, httl, ?_,
    onesSum_icmpEchoReply_hdr hhdr hlen, htype, hcode, ?_, ?_⟩
  · intro i _ hi hi'
    exact getElem?_icmpEchoReply_hdr hhdr hlen hi hi'
  · intro i hi
    exact getElem?_icmpEchoReply_data hhdr hlen hi
  · -- the code takes the length of the message from the frame
    have hrest : ipLen (slice packet 14 20) - ipHdrLen packet
        = packet.length - 14 - ipHdrLen packet := by omega
    rw [hrest]
    exact onesSum_icmpEchoReply_icmp hhdr hlen (by omega)

variable {s : Router}

/-- The frame `sr_handlepacket` passes to `route_and_send` for an echo request. -/
lemma srHandlepacket_of_echo (interface : List UInt8) (htype : ethertype packet = ethertypeIp)
    (hv : ValidIp packet) (hus : findIfaceForIp s.ifList (ip32 packet 30) ≠ none)
    (hecho : EchoRequest packet) :
    ∃ s₁, Quiet s s₁ ∧ ∀ fuel, srHandlepacket fuel s packet interface =
      (routeAndSend (handleArpreq fuel) s₁ (icmpEchoReply packet)).map fun p => (p.2, packet) := by
  have hlen := hv.len
  set s₁ := ipChecked (s.noteRead packet 0 14) packet with hs₁
  have hq₁ : Quiet s s₁ := (Quiet.noteRead s packet 0 14 (by omega)).trans
    (quiet_ipChecked _ (validIp_iff.1 hv).1)
  have hq₂ : Quiet s₁ ((icmpChecked s₁ packet).noteRead packet 0 packet.length) :=
    (quiet_icmpChecked s₁ (echoRequest_iff.1 hecho).1).trans (.noteRead _ _ _ _ (by omega))
  refine ⟨_, hq₁.trans hq₂, fun fuel => ?_⟩
  rw [srHandlepacket_of_ip fuel s interface (by omega) htype,
    handleIpPacket_of_valid _ interface hv, handleIpValid, ← hs₁, hq₁.sameEnv.ifList]
  cases hfind : findIfaceForIp s.ifList (ip32 packet 30) with
  | none => exact absurd hfind hus
  | some i => exact handleIpForUs_of_echo s₁ hecho

/-- Every echo request without trailing bytes is answered by one frame, which goes on
the route to the requester, in front of what waits for the next hop there, or nowhere if
there is none. -/
theorem echo_reply_correct (s : Router) (interface : List UInt8)
    (htype : ethertype packet = ethertypeIp) (hv : ValidIp packet)
    (hexact : packet.length = 14 + ipLen (slice packet 14 20))
    (hus : findIfaceForIp s.ifList (ip32 packet 30) ≠ none) (hecho : EchoRequest packet) :
    ∃ reply s₁, EchoReplyTo packet reply ∧ Quiet s s₁ ∧ ∀ fuel,
      srHandlepacket fuel s packet interface =
        (routeAndSend (handleArpreq fuel) s₁ reply).map (fun p => (p.2, packet)) ∧
      (lookupRoute s (ip32 packet 26) = none → ∃ s', Quiet s s' ∧
        srHandlepacket fuel s packet interface = .ok (s', packet)) ∧
      ∀ rt i, lookupRoute s (ip32 packet 26) = some (rt, i) →
        srHandlepacket fuel s packet interface =
          (handleArpreq fuel (queuedOn s₁ reply rt i).1 (queuedOn s₁ reply rt i).2).map
            (fun s' => (s', packet)) ∧
        (WF s → Queues (acceptedOn s₁ reply rt i) (nextHop rt (ip32 packet 26))
          (routedPacket s₁ reply i) (queuedOn s₁ reply rt i).1 (queuedOn s₁ reply rt i).2) := by
  have hhdr := hv.hdrLen
  have hlen := hecho.len
  have hreply := echoReplyTo_icmpEchoReply hhdr hlen hexact
  have hlong : 34 ≤ (icmpEchoReply packet).length := by
    rw [hreply.len]
    exact hv.len
  obtain ⟨s₁, hq, hsend⟩ := srHandlepacket_of_echo interface htype hv hus hecho
  refine ⟨icmpEchoReply packet, s₁, hreply, hq, fun fuel => ⟨hsend fuel, ?_, ?_⟩⟩
  · intro hroute
    rw [← hq.sameEnv.lookupRoute, ← hreply.dst] at hroute
    refine ⟨s₁.noteRead (icmpEchoReply packet) 14 20,
      hq.trans (.noteRead _ _ _ _ (by omega)), ?_⟩
    rw [hsend, routeAndSend_eq _ _ hlong, hroute]
    rfl
  · intro rt i hroute
    rw [← hq.sameEnv.lookupRoute, ← hreply.dst] at hroute
    refine ⟨?_, fun hw => ?_⟩
    · rw [hsend, routeAndSend_eq _ _ hlong, hroute]
      exact map_map_eq _ _ _
    · rw [← hreply.dst]
      exact queues_queuedOn (hq.wf hw) hlong rt i

/-- An echo request with an odd number of bytes. -/
theorem echo_reply_correct_sample :
    ∃ reply s₁, EchoReplyTo (sampleEcho [1, 2, 3]) reply ∧ Quiet sampleRouter s₁ ∧ ∀ fuel,
      srHandlepacket fuel sampleRouter (sampleEcho [1, 2, 3]) (sampleName 0) =
        (handleArpreq fuel (queuedOn s₁ reply (sampleRoute 0 2) sampleIfs[0]).1
          (queuedOn s₁ reply (sampleRoute 0 2) sampleIfs[0]).2).map
          fun s' => (s', sampleEcho [1, 2, 3]) := by
  have hv : ValidIp (sampleEcho [1, 2, 3]) := by
    decide +kernel
  have hecho : EchoRequest (sampleEcho [1, 2, 3]) :=
    ⟨by decide +kernel, by decide +kernel, by decide +kernel, by decide +kernel⟩
  have hroute : lookupRoute sampleRouter (ip32 (sampleEcho [1, 2, 3]) 26)
      = some (sampleRoute 0 2, sampleIfs[0]) := by
    decide +kernel
  obtain ⟨reply, s₁, hreply, hq, h⟩ := echo_reply_correct sampleRouter (sampleName 0)
    (by decide +kernel) hv (by decide +kernel) (by decide +kernel) hecho
  exact ⟨reply, s₁, hreply, hq, fun fuel => ((h fuel).2.2 _ _ hroute).1⟩

end SimpleRouter
