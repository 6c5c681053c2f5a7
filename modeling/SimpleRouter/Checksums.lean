/-
The two checksum tests.

`handle_ip_packet` computes the checksum of the header with the field zeroed and
compares it with the field as received; the ICMP checksum of an echo request is
tested in the same way.  Summing the words with the field as received and comparing
with all ones would be the same, were it not for the two representations of zero:
`cksum` never returns 0, so that a frame whose checksum is 0, as it is when the
other words add up to all ones, fails the test.
-/
import SimpleRouter.Receive

namespace SimpleRouter

open Bytes CString OnesComplement

variable {packet : Frame}

/-! ### The tests, by the sum -/

/-- The header passes the test if its sum is all ones and its checksum is not 0. -/
lemma ipTest_iff (h : IpLengths packet) :
    IpTest packet ↔ u16 packet 24 ≠ 0 ∧ onesSum (slice packet 14 (ipHdrLen packet)) = 0xffff := by
  obtain ⟨hlen, hhl, hhdr, -⟩ := h
  have hle := ipHdrLen_le packet
  have hslice := length_slice hhdr
  have hinside : slice (patch packet 24 (be16 0)) 14 (ipHdrLen packet)
      = patch (slice packet 14 (ipHdrLen packet)) 10 (be16 0) :=
    slice_patch_inside hhdr (by omega) (by simp; omega)
  have hzero : (patch (slice packet 14 (ipHdrLen packet)) 10 (be16 0)).length = ipHdrLen packet := by
    rw [length_patch (by simp; omega), hslice]
  have hfield : u16 (slice packet 14 (ipHdrLen packet)) 10 = u16 packet 24 := u16_slice (by omega)
  -- the first byte of the header holds its length
  have hfirst : u8 (patch (slice packet 14 (ipHdrLen packet)) 10 (be16 0)) 0 ≠ 0 := by
    rw [u8_patch_of_lt (by simp; omega) (by omega), u8_slice (by omega)]
    intro hz
    rw [ipHdrLen, ipHl, u8_slice (by omega), hz] at hhl
    simp at hhl
  rw [IpTest, ipSum_slice, hinside, cksum_eq_negate (wordSum_lt_of_length_le (by omega)), ← hfield,
    u16_eq_negate_iff (by omega) (by omega) (wordSum_ne_zero hfirst)]

/-- An echo request passes the test if its sum is all ones and its checksum is not 0. -/
lemma icmpTest_iff (h : EchoShaped packet) (hmax : packet.length ≤ 131072) :
    IcmpTest packet ↔ u16 packet (14 + ipHdrLen packet + 2) ≠ 0 ∧
      onesSum (slice packet (14 + ipHdrLen packet) (packet.length - (14 + ipHdrLen packet)))
        = 0xffff := by
  obtain ⟨-, hlen, htype⟩ := h
  set off := 14 + ipHdrLen packet with hoff
  have hslice : (slice packet off (packet.length - off)).length = packet.length - off :=
    length_slice (by omega)
  have hinside : slice (patch packet (off + 2) (be16 0)) off (packet.length - off)
      = patch (slice packet off (packet.length - off)) 2 (be16 0) := by
    rw [slice_patch_inside (by omega) (by omega) (by simp; omega), Nat.add_sub_cancel_left]
  have hzero : (patch (slice packet off (packet.length - off)) 2 (be16 0)).length
      = packet.length - off := by
    rw [length_patch (by simp; omega), hslice]
  have hfield : u16 (slice packet off (packet.length - off)) 2 = u16 packet (off + 2) :=
    u16_slice (by omega)
  -- the first byte of the message is its type
  have hfirst : u8 (patch (slice packet off (packet.length - off)) 2 (be16 0)) 0 ≠ 0 := by
    rw [u8_patch_of_lt (by simp; omega) (by omega), u8_slice (by omega), Nat.add_zero, htype]
    decide
  rw [IcmpTest, ← hoff, hinside, cksum_eq_negate (wordSum_lt_of_length_le (by omega)), ← hfield,
    u16_eq_negate_iff (by omega) (by omega) (wordSum_ne_zero hfirst)]

/-! ### What is accepted -/

/-- The tests decide what happens to a frame of the right lengths, and to an echo
request for the router; and each of them accepts exactly the sums that are all ones,
unless the checksum is 0 and the sum is all ones nevertheless.  (A frame from the
server has at most 9976 bytes.) -/
theorem checksum_accepts_iff (h : IpLengths packet) :
    ((∀ handle s interface, handleIpPacket handle s packet interface =
        if IpTest packet then handleIpValid handle (ipChecked s packet) packet interface
        else .ok (ipChecked s packet, packet)) ∧
      ((IpTest packet ↔ onesSum (slice packet 14 (ipHdrLen packet)) = 0xffff) ↔
        ¬ (u16 packet 24 = 0 ∧ onesSum (slice packet 14 (ipHdrLen packet)) = 0xffff))) ∧
    (EchoShaped packet → packet.length ≤ 131072 →
      (∀ handle s, handleIpForUs handle s packet (slice packet 14 20) =
        if IcmpTest packet then
          (routeAndSend handle ((icmpChecked s packet).noteRead packet 0 packet.length)
            (icmpEchoReply packet)).map fun p => (p.2, packet)
        else .ok (icmpChecked s packet, packet)) ∧
      ((IcmpTest packet ↔ onesSum (slice packet (14 + ipHdrLen packet)
          (packet.length - (14 + ipHdrLen packet))) = 0xffff) ↔
        ¬ (u16 packet (14 + ipHdrLen packet + 2) = 0 ∧ onesSum (slice packet (14 + ipHdrLen packet)
          (packet.length - (14 + ipHdrLen packet))) = 0xffff))) := by
  refine ⟨⟨fun handle s interface => handleIpPacket_eq s interface h, ?_⟩, ?_⟩
  · rw [ipTest_iff h, and_iff_right_iff_imp]
    tauto
  · intro hecho hmax
    refine ⟨fun handle s => handleIpForUs_eq s hecho, ?_⟩
    rw [icmpTest_iff hecho hmax, and_iff_right_iff_imp]
    tauto

/-- An echo request with three bytes of data is accepted by both tests. -/
theorem checksum_accepts_iff_sample :
    IpTest (sampleEcho [1, 2, 3]) ∧ IcmpTest (sampleEcho [1, 2, 3]) := by
  have hlens : IpLengths (sampleEcho [1, 2, 3]) :=
    ⟨by decide +kernel, by decide +kernel, by decide +kernel, by decide +kernel⟩
  have hshape : EchoShaped (sampleEcho [1, 2, 3]) :=
    ⟨by decide +kernel, by decide +kernel, by decide +kernel⟩
  obtain ⟨⟨-, hip⟩, hicmp⟩ := checksum_accepts_iff hlens
  obtain ⟨-, hicmp⟩ := hicmp hshape (by decide +kernel)
  exact ⟨(hip.2 (by decide +kernel)).2 (by decide +kernel),
    (hicmp.2 (by decide +kernel)).2 (by decide +kernel)⟩

/-- A header without options whose other words add up to all ones. -/
def zeroSumFrame : Frame :=
  [2, 0, 0, 0, 0, 1, 2, 0, 0, 0, 9, 9, 0x08, 0x00,
    0x45, 0x00, 0x00, 0x14, 0x65, 0xd6, 0x00, 0x00, 0x40, 0x11, 0x00, 0x00,
    0x0a, 0x00, 0x00, 0x02, 0x0a, 0x00, 0x01, 0x02]

/-- Its checksum is 0, which is what the sum asks for, and the frame is dropped. -/
theorem zero_checksum_dropped :
    IpLengths zeroSumFrame ∧
      ¬ (IpTest zeroSumFrame ↔
        onesSum (slice zeroSumFrame 14 (ipHdrLen zeroSumFrame)) = 0xffff) ∧
      ∀ handle s interface, handleIpPacket handle s zeroSumFrame interface
        = .ok (ipChecked s zeroSumFrame, zeroSumFrame) := by
  have hlens : IpLengths zeroSumFrame :=
    ⟨by decide +kernel, by decide +kernel, by decide +kernel, by decide +kernel⟩
  have hsum : onesSum (slice zeroSumFrame 14 (ipHdrLen zeroSumFrame)) = 0xffff := by
    decide +kernel
  have hno : ¬ IpTest zeroSumFrame := by
    decide +kernel
  refine ⟨hlens, fun h => hno (h.2 hsum), ?_⟩
  intro handle s interface
  rw [handleIpPacket_eq s interface hlens, if_neg hno]

end SimpleRouter
