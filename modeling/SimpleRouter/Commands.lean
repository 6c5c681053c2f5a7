/-
Messages of the server protocol (`vnscommand.h`) and the sizes that the handlers of
`sr_vns_comm.c` compute from the length of a message.

A length is an `int`, a field of a message a 32-bit word, and `sizeof` has the 64-bit
type `size_t`, which the rest of an expression is brought to.  The sizes are computed
here in the same way, as integers that are reduced wherever the code converts them.
-/
import SimpleRouter.Socket
import SimpleRouter.Interfaces

namespace SimpleRouter

open Bytes CString

/-! ### Conversions -/

/-- The value of type `size_t`. -/
def toSize (n : ℤ) : ℤ := n % 18446744073709551616

/-- The value of type `unsigned int`, or `uint32_t`. -/
def toUnsigned (n : ℤ) : ℤ := n % 4294967296

/-- The value of type `int`. -/
def toInt (n : ℤ) : ℤ := n.bmod 4294967296

/-! ### Commands -/

/-- `VNSHWINFO`. -/
def vnsHwinfo : ℕ := 16

/-- `VNS_RTABLE`. -/
def vnsRtable : ℕ := 32

/-- `VNS_AUTH_REQUEST`. -/
def vnsAuthRequest : ℕ := 128

/-! `len` is the length of the message: as `int` in the function that reads it, and as
the 32-bit word `mLen` in the buffer. -/

/-- The length of the frame of a packet message, an `unsigned int`:
`len - sizeof(c_packet_ethernet_header) + sizeof(struct sr_ethernet_hdr)`. -/
def packetLen (len : ℕ) : ℤ := toUnsigned (toSize (toSize (len - 38) + 14))

/-- The length that is logged for a packet message, an `int`:
`ntohl(sr_pkt->mLen) - sizeof(c_packet_header)`. -/
def logLen (len : ℕ) : ℤ := toInt (toSize (len - 24))

/-- The number of entries of a hardware information message, an `int`:
`(ntohl(hwinfo->mLen) - (2*sizeof(uint32_t)))/sizeof(c_hw_entry)`. -/
def hwinfoEntries (len : ℕ) : ℤ := toInt (toSize (len - 8) / 36)

/-- The number of bytes of a routing table that are written, a `size_t`:
`ntohl(rtable->mLen) - 8 - IDSIZE`. -/
def rtableLen (len : ℕ) : ℤ := toSize (toUnsigned (toUnsigned (len - 8) - 32))

/-- The number of bytes of salt, an `unsigned`: `ntohl(req->mLen) - sizeof(*req)`. -/
def saltLen (len : ℕ) : ℤ := toUnsigned (toSize (len - 8))

/-! ### Lengths that are what they should be -/

/-- The length word and the command lie inside the buffer, and the size that the
handler of the command computes is the number of bytes behind its header. -/
structure LengthsInside (len command : ℕ) : Prop where
  store : 4 ≤ len
  commandWord : 4 + 4 ≤ len
  packet : command = vnsPacket → packetLen len = len - 24 ∧ logLen len = len - 24
  hwinfo : command = vnsHwinfo → hwinfoEntries len = (len - 8) / 36
  rtable : command = vnsRtable → rtableLen len = len - 40
  auth : command = vnsAuthRequest → saltLen len = len - 8

section Sizes

variable {len command : ℕ} (h : len ≤ 10000)

include h

/-- Below the size of its header the length of a frame wraps. -/
lemma packetLen_eq_iff : packetLen len = len - 24 ↔ 24 ≤ len := by
  rw [packetLen, toUnsigned, toSize, toSize]
  omega

lemma logLen_eq : logLen len = len - 24 := by
  rw [logLen, toSize, toInt, Int.bmod_def]
  omega

lemma hwinfoEntries_eq (hge : 8 ≤ len) : hwinfoEntries len = (len - 8) / 36 := by
  rw [hwinfoEntries, toSize, toInt, Int.bmod_def]
  omega

/-- Below the size of its header the size of a routing table wraps. -/
lemma rtableLen_eq_iff : rtableLen len = len - 40 ↔ 40 ≤ len := by
  rw [rtableLen, toSize, toUnsigned, toUnsigned]
  omega

lemma saltLen_eq (hge : 8 ≤ len) : saltLen len = len - 8 := by
  rw [saltLen, toUnsigned, toSize]
  omega

end Sizes

/-- Of the lengths that are not refused, those are what they should be that leave room
for the header of the message. -/
theorem lengths_inside_iff (len command : ℕ) (h : ¬ badLength len) :
    LengthsInside len command ↔
      8 ≤ len ∧ (command = vnsPacket → 24 ≤ len) ∧ (command = vnsRtable → 40 ≤ len) := by
  rw [badLength_iff, not_lt] at h
  constructor
  · rintro ⟨-, hcommand, hpacket, -, hrtable, -⟩
    refine ⟨hcommand, fun hc => ?_, fun hc => ?_⟩
    · exact (packetLen_eq_iff h).1 (hpacket hc).1
    · exact (rtableLen_eq_iff h).1 (hrtable hc)
  · rintro ⟨hge, hpacket, hrtable⟩
    refine ⟨by omega, hge, fun hc => ?_, fun _ => hwinfoEntries_eq h hge, fun hc => ?_,
      fun _ => saltLen_eq h hge⟩
    · exact ⟨(packetLen_eq_iff h).2 (hpacket hc), logLen_eq h⟩
    · exact (rtableLen_eq_iff h).2 (hrtable hc)

/-- A packet message of 66 bytes. -/
theorem lengths_inside_iff_sample : LengthsInside 66 vnsPacket :=
  (lengths_inside_iff 66 vnsPacket (by decide)).2 ⟨by decide, fun _ => by decide, by decide⟩

/-- A packet message of 20 bytes is not refused, and its frame is taken to be almost
4 GiB long. -/
theorem packet_length_wraps :
    ¬ badLength 20 ∧ packetLen 20 = 4294967292 ∧ ¬ LengthsInside 20 vnsPacket := by
  refine ⟨by decide, by decide, ?_⟩
  intro h
  exact absurd (h.packet rfl).1 (by decide)

end SimpleRouter
