/-
Packet formats (`sr_protocol.h`) and the Internet checksum (`sr_utils.c`).

Addresses are never computed with, only compared and copied, so a 32-bit
address in network byte order is kept as its four bytes and a hardware address
as its six.  Header fields are read off a byte string at the offsets of the
packed structs: the Ethernet header takes bytes 0-13 of a frame, and the IP or
the ARP header starts at byte 14.  16-bit fields are given by their value in
host order, which makes `ntohs` and `htons` the reading and writing of a
big-endian word.
-/
import SimpleRouter.Lib.OnesComplement

namespace SimpleRouter

open Bytes

/-- A raw Ethernet frame. -/
abbrev Frame := List UInt8

/-! ### Addresses -/

/-- An IPv4 address in network byte order. -/
structure Ip where
  b0 : UInt8
  b1 : UInt8
  b2 : UInt8
  b3 : UInt8
deriving DecidableEq, Repr

/-- The address `0.0.0.0`, which the code uses for "no address". -/
instance : Zero Ip := ⟨⟨0, 0, 0, 0⟩⟩

/-- A hardware address. -/
structure Mac where
  b0 : UInt8
  b1 : UInt8
  b2 : UInt8
  b3 : UInt8
  b4 : UInt8
  b5 : UInt8
deriving DecidableEq, Repr

/-- The bytes of an address in memory. -/
def Ip.bytes (a : Ip) : List UInt8 := [a.b0, a.b1, a.b2, a.b3]

/-- The bytes of a hardware address in memory. -/
def Mac.bytes (m : Mac) : List UInt8 := [m.b0, m.b1, m.b2, m.b3, m.b4, m.b5]

@[simp] lemma Ip.length_bytes (a : Ip) : a.bytes.length = 4 := rfl

@[simp] lemma Mac.length_bytes (m : Mac) : m.bytes.length = 6 := rfl

/-- The IPv4 address at offset `i`. -/
def ip32 (l : List UInt8) (i : ℕ) : Ip := ⟨u8 l i, u8 l (i + 1), u8 l (i + 2), u8 l (i + 3)⟩

/-- The hardware address at offset `i`. -/
def mac48 (l : List UInt8) (i : ℕ) : Mac :=
  ⟨u8 l i, u8 l (i + 1), u8 l (i + 2), u8 l (i + 3), u8 l (i + 4), u8 l (i + 5)⟩

/-! ### Header fields -/

/-- `ether_dhost` of a frame. -/
def etherDhost (f : Frame) : Mac := mac48 f 0

/-- `ether_shost` of a frame. -/
def etherShost (f : Frame) : Mac := mac48 f 6

/-- The EtherType of a frame, in host order. -/
def ethertype (f : Frame) : ℕ := u16 f 12

/-- `ethertype_arp`. -/
def ethertypeArp : ℕ := 0x0806

/-- `ethertype_ip`. -/
def ethertypeIp : ℕ := 0x0800

lemma ethertype_ne_arp {f : Frame} (h : ethertype f = ethertypeIp) :
    ethertype f ≠ ethertypeArp := by
  rw [h]
  decide

section IpHeader

variable (h : List UInt8)

/-- `ip_hl`: the header length in 32-bit words. -/
def ipHl : ℕ := (u8 h 0).toNat % 16

/-- `ip_v`: the version. -/
def ipV : ℕ := (u8 h 0).toNat / 16

/-- `ip_len`: the total length of the datagram. -/
def ipLen : ℕ := u16 h 2

/-- `ip_ttl`. -/
def ipTtl : UInt8 := u8 h 8

/-- `ip_p`: the protocol. -/
def ipP : UInt8 := u8 h 9

/-- `ip_sum`: the header checksum. -/
def ipSum : ℕ := u16 h 10

/-- `ip_src`. -/
def ipSrc : Ip := ip32 h 12

/-- `ip_dst`. -/
def ipDst : Ip := ip32 h 16

end IpHeader

section ArpHeader

variable (a : List UInt8)

/-- `ar_hrd`: the format of the hardware address. -/
def arHrd : ℕ := u16 a 0

/-- `ar_pro`: the format of the protocol address. -/
def arPro : ℕ := u16 a 2

/-- `ar_op`: the ARP opcode. -/
def arOp : ℕ := u16 a 6

/-- `ar_sha`: the sender's hardware address. -/
def arSha : Mac := mac48 a 8

/-- `ar_sip`: the sender's IP address. -/
def arSip : Ip := ip32 a 14

/-- `ar_tip`: the target's IP address. -/
def arTip : Ip := ip32 a 24

end ArpHeader

/-! ### Reading addresses through writes -/

lemma ip32_slice {l : List UInt8} {off n i : ℕ} (h : i + 3 < n) :
    ip32 (slice l off n) i = ip32 l (off + i) := by
  simp only [ip32, Ip.mk.injEq]
  refine ⟨?_, ?_, ?_, ?_⟩ <;> rw [u8_slice (by omega)] <;> rfl

lemma ip32_patch_self {l : List UInt8} {off : ℕ} (a : Ip) (h : off + 4 ≤ l.length) :
    ip32 (patch l off a.bytes) off = a := by
  have hget : ∀ k, k < 4 → u8 (patch l off a.bytes) (off + k) = u8 a.bytes k := by
    intro k hk
    rw [u8_patch_of_mem (by simpa using h) (by omega) (by simp; omega)]
    congr 1
    omega
  have h₀ := hget 0 (by omega)
  rw [Nat.add_zero] at h₀
  simp only [ip32]
  rw [h₀, hget 1 (by omega), hget 2 (by omega), hget 3 (by omega)]
  rfl

lemma mac48_patch_self {l : List UInt8} {off : ℕ} (m : Mac) (h : off + 6 ≤ l.length) :
    mac48 (patch l off m.bytes) off = m := by
  have hget : ∀ k, k < 6 → u8 (patch l off m.bytes) (off + k) = u8 m.bytes k := by
    intro k hk
    rw [u8_patch_of_mem (by simpa using h) (by omega) (by simp; omega)]
    congr 1
    omega
  have h₀ := hget 0 (by omega)
  rw [Nat.add_zero] at h₀
  simp only [mac48]
  rw [h₀, hget 1 (by omega), hget 2 (by omega), hget 3 (by omega), hget 4 (by omega),
    hget 5 (by omega)]
  rfl

section Disjoint

variable {l bs : List UInt8} {off i : ℕ}

lemma u8_patch_of_disjoint (h : off + bs.length ≤ l.length)
    (hd : i < off ∨ off + bs.length ≤ i) : u8 (patch l off bs) i = u8 l i := by
  rcases hd with hd | hd
  · exact u8_patch_of_lt h hd
  · exact u8_patch_of_ge h hd

lemma u16_patch_of_disjoint (h : off + bs.length ≤ l.length)
    (hd : i + 2 ≤ off ∨ off + bs.length ≤ i) : u16 (patch l off bs) i = u16 l i := by
  simp only [u16]
  rw [u8_patch_of_disjoint h (by omega), u8_patch_of_disjoint h (by omega)]

lemma ip32_patch_of_disjoint (h : off + bs.length ≤ l.length)
    (hd : i + 4 ≤ off ∨ off + bs.length ≤ i) : ip32 (patch l off bs) i = ip32 l i := by
  simp only [ip32]
  rw [u8_patch_of_disjoint h (by omega), u8_patch_of_disjoint h (by omega),
    u8_patch_of_disjoint h (by omega), u8_patch_of_disjoint h (by omega)]

lemma mac48_patch_of_disjoint (h : off + bs.length ≤ l.length)
    (hd : i + 6 ≤ off ∨ off + bs.length ≤ i) : mac48 (patch l off bs) i = mac48 l i := by
  simp only [mac48]
  rw [u8_patch_of_disjoint h (by omega), u8_patch_of_disjoint h (by omega),
    u8_patch_of_disjoint h (by omega), u8_patch_of_disjoint h (by omega),
    u8_patch_of_disjoint h (by omega), u8_patch_of_disjoint h (by omega)]

end Disjoint

lemma u16_patch_self {l : List UInt8} {off n : ℕ} (hn : n < 65536) (h : off + 2 ≤ l.length) :
    u16 (patch l off (be16 n)) off = n := by
  simp only [u16]
  rw [u8_patch_of_mem h (by omega) (by simp), u8_patch_of_mem h (by omega) (by simp),
    Nat.sub_self, Nat.add_sub_cancel_left]
  exact u16_be16 hn

/-! ### The checksum -/

/-- The summing loop of `cksum`: a 32-bit accumulator takes the data two bytes
at a time, an odd last byte as the upper half of a word. -/
def cksumLoop : ℕ → List UInt8 → ℕ
  | sum, [] => sum
  | sum, [a] => (sum + a.toNat * 256) % 0x100000000
  | sum, a :: b :: rest => cksumLoop ((sum + (a.toNat * 256 + b.toNat)) % 0x100000000) rest

/-- `cksum`: the value of the two bytes it returns, read in network order.  The
complement is taken in 32 bits and truncated by `htons`. -/
def cksum (data : List UInt8) : ℕ :=
  let sum := OnesComplement.fold (cksumLoop 0 data)
  let sum := (0xffffffff - sum) % 65536
  if sum = 0 then 0xffff else sum

lemma cksumLoop_eq {data : List UInt8} {sum : ℕ}
    (h : sum + OnesComplement.wordSum data < 0x100000000) :
    cksumLoop sum data = sum + OnesComplement.wordSum data := by
  induction sum, data using cksumLoop.induct with
  | case1 sum => simp [cksumLoop, OnesComplement.wordSum]
  | case2 sum a =>
      simp only [OnesComplement.wordSum] at h
      simp only [cksumLoop, OnesComplement.wordSum]
      omega
  | case3 sum a b rest ih =>
      simp only [OnesComplement.wordSum] at h
      have hmod : (sum + (a.toNat * 256 + b.toNat)) % 0x100000000
          = sum + (a.toNat * 256 + b.toNat) := by omega
      rw [hmod] at ih
      rw [cksumLoop, hmod, ih (by omega), OnesComplement.wordSum]
      omega

/-- As long as the accumulator does not wrap, `cksum` is the complement of the
one's complement sum. -/
lemma cksum_eq_negate {data : List UInt8} (h : OnesComplement.wordSum data < 0x100000000) :
    cksum data = OnesComplement.negate (OnesComplement.onesSum data) := by
  have hle : OnesComplement.onesSum data ≤ 65535 := OnesComplement.fold_le _
  have hloop : cksumLoop 0 data = OnesComplement.wordSum data := by
    rw [cksumLoop_eq (by omega), Nat.zero_add]
  have hsum : cksum data = if (0xffffffff - OnesComplement.onesSum data) % 65536 = 0 then 0xffff
      else (0xffffffff - OnesComplement.onesSum data) % 65536 := by
    rw [cksum, hloop, OnesComplement.onesSum]
  rw [hsum, OnesComplement.negate]
  split_ifs <;> omega

lemma cksum_lt (data : List UInt8) : cksum data < 65536 := by
  simp only [cksum]
  split_ifs <;> omega

lemma cksum_ne_zero (data : List UInt8) : cksum data ≠ 0 := by
  simp only [cksum]
  split_ifs <;> omega

/-- Data of up to 128 KiB leaves the accumulator below `2³²`. -/
lemma wordSum_lt_of_length_le {data : List UInt8} (h : data.length ≤ 131072) :
    OnesComplement.wordSum data < 0x100000000 := by
  have := OnesComplement.wordSum_le data
  omega

end SimpleRouter
