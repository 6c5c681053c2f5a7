/-
Bytes behind the end of the datagram.

A frame may be longer than its datagram: short frames are padded on the wire.  The
length of the ICMP message is taken from the frame and not from the datagram, so
that the padding enters the checksum of the request and that of the reply.  Two
frames that differ in their padding only are answered alike, by replies that are
correct, exactly if neither is answered or both paddings add nothing to the sum.
-/
import SimpleRouter.Checksums
import SimpleRouter.Echo
import SimpleRouter.Rejected

namespace SimpleRouter

open Bytes CString OnesComplement

variable {s : Router} {p q packet : Frame} {interface : List UInt8}

/-! ### The answer to a frame -/

/-- The echo reply that `sr_handlepacket` passes to `route_and_send`, if any. -/
def echoAnswer (s : Router) (packet : Frame) : Option Frame :=
  if ethertype packet = ethertypeIp ∧ ValidIp packet ∧
      findIfaceForIp s.ifList (ip32 packet 30) ≠ none ∧ EchoRequest packet then
    some (icmpEchoReply packet)
  else none

/-- For a frame to the router, `sr_handlepacket` passes the reply `answer` to
`route_and_send` and does nothing else; without an answer it does nothing. -/
def Answers (s : Router) (packet : Frame) (interface : List UInt8) (answer : Option Frame) : Prop :=
  ∃ s₁, Quiet s s₁ ∧ ∀ fuel, srHandlepacket fuel s packet interface =
    match answer with
    | none => .ok (s₁, packet)
    | some reply => (routeAndSend (handleArpreq fuel) s₁ reply).map fun p => (p.2, packet)

lemma answers_echoAnswer (interface : List UInt8) (htype : ethertype packet = ethertypeIp)
    (hus : findIfaceForIp s.ifList (ip32 packet 30) ≠ none) :
    Answers s packet interface (echoAnswer s packet) := by
  by_cases hv : ValidIp packet
  · by_cases hecho : EchoRequest packet
    · rw [echoAnswer, if_pos ⟨htype, hv, hus, hecho⟩]
      exact srHandlepacket_of_echo interface htype hv hus hecho
    · rw [echoAnswer, if_neg fun h => hecho h.2.2.2]
      exact (Rejected.ip htype (.notEcho hus hecho)).quiet
  · rw [echoAnswer, if_neg fun h => hv h.2.1]
    by_cases hlen : packet.length < 14
    · exact (Rejected.short hlen).quiet
    · rw [not_lt] at hlen
      have hq : Quiet s (s.noteRead packet 0 14) := .noteRead s _ _ _ (by omega)
      obtain ⟨s₁, hq₁, heq⟩ := handleIpPacket_of_not_valid (s.noteRead packet 0 14) interface hv
      refine ⟨s₁, hq.trans hq₁, fun fuel => ?_⟩
      rw [srHandlepacket_of_ip fuel s interface hlen htype, heq]

/-! ### Two frames with one datagram -/

/-- The length of the datagram in a frame. -/
def datagramLen (packet : Frame) : ℕ := ipLen (slice packet 14 20)

/-- Two frames that differ only behind the end of the datagram. -/
structure SameDatagram (p q : Frame) : Prop where
  len : datagramLen q = datagramLen p
  left : 14 + datagramLen p ≤ p.length
  right : 14 + datagramLen p ≤ q.length
  bytes : q.take (14 + datagramLen p) = p.take (14 + datagramLen p)

/-- The padding of a frame as a continuation of the ICMP message: behind a message of
odd length the first byte is the lower half of a word. -/
def paddingWords (packet : Frame) : ℕ :=
  wordSum (aligned (datagramLen packet) (packet.drop (14 + datagramLen packet)))

/-- The padding adds nothing to a one's complement sum. -/
def NeutralPadding (packet : Frame) : Prop := paddingWords packet % 65535 = 0

instance (packet : Frame) : Decidable (NeutralPadding packet) :=
  inferInstanceAs (Decidable (_ = _))

namespace SameDatagram

variable (h : SameDatagram p q)

include h

lemma getElem? {i : ℕ} (hi : i < 14 + datagramLen p) : q[i]? = p[i]? := by
  have hq : (q.take (14 + datagramLen p))[i]? = q[i]? := by rw [List.getElem?_take, if_pos hi]
  have hp : (p.take (14 + datagramLen p))[i]? = p[i]? := by rw [List.getElem?_take, if_pos hi]
  rw [← hq, h.bytes, hp]

lemma u8 {i : ℕ} (hi : i < 14 + datagramLen p) : u8 q i = u8 p i :=
  u8_eq_of_getElem?_eq (h.getElem? hi)

lemma u16 {i : ℕ} (hi : i + 1 < 14 + datagramLen p) : u16 q i = u16 p i := by
  rw [Bytes.u16, Bytes.u16, h.u8 (by omega), h.u8 (by omega)]

lemma slice {off n : ℕ} (hn : off + n ≤ 14 + datagramLen p) : slice q off n = slice p off n := by
  ext i : 1
  rw [getElem?_slice, getElem?_slice]
  split_ifs with hi
  · exact h.getElem? (by omega)
  · rfl

lemma ethertype : ethertype q = ethertype p := by
  rw [SimpleRouter.ethertype, SimpleRouter.ethertype, Bytes.u16, Bytes.u16, h.u8 (by omega),
    h.u8 (by omega)]

lemma ipHdrLen (hge : 20 ≤ datagramLen p) : ipHdrLen q = ipHdrLen p := by
  rw [SimpleRouter.ipHdrLen, SimpleRouter.ipHdrLen, h.slice (by omega)]

lemma symm : SameDatagram q p := by
  refine ⟨h.len.symm, ?_, ?_, ?_⟩
  · rw [h.len]
    exact h.right
  · rw [h.len]
    exact h.left
  · rw [h.len]
    exact h.bytes.symm

/-- The checks of the header do not see the padding. -/
lemma validIp (hv : ValidIp p) : ValidIp q := by
  obtain ⟨hlens, htest⟩ := validIp_iff.1 hv
  have hlens' := hlens
  obtain ⟨hlen, hhl, hhdr, hil⟩ := hlens'
  have hge : 20 ≤ datagramLen p := hhl.trans hil
  have hright := h.right
  have hil' : SimpleRouter.ipHdrLen p ≤ datagramLen p := hil
  have hq : IpLengths q := by
    refine ⟨by omega, by rw [h.ipHdrLen hge]; exact hhl, by rw [h.ipHdrLen hge]; omega, ?_⟩
    rw [h.ipHdrLen hge]
    exact hil.trans_eq h.len.symm
  rw [validIp_iff, ipTest_iff hq, h.ipHdrLen hge, h.u16 (by omega), h.slice (by omega)]
  exact ⟨hq, (ipTest_iff hlens).1 htest⟩

end SameDatagram

/-! ### The sums -/

/-- A frame that holds its datagram, and the datagram its IP header. -/
structure Padded (packet : Frame) : Prop where
  hdrLen : 20 ≤ ipHdrLen packet
  hdr : ipHdrLen packet ≤ datagramLen packet
  fits : 14 + datagramLen packet ≤ packet.length
  max : packet.length ≤ 131072

/-- Everything behind the IP header, cut at the end of the datagram. -/
lemma wordSum_tail {l : List UInt8} (h : Padded packet) (hlen : l.length = packet.length)
    (hdrop : l.drop (14 + datagramLen packet) = packet.drop (14 + datagramLen packet)) :
    wordSum (slice l (14 + ipHdrLen packet) (packet.length - (14 + ipHdrLen packet)))
      = wordSum (slice l (14 + ipHdrLen packet) (datagramLen packet - ipHdrLen packet))
        + paddingWords packet := by
  have hhdr := h.hdr
  have hfits := h.fits
  have hcut : 14 + ipHdrLen packet + (datagramLen packet - ipHdrLen packet)
      = 14 + datagramLen packet := by omega
  -- the header consists of whole words
  have hpar : (datagramLen packet - ipHdrLen packet) % 2 = datagramLen packet % 2 := by
    rw [ipHdrLen] at hhdr ⊢
    omega
  have hslice : (slice l (14 + ipHdrLen packet) (datagramLen packet - ipHdrLen packet)).length
      = datagramLen packet - ipHdrLen packet := length_slice (by omega)
  rw [← hlen, slice_append_drop l _ (datagramLen packet - ipHdrLen packet), hcut, hdrop,
    wordSum_append_aligned, hslice, aligned_congr _ hpar, paddingWords]

/-- A message that adds up to all ones without neutral padding does so with it. -/
lemma onesSum_tail_of_neutral (h : Padded packet) (hshape : EchoShaped packet)
    (hlong : ipHdrLen packet < datagramLen packet) (hpad : NeutralPadding packet) :
    onesSum (slice packet (14 + ipHdrLen packet) (packet.length - (14 + ipHdrLen packet))) = 0xffff ↔
      onesSum (slice packet (14 + ipHdrLen packet) (datagramLen packet - ipHdrLen packet))
        = 0xffff := by
  have hne : wordSum (slice packet (14 + ipHdrLen packet) (datagramLen packet - ipHdrLen packet))
      ≠ 0 := by
    apply wordSum_ne_zero
    rw [u8_slice (by omega), Nat.add_zero, hshape.type]
    decide
  rw [NeutralPadding] at hpad
  rw [onesSum, onesSum, fold_eq_max_iff, fold_eq_max_iff, wordSum_tail h rfl rfl]
  omega

section Reply

variable (h : Padded packet) (hlen : 14 + ipHdrLen packet + 8 ≤ packet.length)

include h hlen

/-- The ICMP part of the reply is correct if its checksum is in the datagram and the
padding adds nothing. -/
lemma onesSum_icmpEchoReply_iff :
    onesSum (slice (icmpEchoReply packet) (14 + ipHdrLen packet)
        (datagramLen packet - ipHdrLen packet)) = 0xffff ↔
      ipHdrLen packet + 4 ≤ datagramLen packet ∧ NeutralPadding packet := by
  have hhdr := h.hdr
  have hfits := h.fits
  have hreply := length_icmpEchoReply h.hdrLen hlen
  have hslice : (slice (icmpEchoReply packet) (14 + ipHdrLen packet)
      (datagramLen packet - ipHdrLen packet)).length = datagramLen packet - ipHdrLen packet :=
    length_slice (by omega)
  by_cases hlong : ipHdrLen packet + 4 ≤ datagramLen packet
  · -- the sum over the frame is all ones, so that over the datagram is if the rest is zero
    have hall := onesSum_icmpEchoReply_icmp h.hdrLen hlen h.max
    have hdrop : (icmpEchoReply packet).drop (14 + datagramLen packet)
        = packet.drop (14 + datagramLen packet) := by
      ext i : 1
      rw [List.getElem?_drop, List.getElem?_drop,
        getElem?_icmpEchoReply_data h.hdrLen hlen (by omega)]
    have hfield : u16 (slice (icmpEchoReply packet) (14 + ipHdrLen packet)
        (datagramLen packet - ipHdrLen packet)) 2 ≠ 0 := by
      have hcleared := length_echoCleared h.hdrLen hlen
      rw [u16_slice (by omega), icmpEchoReply_eq, u16_patch_self (cksum_lt _) (by omega)]
      exact cksum_ne_zero _
    have hsplit := wordSum_split (show 2 % 2 = 0 by omega)
      (show 2 + 2 ≤ (slice (icmpEchoReply packet) (14 + ipHdrLen packet)
        (datagramLen packet - ipHdrLen packet)).length by omega)
    rw [Nat.sub_sub, onesSum, fold_eq_max_iff, wordSum_tail h hreply hdrop] at hall
    rw [onesSum, fold_eq_max_iff, NeutralPadding]
    omega
  · -- without its checksum the message is too short to add up to all ones
    obtain ⟨htype, hcode⟩ := icmpEchoReply_type_code h.hdrLen hlen
    have hbyte : ∀ i, i < datagramLen packet - ipHdrLen packet → i < 2 →
        u8 (slice (icmpEchoReply packet) (14 + ipHdrLen packet)
          (datagramLen packet - ipHdrLen packet)) i = 0 := by
      intro i hi hi'
      rw [u8_slice hi]
      obtain rfl | rfl : i = 0 ∨ i = 1 := by omega
      · exact htype
      · exact hcode
    simp only [hlong, false_and, iff_false]
    refine onesSum_ne_of_short (by omega) ?_
    intro i hi hi'
    exact hbyte i (by omega) hi'

/-- The checksum of the reply, with the padding apart. -/
lemma cksum_echoCleared (hlong : ipHdrLen packet + 4 ≤ datagramLen packet) :
    cksum (slice (echoCleared packet) (14 + ipHdrLen packet) (packet.length - 14 - ipHdrLen packet))
      = negate (fold (wordSum (slice (echoCleared packet) (14 + ipHdrLen packet)
          (datagramLen packet - ipHdrLen packet)) + paddingWords packet)) := by
  have hfits := h.fits
  have hmax := h.max
  have hcleared := length_echoCleared h.hdrLen hlen
  have hdrop : (echoCleared packet).drop (14 + datagramLen packet)
      = packet.drop (14 + datagramLen packet) := by
    ext i : 1
    have hhdrLen := h.hdrLen
    rw [List.getElem?_drop, List.getElem?_drop, getElem?_echoCleared h.hdrLen hlen (by omega),
      getElem?_echoHeader h.hdrLen hlen (by omega), getElem?_echoSwapped h.hdrLen hlen (by omega)]
  have hslice : (slice (echoCleared packet) (14 + ipHdrLen packet)
      (packet.length - (14 + ipHdrLen packet))).length = packet.length - (14 + ipHdrLen packet) :=
    length_slice (by omega)
  rw [Nat.sub_sub, cksum_eq_negate (wordSum_lt_of_length_le (by omega)), onesSum,
    wordSum_tail h hcleared hdrop]

end Reply

/-! ### The replies -/

section Take

variable {k : ℕ}

lemma u8_take {l : List UInt8} {i : ℕ} (hi : i < k) : u8 (l.take k) i = u8 l i :=
  u8_eq_of_getElem?_eq (by rw [List.getElem?_take, if_pos hi])

lemma ip32_take {l : List UInt8} {i : ℕ} (hi : i + 3 < k) : ip32 (l.take k) i = ip32 l i := by
  simp only [ip32]
  rw [u8_take (by omega), u8_take (by omega), u8_take (by omega), u8_take hi]

lemma ipHdrLen_take (hk : 34 ≤ k) : ipHdrLen (packet.take k) = ipHdrLen packet := by
  rw [ipHdrLen, ipHdrLen, slice_take (by omega)]

variable (hhdr : 20 ≤ ipHdrLen packet) (hlen : 14 + ipHdrLen packet + 8 ≤ packet.length)
  (hk : k ≤ packet.length)

include hhdr hlen hk

lemma take_echoSwapped (hge : 34 ≤ k) :
    (echoSwapped packet).take k = echoSwapped (packet.take k) := by
  obtain ⟨h₁, h₂, h₃⟩ := length_echo_writes hhdr hlen
  rw [echoSwapped, echoSwapped, ip32_take (by omega), ip32_take (by omega),
    take_patch (by simp; omega) (by omega), take_patch (by simp; omega) (by omega),
    take_patch (by simp; omega) (by omega), take_patch (by simp; omega) (by omega)]

lemma take_echoHeader (hge : 14 + ipHdrLen packet ≤ k) :
    (echoHeader packet).take k = echoHeader (packet.take k) := by
  have hl := length_echoSwapped hhdr hlen
  have hsw := take_echoSwapped hhdr hlen hk (by omega)
  rw [echoHeader, echoHeader, take_patch (by simp; omega) (by omega), ← hsw,
    ipHdrLen_take (by omega), slice_take (by omega)]

/-- What the reply is made from, without the padding. -/
lemma take_echoCleared (hge : 14 + ipHdrLen packet + 4 ≤ k) :
    (echoCleared packet).take k = echoCleared (packet.take k) := by
  have hl := length_echoHeader hhdr hlen
  have hl₁ : (patch (echoHeader packet) (14 + ipHdrLen packet) [0, 0]).length = packet.length :=
    (length_patch (by simp; omega)).trans hl
  rw [echoCleared, echoCleared, take_patch (by simp; omega) (by omega),
    take_patch (by simp; omega) (by omega), take_echoHeader hhdr hlen hk (by omega),
    ipHdrLen_take (by omega)]

end Take

/-- The replies to two frames with one datagram and neutral paddings agree on the
datagram. -/
lemma take_icmpEchoReply_of_same (h : SameDatagram p q) (hp : Padded p) (hq : Padded q)
    (hplen : 14 + ipHdrLen p + 8 ≤ p.length) (hqlen : 14 + ipHdrLen q + 8 ≤ q.length)
    (hlong : ipHdrLen p + 4 ≤ datagramLen p) (hpn : NeutralPadding p) (hqn : NeutralPadding q) :
    (icmpEchoReply q).take (14 + datagramLen p) = (icmpEchoReply p).take (14 + datagramLen p) := by
  have hge : 20 ≤ datagramLen p := hp.hdrLen.trans hp.hdr
  have hhl : ipHdrLen q = ipHdrLen p := h.ipHdrLen hge
  have hright := h.right
  have hleft := h.left
  have hpc := length_echoCleared hp.hdrLen hplen
  have hqc := length_echoCleared hq.hdrLen hqlen
  have hcleared : (echoCleared q).take (14 + datagramLen p)
      = (echoCleared p).take (14 + datagramLen p) := by
    rw [take_echoCleared hq.hdrLen hqlen hright (by omega),
      take_echoCleared hp.hdrLen hplen hleft (by omega), h.bytes]
  have hmsg : slice (echoCleared q) (14 + ipHdrLen p)
      (datagramLen p - ipHdrLen p) = slice (echoCleared p)
      (14 + ipHdrLen p) (datagramLen p - ipHdrLen p) := by
    have hcut : 14 + ipHdrLen p + (datagramLen p - ipHdrLen p)
        ≤ 14 + datagramLen p := by omega
    rw [← slice_take hcut, hcleared, slice_take hcut]
  -- the paddings contribute different multiples of 65535
  have hsum : cksum (slice (echoCleared q) (14 + ipHdrLen q)
      (q.length - 14 - ipHdrLen q)) = cksum (slice (echoCleared p)
      (14 + ipHdrLen p) (p.length - 14 - ipHdrLen p)) := by
    rw [cksum_echoCleared hq hqlen (by rw [h.len]; omega), cksum_echoCleared hp hplen hlong, hhl,
      h.len, hmsg]
    rw [NeutralPadding] at hpn hqn
    exact negate_fold_congr (by omega)
  rw [icmpEchoReply_eq, icmpEchoReply_eq, take_patch (by simp; omega) (by omega),
    take_patch (by simp; omega) (by omega), hcleared, hsum, hhl]

/-! ### The two answers -/

/-- The padding of the two frames has no influence: both are answered or none of them,
and the answers agree on the datagram and have a correct ICMP part. -/
def PaddingInvisible (s : Router) (p q : Frame) : Prop :=
  ((echoAnswer s p).isSome ↔ (echoAnswer s q).isSome) ∧
    ∀ replyP replyQ, echoAnswer s p = some replyP → echoAnswer s q = some replyQ →
      replyQ.take (14 + datagramLen p) = replyP.take (14 + datagramLen p) ∧
      onesSum (slice replyP (14 + ipHdrLen p) (datagramLen p - ipHdrLen p)) = 0xffff ∧
      onesSum (slice replyQ (14 + ipHdrLen p) (datagramLen p - ipHdrLen p)) = 0xffff

/-- Both paddings add nothing to a sum, the ICMP checksum is in the datagram, and the
ICMP header in both frames. -/
structure NeutralPair (p q : Frame) : Prop where
  long : ipHdrLen p + 4 ≤ datagramLen p
  left : 14 + ipHdrLen p + 8 ≤ p.length
  right : 14 + ipHdrLen p + 8 ≤ q.length
  neutralLeft : NeutralPadding p
  neutralRight : NeutralPadding q

lemma NeutralPair.symm (hn : NeutralPair p q) (h : SameDatagram p q) (hp : Padded p) :
    NeutralPair q p := by
  have hhl := h.ipHdrLen (hp.hdrLen.trans hp.hdr)
  refine ⟨?_, ?_, ?_, hn.neutralRight, hn.neutralLeft⟩
  · rw [hhl, h.len]
    exact hn.long
  · rw [hhl]
    exact hn.right
  · rw [hhl]
    exact hn.left

lemma echoAnswer_isSome_iff (htype : ethertype packet = ethertypeIp) (hv : ValidIp packet)
    (hus : findIfaceForIp s.ifList (ip32 packet 30) ≠ none) :
    (echoAnswer s packet).isSome ↔ EchoRequest packet := by
  rw [echoAnswer]
  split_ifs with h
  · exact ⟨fun _ => h.2.2.2, fun _ => rfl⟩
  · exact ⟨fun h' => by simp at h', fun hecho => absurd ⟨htype, hv, hus, hecho⟩ h⟩

lemma echoAnswer_eq_some {reply : Frame} (h : echoAnswer s packet = some reply) :
    ValidIp packet ∧ EchoRequest packet ∧ reply = icmpEchoReply packet := by
  rw [echoAnswer] at h
  split_ifs at h with hc
  rw [Option.some.injEq] at h
  exact ⟨hc.2.1, hc.2.2.2, h.symm⟩

lemma padded_of_valid (hv : ValidIp packet) (hfits : 14 + datagramLen packet ≤ packet.length)
    (hmax : packet.length ≤ 131072) : Padded packet :=
  ⟨hv.hdrLen, hv.ipLen, hfits, hmax⟩

/-- With neutral paddings the tests of the two frames come out the same. -/
lemma NeutralPair.echoRequest (hn : NeutralPair p q) (h : SameDatagram p q) (hp : Padded p)
    (hq : Padded q) (hecho : EchoRequest p) : EchoRequest q := by
  have hge : 20 ≤ datagramLen p := hp.hdrLen.trans hp.hdr
  have hhl := h.ipHdrLen hge
  have hlong := hn.long
  have hright := hn.right
  obtain ⟨hshape, htest⟩ := echoRequest_iff.1 hecho
  have hshape' : EchoShaped q := by
    refine ⟨?_, by rw [hhl]; exact hright, ?_⟩
    · rw [h.slice (by omega)]
      exact hshape.proto
    · rw [hhl, h.u8 (by omega)]
      exact hshape.type
  rw [icmpTest_iff hshape hp.max, onesSum_tail_of_neutral hp hshape (by omega) hn.neutralLeft] at htest
  refine echoRequest_iff.2 ⟨hshape', ?_⟩
  rw [icmpTest_iff hshape' hq.max,
    onesSum_tail_of_neutral hq hshape' (by rw [hhl, h.len]; omega) hn.neutralRight, hhl, h.len,
    h.u16 (by omega), h.slice (by omega)]
  exact htest

/-- What is correct about the two replies is that the pair is neutral. -/
lemma neutralPair_of_invisible (htype : ethertype p = ethertypeIp) (hv : ValidIp p)
    (hus : findIfaceForIp s.ifList (ip32 p 30) ≠ none)
    (hus' : findIfaceForIp s.ifList (ip32 q 30) ≠ none) (h : SameDatagram p q) (hp : Padded p)
    (hq : Padded q) (hecho : EchoRequest p) (hecho' : EchoRequest q)
    (hvis : PaddingInvisible s p q) : NeutralPair p q := by
  have hhl := h.ipHdrLen (hp.hdrLen.trans hp.hdr)
  obtain ⟨-, hsum, hsum'⟩ := hvis.2 _ _ (if_pos ⟨htype, hv, hus, hecho⟩)
    (if_pos ⟨h.ethertype.trans htype, h.validIp hv, hus', hecho'⟩)
  obtain ⟨hlong, hneutral⟩ := (onesSum_icmpEchoReply_iff hp hecho.len).1 hsum
  rw [← hhl, ← h.len] at hsum'
  obtain ⟨-, hneutral'⟩ := (onesSum_icmpEchoReply_iff hq hecho'.len).1 hsum'
  exact ⟨hlong, hecho.len, hhl ▸ hecho'.len, hneutral, hneutral'⟩

/-- With neutral paddings the padding has no influence. -/
lemma NeutralPair.invisible (hn : NeutralPair p q) (htype : ethertype p = ethertypeIp)
    (hv : ValidIp p) (hus : findIfaceForIp s.ifList (ip32 p 30) ≠ none)
    (hus' : findIfaceForIp s.ifList (ip32 q 30) ≠ none) (h : SameDatagram p q) (hp : Padded p)
    (hq : Padded q) : PaddingInvisible s p q := by
  have hhl := h.ipHdrLen (hp.hdrLen.trans hp.hdr)
  have hn' := hn.symm h hp
  constructor
  · rw [echoAnswer_isSome_iff htype hv hus,
      echoAnswer_isSome_iff (h.ethertype.trans htype) (h.validIp hv) hus']
    exact ⟨hn.echoRequest h hp hq, hn'.echoRequest h.symm hq hp⟩
  · intro replyP replyQ hP hQ
    obtain ⟨-, -, rfl⟩ := echoAnswer_eq_some hP
    obtain ⟨-, -, rfl⟩ := echoAnswer_eq_some hQ
    have hsum := (onesSum_icmpEchoReply_iff hq hn'.left).2 ⟨hn'.long, hn.neutralRight⟩
    rw [hhl, h.len] at hsum
    exact ⟨take_icmpEchoReply_of_same h hp hq hn.left hn'.left hn.long hn.neutralLeft
      hn.neutralRight, (onesSum_icmpEchoReply_iff hp hn.left).2 ⟨hn.long, hn.neutralLeft⟩, hsum⟩

/-- Where no frame is answered there is nothing to compare. -/
lemma invisible_of_no_answer (hp : echoAnswer s p = none) (hq : echoAnswer s q = none) :
    PaddingInvisible s p q := by
  rw [PaddingInvisible, hp, hq]
  exact ⟨Iff.rfl, by simp⟩

/-- `sr_handlepacket` answers a frame to the router as `echoAnswer` says; and the
padding of two frames has no influence on it if and only if the header is invalid, or
neither is an echo request with its padding, or the paddings add nothing.  (A frame
from the server has at most 9976 bytes.) -/
theorem padding_invisible_iff (s : Router) (htype : ethertype p = ethertypeIp)
    (hus : findIfaceForIp s.ifList (ip32 p 30) ≠ none) (hus' : findIfaceForIp s.ifList (ip32 q 30) ≠ none)
    (h : SameDatagram p q) (hp : p.length ≤ 131072) (hq : q.length ≤ 131072) :
    (∀ interface, Answers s p interface (echoAnswer s p) ∧
      Answers s q interface (echoAnswer s q)) ∧
    (PaddingInvisible s p q ↔
      (ValidIp p → (¬ EchoRequest p ∧ ¬ EchoRequest q) ∨ NeutralPair p q)) := by
  have htype' : ethertype q = ethertypeIp := h.ethertype.trans htype
  refine ⟨fun interface => ⟨answers_echoAnswer interface htype hus,
    answers_echoAnswer interface htype' hus'⟩, ?_⟩
  have hnone : ∀ {f : Frame}, ¬ (ValidIp f ∧ EchoRequest f) → echoAnswer s f = none :=
    fun hf => if_neg fun hc => hf ⟨hc.2.1, hc.2.2.2⟩
  by_cases hv : ValidIp p
  · have hv' := h.validIp hv
    have hpad := padded_of_valid hv h.left hp
    have hpad' := padded_of_valid hv' (by rw [h.len]; exact h.right) hq
    constructor
    · intro hvis _
      have hiff := hvis.1
      rw [echoAnswer_isSome_iff htype hv hus, echoAnswer_isSome_iff htype' hv' hus'] at hiff
      by_cases hecho : EchoRequest p
      · exact Or.inr (neutralPair_of_invisible htype hv hus hus' h hpad hpad' hecho (hiff.1 hecho)
          hvis)
      · exact Or.inl ⟨hecho, fun hecho' => hecho (hiff.2 hecho')⟩
    · intro hcond
      rcases hcond hv with ⟨hno, hno'⟩ | hn
      · exact invisible_of_no_answer (hnone fun hc => hno hc.2) (hnone fun hc => hno' hc.2)
      · exact hn.invisible htype hv hus hus' h hpad hpad'
  · have hv' : ¬ ValidIp q := fun hv' => hv (h.symm.validIp hv')
    exact ⟨fun _ hv' => absurd hv' hv,
      fun _ => invisible_of_no_answer (hnone fun hc => hv hc.1) (hnone fun hc => hv' hc.1)⟩

/-- An echo request of odd length, without padding and with a padding of zeros. -/
theorem padding_invisible_iff_sample :
    SameDatagram (sampleEcho [1, 2, 3]) (sampleEcho [1, 2, 3] ++ [0, 0, 0]) ∧
      PaddingInvisible sampleRouter (sampleEcho [1, 2, 3]) (sampleEcho [1, 2, 3] ++ [0, 0, 0]) := by
  have hsame : SameDatagram (sampleEcho [1, 2, 3]) (sampleEcho [1, 2, 3] ++ [0, 0, 0]) :=
    ⟨by decide +kernel, by decide +kernel, by decide +kernel, by decide +kernel⟩
  have hpair : NeutralPair (sampleEcho [1, 2, 3]) (sampleEcho [1, 2, 3] ++ [0, 0, 0]) :=
    ⟨by decide +kernel, by decide +kernel, by decide +kernel, by decide +kernel, by decide +kernel⟩
  refine ⟨hsame, ?_⟩
  exact (padding_invisible_iff sampleRouter (by decide +kernel) (by decide +kernel)
    (by decide +kernel) hsame (by decide +kernel) (by decide +kernel)).2.2 fun _ => Or.inr hpair

/-- The same request is answered without padding, and not with the two bytes 0 and 1
behind it. -/
theorem padding_drops_request :
    SameDatagram (sampleEcho []) (sampleEcho [] ++ [0, 1]) ∧
      ¬ PaddingInvisible sampleRouter (sampleEcho []) (sampleEcho [] ++ [0, 1]) := by
  refine ⟨⟨by decide +kernel, by decide +kernel, by decide +kernel, by decide +kernel⟩, ?_⟩
  rintro ⟨hiff, -⟩
  have hplain : (echoAnswer sampleRouter (sampleEcho [])).isSome := by
    decide +kernel
  have hpadded : ¬ (echoAnswer sampleRouter (sampleEcho [] ++ [0, 1])).isSome := by
    decide +kernel
  exact hpadded (hiff.1 hplain)

end SimpleRouter
