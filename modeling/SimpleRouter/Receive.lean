/-
What handling a received frame can come to.

`handle_ip_packet` and `handle_arp_packet` check a frame in many steps and then
do one thing.  `IpOutcome` and `ArpOutcome` have one case for each of these
things, with the checks that lead to it; later files use `handleIpPacket_outcome`
and `handleArpPacket_outcome`, or the equations in front of them, and do not unfold
the two functions.  Up to the point where they act, all that has happened is
`Quiet`: blocks were read that lie inside the frame.
-/
import SimpleRouter.Reentry
import SimpleRouter.Events

namespace SimpleRouter

open Bytes CString

variable {s s' s₁ s₂ : Router} {packet buf : Frame} {interface : List UInt8} {off n : ℕ}

/-! ### Reads inside a buffer -/

/-- Between the two states only blocks inside a buffer were read. -/
structure Quiet (s s' : Router) : Prop where
  core : s'.core = s.core
  trace : s'.trace = s.trace
  reads : ∀ r ∈ s'.reads, r ∈ s.reads ∨ r.InBounds

namespace Quiet

lemma refl (s : Router) : Quiet s s := ⟨rfl, rfl, fun _ hr => Or.inl hr⟩

lemma trans {s₃ : Router} (h : Quiet s₁ s₂) (h' : Quiet s₂ s₃) : Quiet s₁ s₃ := by
  refine ⟨h'.core.trans h.core, h'.trace.trans h.trace, ?_⟩
  intro r hr
  rcases h'.reads r hr with hr | hr
  · exact h.reads r hr
  · exact Or.inr hr

lemma noteRead (s : Router) (buf : List UInt8) (off n : ℕ) (h : off + n ≤ buf.length) :
    Quiet s (s.noteRead buf off n) := by
  refine ⟨rfl, rfl, ?_⟩
  intro r hr
  rcases List.mem_append.1 hr with hr | hr
  · exact Or.inl hr
  · rw [List.mem_singleton] at hr
    subst hr
    exact Or.inr h

lemma sameEnv (h : Quiet s s') : SameEnv s s' := .of_core h.core

lemma wf (h : Quiet s s') (hw : WF s) : WF s' := hw.of_core h.core

end Quiet

/-! ### IP frames -/

/-- The length of the IP header of a frame. -/
def ipHdrLen (packet : Frame) : ℕ := ipHl (slice packet 14 20) * 4

lemma ipHdrLen_le (packet : Frame) : ipHdrLen packet ≤ 60 := by
  rw [ipHdrLen, ipHl]
  omega

/-- The checks every IP frame has to pass. -/
structure ValidIp (packet : Frame) : Prop where
  len : 34 ≤ packet.length
  hdrLen : 20 ≤ ipHdrLen packet
  hdr : 14 + ipHdrLen packet ≤ packet.length
  ipLen : ipHdrLen packet ≤ ipLen (slice packet 14 20)
  sum : ipSum (slice packet 14 20) = cksum (slice (patch packet 24 (be16 0)) 14 (ipHdrLen packet))

instance (packet : Frame) : Decidable (ValidIp packet) :=
  decidable_of_iff (34 ≤ packet.length ∧ 20 ≤ ipHdrLen packet ∧ 14 + ipHdrLen packet ≤ packet.length ∧
      ipHdrLen packet ≤ SimpleRouter.ipLen (slice packet 14 20) ∧
      ipSum (slice packet 14 20) =
        cksum (slice (patch packet 24 (be16 0)) 14 (ipHdrLen packet)))
    ⟨fun ⟨h₁, h₂, h₃, h₄, h₅⟩ => ⟨h₁, h₂, h₃, h₄, h₅⟩, fun ⟨h₁, h₂, h₃, h₄, h₅⟩ => ⟨h₁, h₂, h₃, h₄, h₅⟩⟩

/-- A transit frame: valid and addressed to none of the interfaces. -/
structure Transit (s : Router) (packet : Frame) : Prop where
  valid : ValidIp packet
  notForUs : findIfaceForIp s.ifList (ip32 packet 30) = none

instance (s : Router) (packet : Frame) : Decidable (Transit s packet) :=
  decidable_of_iff (ValidIp packet ∧ findIfaceForIp s.ifList (ip32 packet 30) = none)
    ⟨fun ⟨h₁, h₂⟩ => ⟨h₁, h₂⟩, fun ⟨h₁, h₂⟩ => ⟨h₁, h₂⟩⟩

/-- An ICMP echo request with a correct checksum. -/
structure EchoRequest (packet : Frame) : Prop where
  proto : ipP (slice packet 14 20) = 1
  len : 14 + ipHdrLen packet + 8 ≤ packet.length
  type : u8 packet (14 + ipHdrLen packet) = 8
  sum : u16 packet (14 + ipHdrLen packet + 2) =
    cksum (slice (patch packet (14 + ipHdrLen packet + 2) (be16 0)) (14 + ipHdrLen packet)
      (packet.length - (14 + ipHdrLen packet)))

instance (packet : Frame) : Decidable (EchoRequest packet) :=
  decidable_of_iff (ipP (slice packet 14 20) = 1 ∧ 14 + ipHdrLen packet + 8 ≤ packet.length ∧
      u8 packet (14 + ipHdrLen packet) = 8 ∧
      u16 packet (14 + ipHdrLen packet + 2) =
        cksum (slice (patch packet (14 + ipHdrLen packet + 2) (be16 0)) (14 + ipHdrLen packet)
          (packet.length - (14 + ipHdrLen packet))))
    ⟨fun ⟨h₁, h₂, h₃, h₄⟩ => ⟨h₁, h₂, h₃, h₄⟩, fun ⟨h₁, h₂, h₃, h₄⟩ => ⟨h₁, h₂, h₃, h₄⟩⟩

/-- The checks of an IP frame before its checksum. -/
structure IpLengths (packet : Frame) : Prop where
  len : 34 ≤ packet.length
  hdrLen : 20 ≤ ipHdrLen packet
  hdr : 14 + ipHdrLen packet ≤ packet.length
  ipLen : ipHdrLen packet ≤ ipLen (slice packet 14 20)

/-- The test of the header checksum. -/
def IpTest (packet : Frame) : Prop :=
  ipSum (slice packet 14 20) = cksum (slice (patch packet 24 (be16 0)) 14 (ipHdrLen packet))

instance (packet : Frame) : Decidable (IpTest packet) := inferInstanceAs (Decidable (_ = _))

lemma validIp_iff : ValidIp packet ↔ IpLengths packet ∧ IpTest packet := by
  constructor
  · rintro ⟨h₁, h₂, h₃, h₄, h₅⟩
    exact ⟨⟨h₁, h₂, h₃, h₄⟩, h₅⟩
  · rintro ⟨⟨h₁, h₂, h₃, h₄⟩, h₅⟩
    exact ⟨h₁, h₂, h₃, h₄, h₅⟩

/-- An ICMP message that is taken for an echo request before its checksum is looked
at. -/
structure EchoShaped (packet : Frame) : Prop where
  proto : ipP (slice packet 14 20) = 1
  len : 14 + ipHdrLen packet + 8 ≤ packet.length
  type : u8 packet (14 + ipHdrLen packet) = 8

/-- The test of the ICMP checksum. -/
def IcmpTest (packet : Frame) : Prop :=
  u16 packet (14 + ipHdrLen packet + 2) =
    cksum (slice (patch packet (14 + ipHdrLen packet + 2) (be16 0)) (14 + ipHdrLen packet)
      (packet.length - (14 + ipHdrLen packet)))

instance (packet : Frame) : Decidable (IcmpTest packet) := inferInstanceAs (Decidable (_ = _))

lemma echoRequest_iff : EchoRequest packet ↔ EchoShaped packet ∧ IcmpTest packet := by
  constructor
  · rintro ⟨h₁, h₂, h₃, h₄⟩
    exact ⟨⟨h₁, h₂, h₃⟩, h₄⟩
  · rintro ⟨⟨h₁, h₂, h₃⟩, h₄⟩
    exact ⟨h₁, h₂, h₃, h₄⟩

/-- The frame that forwards `packet`. -/
def transitFrame (packet : Frame) : Frame := forwardFrame packet (ipHdrLen packet)

/-- What `handle_ip_packet` does with a frame. -/
inductive IpOutcome (handle : Router → ReqId → Except Fault Router) (s : Router) (packet : Frame)
    (interface : List UInt8) : Router → Prop
  /-- It is invalid, or for the router and not an echo request. -/
  | dropped {s' : Router} (hq : Quiet s s') (hno : ¬ Transit s packet) :
      IpOutcome handle s packet interface s'
  /-- It is an echo request. -/
  | echoed {s₁ s' : Router} {rc : ℤ} (hq : Quiet s s₁) (hv : ValidIp packet)
      (hus : findIfaceForIp s.ifList (ip32 packet 30) ≠ none) (hecho : EchoRequest packet)
      (hsend : routeAndSend handle s₁ (icmpEchoReply packet) = .ok (rc, s')) :
      IpOutcome handle s packet interface s'
  /-- Its TTL does not allow another hop. -/
  | expired {s₁ s' : Router} (hq : Quiet s s₁) (ht : Transit s packet) (httl : u8 packet 22 ≤ 1)
      (herr : sendIcmpError handle s₁ .arrival 11 0 packet (arrivalSource s interface) = .ok s') :
      IpOutcome handle s packet interface s'
  /-- It is forwarded. -/
  | forwarded {s₁ s' : Router} (hq : Quiet s s₁) (ht : Transit s packet)
      (httl : ¬ u8 packet 22 ≤ 1)
      (hsend : routeAndSend handle s₁ (transitFrame packet) = .ok (0, s')) :
      IpOutcome handle s packet interface s'
  /-- There is no route for it. -/
  | unroutable {s₁ s' : Router} (hq : Quiet s s₁) (ht : Transit s packet)
      (httl : ¬ u8 packet 22 ≤ 1) (hno : lookupRoute s (ip32 packet 30) = none)
      (herr : sendIcmpError handle s₁ .arrival 3 0 packet (arrivalSource s interface) = .ok s') :
      IpOutcome handle s packet interface s'

section Frames

variable (h : ValidIp packet)

include h

lemma length_transit_writes :
    (patch packet 22 [ipTtl (slice packet 14 20) - 1]).length = packet.length ∧
      (patch (patch packet 22 [ipTtl (slice packet 14 20) - 1]) 24 (be16 0)).length
        = packet.length := by
  have hl := h.len
  have h₁ : (patch packet 22 [ipTtl (slice packet 14 20) - 1]).length = packet.length :=
    length_patch (by simp; omega)
  exact ⟨h₁, (length_patch (by rw [h₁]; simp; omega)).trans h₁⟩

lemma length_transitFrame : (transitFrame packet).length = packet.length := by
  have hl := h.len
  obtain ⟨-, h₂⟩ := length_transit_writes h
  rw [transitFrame, forwardFrame, length_patch (by rw [h₂]; simp; omega), h₂]

/-- Forwarding does not change what follows the header checksum. -/
lemma ip32_transitFrame {i : ℕ} (hi : 26 ≤ i) : ip32 (transitFrame packet) i = ip32 packet i := by
  have hl := h.len
  obtain ⟨h₁, h₂⟩ := length_transit_writes h
  rw [transitFrame, forwardFrame,
    ip32_patch_of_disjoint (by rw [h₂]; simp; omega) (by simp; omega),
    ip32_patch_of_disjoint (by rw [h₁]; simp; omega) (by simp; omega),
    ip32_patch_of_disjoint (by simp; omega) (by simp; omega)]

lemma ip32_transitFrame_src : ip32 (transitFrame packet) 26 = ip32 packet 26 :=
  ip32_transitFrame h le_rfl

lemma ip32_transitFrame_dst : ip32 (transitFrame packet) 30 = ip32 packet 30 :=
  ip32_transitFrame h (by omega)

end Frames

/-- The checksum field is restored after the checksum has been computed. -/
lemma patch_restore {off : ℕ} (h : off + 2 ≤ packet.length) {v : ℕ} (hv : v = u16 packet off) :
    patch (patch packet off (be16 0)) off (be16 v) = packet := by
  rw [patch_patch_self (by simpa using h) (by simp), hv, be16_u16 h, patch_slice h]

/-- `rc` is negative exactly if there is no route. -/
lemma routeAndSend_rc {handle : Router → ReqId → Except Fault Router} {frame : Frame} {rc : ℤ}
    (hlen : 34 ≤ frame.length) (h : routeAndSend handle s frame = .ok (rc, s')) :
    (lookupRoute s (ip32 frame 30) = none ∧ rc = -1 ∧ s' = s.noteRead frame 14 20) ∨
      (lookupRoute s (ip32 frame 30) ≠ none ∧ rc = 0) := by
  cases hroute : lookupRoute s (ip32 frame 30) with
  | none =>
      rw [routeAndSend, routeAndQueue_of_no_route hlen hroute] at h
      simp only [Except.ok.injEq, Prod.mk.injEq] at h
      exact Or.inl ⟨rfl, h.1.symm, h.2.symm⟩
  | some p =>
      obtain ⟨s₁, nid, hq, -⟩ := routeAndQueue_of_route hlen hroute
      rw [routeAndSend, hq, bind_eq_ok] at h
      obtain ⟨s₂, -, h⟩ := h
      simp only [Except.ok.injEq, Prod.mk.injEq] at h
      exact Or.inr ⟨by simp, h.1.symm⟩

lemma u8_slice_ttl : ipTtl (slice packet 14 20) = u8 packet 22 := u8_slice (by omega)

lemma ipDst_slice : ipDst (slice packet 14 20) = ip32 packet 30 := ip32_slice (by omega)

lemma ipSum_slice : ipSum (slice packet 14 20) = u16 packet 24 := u16_slice (by omega)

section Outcome

variable {handle : Router → ReqId → Except Fault Router}

/-- The state once the header checksum has been computed. -/
def ipChecked (s : Router) (packet : Frame) : Router :=
  (s.noteRead packet 14 20).noteRead (patch packet 24 (be16 0)) 14 (ipHdrLen packet)

lemma quiet_ipChecked (s : Router) (h : IpLengths packet) : Quiet s (ipChecked s packet) := by
  have hlen := h.len
  have hhdr := h.hdr
  have hzero : (patch packet 24 (be16 0)).length = packet.length := length_patch (by simp; omega)
  exact (Quiet.noteRead s _ _ _ (by omega)).trans (.noteRead _ _ _ _ (by omega))

/-- What `handle_ip_packet` does once the checks are passed. -/
def handleIpValid (handle : Router → ReqId → Except Fault Router) (s : Router) (packet : Frame)
    (interface : List UInt8) : Except Fault (Router × Frame) :=
  match findIfaceForIp s.ifList (ip32 packet 30) with
  | some _ => handleIpForUs handle s packet (slice packet 14 20)
  | none => (handleIpTransit handle s packet interface (slice packet 14 20)).map fun s' => (s', packet)

/-- The test of the header checksum decides what happens to a frame of the right
lengths. -/
lemma handleIpPacket_eq (s : Router) (interface : List UInt8) (h : IpLengths packet) :
    handleIpPacket handle s packet interface =
      if IpTest packet then handleIpValid handle (ipChecked s packet) packet interface
      else .ok (ipChecked s packet, packet) := by
  obtain ⟨hlen, hhl, hhdr, hil⟩ := h
  have hpeek : s.peek packet 14 20 = slice packet 14 20 := s.peek_eq_slice (by omega)
  have hzero : (patch packet 24 (be16 0)).length = packet.length := length_patch (by simp; omega)
  simp only [handleIpPacket, if_neg (show ¬ packet.length < 14 + 20 by omega), Router.load, hpeek,
    ← ipHdrLen.eq_1, patch_restore (show 24 + 2 ≤ packet.length by omega) ipSum_slice,
    ipDst_slice, Router.noteRead_ifList]
  rw [if_neg (by omega), if_neg (by omega), if_neg (by omega),
    Router.peek_eq_slice _ (show 14 + ipHdrLen packet ≤ (patch packet 24 (be16 0)).length by omega)]
  by_cases hsum : ipSum (slice packet 14 20)
      = cksum (slice (patch packet 24 (be16 0)) 14 (ipHdrLen packet))
  · have htest : IpTest packet := hsum
    rw [if_neg (not_not.2 hsum), if_pos htest, handleIpValid, ipChecked, Router.noteRead_ifList,
      Router.noteRead_ifList]
    cases findIfaceForIp s.ifList (ip32 packet 30) with
    | some i => rfl
    | none =>
        simp only
        cases handleIpTransit handle
          ((s.noteRead packet 14 20).noteRead (patch packet 24 (be16 0)) 14 (ipHdrLen packet)) packet
          interface (slice packet 14 20) with
        | error f => rfl
        | ok s' => rfl
  · have htest : ¬ IpTest packet := hsum
    rw [if_pos hsum, if_neg htest]
    rfl

/-- An invalid frame is dropped. -/
lemma handleIpPacket_of_not_valid (s : Router) (interface : List UInt8) (hno : ¬ ValidIp packet) :
    ∃ s₁, Quiet s s₁ ∧ ∀ handle, handleIpPacket handle s packet interface = .ok (s₁, packet) := by
  by_cases hlens : IpLengths packet
  · refine ⟨ipChecked s packet, quiet_ipChecked s hlens, fun handle => ?_⟩
    rw [handleIpPacket_eq s interface hlens, if_neg fun htest => hno (validIp_iff.2 ⟨hlens, htest⟩)]
  by_cases hlen : packet.length < 34
  · exact ⟨s, .refl s, fun handle => by rw [handleIpPacket, if_pos hlen]⟩
  rw [not_lt] at hlen
  have hpeek : s.peek packet 14 20 = slice packet 14 20 := s.peek_eq_slice (by omega)
  refine ⟨s.noteRead packet 14 20, .noteRead s _ _ _ (by omega), fun handle => ?_⟩
  simp only [handleIpPacket, if_neg (show ¬ packet.length < 14 + 20 by omega), Router.load, hpeek,
    ← ipHdrLen.eq_1]
  by_cases hhl : ipHdrLen packet < 20
  · rw [if_pos hhl]
  by_cases hhdr : packet.length < 14 + ipHdrLen packet
  · rw [if_neg hhl, if_pos hhdr]
  by_cases hil : ipLen (slice packet 14 20) < ipHdrLen packet
  · rw [if_neg hhl, if_neg hhdr, if_pos hil]
  · exact absurd ⟨hlen, not_lt.1 hhl, not_lt.1 hhdr, not_lt.1 hil⟩ hlens

/-- A valid frame passes the checks. -/
lemma handleIpPacket_of_valid (s : Router) (interface : List UInt8) (hv : ValidIp packet) :
    handleIpPacket handle s packet interface
      = handleIpValid handle (ipChecked s packet) packet interface := by
  obtain ⟨hlens, htest⟩ := validIp_iff.1 hv
  rw [handleIpPacket_eq s interface hlens, if_pos htest]

/-- The state once the ICMP checksum has been computed. -/
def icmpChecked (s : Router) (packet : Frame) : Router :=
  (s.noteRead packet (14 + ipHdrLen packet) 8).noteRead
    (patch packet (14 + ipHdrLen packet + 2) (be16 0)) (14 + ipHdrLen packet)
    (packet.length - (14 + ipHdrLen packet))

lemma quiet_icmpChecked (s : Router) (h : EchoShaped packet) : Quiet s (icmpChecked s packet) := by
  have hlen := h.len
  have hzero : (patch packet (14 + ipHdrLen packet + 2) (be16 0)).length = packet.length :=
    length_patch (by simp; omega)
  exact (Quiet.noteRead s _ _ _ hlen).trans (.noteRead _ _ _ _ (by omega))

/-- The test of the ICMP checksum decides what happens to an echo request. -/
lemma handleIpForUs_eq (s : Router) (h : EchoShaped packet) :
    handleIpForUs handle s packet (slice packet 14 20) =
      if IcmpTest packet then
        (routeAndSend handle ((icmpChecked s packet).noteRead packet 0 packet.length)
          (icmpEchoReply packet)).map fun p => (p.2, packet)
      else .ok (icmpChecked s packet, packet) := by
  obtain ⟨hproto, hlen, htype⟩ := h
  have hzero : (patch packet (14 + ipHdrLen packet + 2) (be16 0)).length = packet.length :=
    length_patch (by simp; omega)
  simp only [handleIpForUs, Router.load, ← ipHdrLen.eq_1, if_pos hproto, if_neg (not_lt.2 hlen),
    s.peek_eq_slice hlen]
  rw [u8_slice (by omega), Nat.add_zero, if_pos htype, u16_slice (by omega),
    Router.peek_eq_slice _ (by rw [hzero]; omega), patch_restore (by omega) rfl]
  by_cases hsum : u16 packet (14 + ipHdrLen packet + 2) =
      cksum (slice (patch packet (14 + ipHdrLen packet + 2) (be16 0)) (14 + ipHdrLen packet)
        (packet.length - (14 + ipHdrLen packet)))
  · have htest : IcmpTest packet := hsum
    rw [if_neg (not_not.2 hsum), if_pos htest, ← icmpChecked.eq_1]
    cases routeAndSend handle ((icmpChecked s packet).noteRead packet 0 packet.length)
      (icmpEchoReply packet) with
    | error f => rfl
    | ok p => rfl
  · have htest : ¬ IcmpTest packet := hsum
    rw [if_pos hsum, if_neg htest, icmpChecked]

/-- A frame for the router that is not an echo request is dropped. -/
lemma handleIpForUs_of_not_echo (s : Router) (hno : ¬ EchoRequest packet) :
    ∃ s₁, Quiet s s₁ ∧ ∀ handle,
      handleIpForUs handle s packet (slice packet 14 20) = .ok (s₁, packet) := by
  by_cases hshape : EchoShaped packet
  · refine ⟨icmpChecked s packet, quiet_icmpChecked s hshape, fun handle => ?_⟩
    rw [handleIpForUs_eq s hshape, if_neg fun h => hno (echoRequest_iff.2 ⟨hshape, h⟩)]
  by_cases hproto : ipP (slice packet 14 20) = 1
  swap
  · exact ⟨s, .refl s, fun handle => by rw [handleIpForUs, if_neg hproto]⟩
  by_cases hlen : packet.length < 14 + ipHdrLen packet + 8
  · refine ⟨s, .refl s, fun handle => ?_⟩
    simp only [handleIpForUs, ← ipHdrLen.eq_1, if_pos hproto, if_pos hlen]
  rw [not_lt] at hlen
  have htype : u8 packet (14 + ipHdrLen packet) ≠ 8 := fun h => hshape ⟨hproto, hlen, h⟩
  refine ⟨s.noteRead packet (14 + ipHdrLen packet) 8, .noteRead s _ _ _ hlen, fun handle => ?_⟩
  simp only [handleIpForUs, Router.load, ← ipHdrLen.eq_1, if_pos hproto, if_neg (not_lt.2 hlen),
    s.peek_eq_slice hlen]
  rw [u8_slice (by omega), Nat.add_zero, if_neg htype]

/-- An echo request is answered. -/
lemma handleIpForUs_of_echo (s : Router) (hecho : EchoRequest packet) :
    handleIpForUs handle s packet (slice packet 14 20) =
      (routeAndSend handle ((icmpChecked s packet).noteRead packet 0 packet.length)
        (icmpEchoReply packet)).map fun p => (p.2, packet) := by
  obtain ⟨hshape, htest⟩ := echoRequest_iff.1 hecho
  rw [handleIpForUs_eq s hshape, if_pos htest]

lemma map_map_eq {α β γ : Type} (x : Except Fault α) (f : α → β) (g : β → γ) :
    (x.map f).map g = x.map fun a => g (f a) := by
  cases x with
  | error e => rfl
  | ok a => rfl

lemma handleIpForUs_outcome (hv : ValidIp packet)
    (hus : findIfaceForIp s.ifList (ip32 packet 30) ≠ none) (hq : Quiet s s₁)
    (h : handleIpForUs handle s₁ packet (slice packet 14 20) = .ok (s', buf)) :
    IpOutcome handle s packet interface s' ∧ buf = packet := by
  by_cases hecho : EchoRequest packet
  · have hq₂ : Quiet s₁ ((icmpChecked s₁ packet).noteRead packet 0 packet.length) :=
      (quiet_icmpChecked s₁ (echoRequest_iff.1 hecho).1).trans (.noteRead _ _ _ _ (by omega))
    rw [handleIpForUs_of_echo s₁ hecho, map_eq_ok] at h
    obtain ⟨⟨rc, s₃⟩, hsend, h⟩ := h
    rw [Prod.mk.injEq] at h
    obtain ⟨rfl, rfl⟩ := h
    exact ⟨.echoed (hq.trans hq₂) hv hus hecho hsend, rfl⟩
  · obtain ⟨s₂, hq₂, heq⟩ := handleIpForUs_of_not_echo s₁ hecho
    rw [heq, Except.ok.injEq, Prod.mk.injEq] at h
    obtain ⟨rfl, rfl⟩ := h
    exact ⟨.dropped (hq.trans hq₂) fun ht => hus ht.notForUs, rfl⟩

lemma handleIpTransit_outcome (ht : Transit s packet) (hq : Quiet s s₁)
    (h : handleIpTransit handle s₁ packet interface (slice packet 14 20) = .ok s') :
    IpOutcome handle s packet interface s' := by
  have hsrc : ∀ {t}, Quiet s t → arrivalSource t interface = arrivalSource s interface := by
    intro t hqt
    rw [arrivalSource, arrivalSource, hqt.sameEnv.ifList]
  have hq₁ : Quiet s (s₁.noteRead packet 0 packet.length) := hq.trans (.noteRead _ _ _ _ (by omega))
  have hlen : 34 ≤ (transitFrame packet).length := by
    rw [length_transitFrame ht.valid]
    exact ht.valid.len
  simp only [handleIpTransit, ← ipHdrLen.eq_1, ← transitFrame.eq_1, u8_slice_ttl] at h
  split_ifs at h with httl
  · rw [hsrc hq] at h
    exact .expired hq ht httl h
  · rw [bind_eq_ok] at h
    obtain ⟨⟨rc, s₂⟩, hsend, h⟩ := h
    rcases routeAndSend_rc hlen hsend with ⟨hroute, rfl, rfl⟩ | ⟨-, rfl⟩
    · rw [ip32_transitFrame_dst ht.valid, hq₁.sameEnv.lookupRoute] at hroute
      have hq₂ := hq₁.trans (.noteRead _ (transitFrame packet) 14 20 hlen)
      rw [if_pos (show (-1 : ℤ) < 0 by decide), hsrc hq₂] at h
      exact .unroutable hq₂ ht httl hroute h
    · rw [if_neg (show ¬ (0 : ℤ) < 0 by decide), Except.ok.injEq] at h
      subst h
      exact .forwarded hq₁ ht httl hsend

/-- The decision of `handle_ip_packet`, and that it gives the lent buffer back
unchanged. -/
theorem handleIpPacket_outcome (h : handleIpPacket handle s packet interface = .ok (s', buf)) :
    IpOutcome handle s packet interface s' ∧ buf = packet := by
  by_cases hv : ValidIp packet
  · have hq := quiet_ipChecked s (validIp_iff.1 hv).1
    rw [handleIpPacket_of_valid s interface hv, handleIpValid, hq.sameEnv.ifList] at h
    cases hus : findIfaceForIp s.ifList (ip32 packet 30) with
    | some i =>
        rw [hus] at h
        exact handleIpForUs_outcome hv (by simp [hus]) hq h
    | none =>
        simp only [hus, map_eq_ok, Prod.mk.injEq] at h
        obtain ⟨s₂, htransit, rfl, rfl⟩ := h
        exact ⟨handleIpTransit_outcome ⟨hv, hus⟩ hq htransit, rfl⟩
  · obtain ⟨s₁, hq, heq⟩ := handleIpPacket_of_not_valid s interface hv
    rw [heq, Except.ok.injEq, Prod.mk.injEq] at h
    obtain ⟨rfl, rfl⟩ := h
    exact ⟨.dropped hq fun ht => hv ht.valid, rfl⟩

lemma Quiet.transit (hq : Quiet s s₁) : Transit s₁ packet ↔ Transit s packet := by
  constructor
  · rintro ⟨hv, hus⟩
    exact ⟨hv, by rw [← hq.sameEnv.ifList]; exact hus⟩
  · rintro ⟨hv, hus⟩
    exact ⟨hv, by rw [hq.sameEnv.ifList]; exact hus⟩

lemma IpOutcome.of_quiet (hq : Quiet s s₁) (h : IpOutcome handle s₁ packet interface s') :
    IpOutcome handle s packet interface s' := by
  have hsrc : arrivalSource s₁ interface = arrivalSource s interface := by
    rw [arrivalSource, arrivalSource, hq.sameEnv.ifList]
  cases h with
  | dropped hq' hno => exact .dropped (hq.trans hq') (hq.transit.not.1 hno)
  | echoed hq' hv hus hecho hsend =>
      exact .echoed (hq.trans hq') hv (by rw [← hq.sameEnv.ifList]; exact hus) hecho hsend
  | expired hq' ht httl herr =>
      exact .expired (hq.trans hq') (hq.transit.1 ht) httl (hsrc ▸ herr)
  | forwarded hq' ht httl hsend => exact .forwarded (hq.trans hq') (hq.transit.1 ht) httl hsend
  | unroutable hq' ht httl hno herr =>
      exact .unroutable (hq.trans hq') (hq.transit.1 ht) httl
        (by rw [← hq.sameEnv.lookupRoute]; exact hno) (hsrc ▸ herr)

end Outcome

/-! ### ARP frames -/

/-- A frame that `handle_arp_packet` takes for an ARP reply. -/
structure ArpReply (s : Router) (packet : Frame) (interface : List UInt8) : Prop where
  len : 42 ≤ packet.length
  hrd : arHrd (slice packet 14 28) = 1
  pro : arPro (slice packet 14 28) = ethertypeIp
  op : arOp (slice packet 14 28) = 2
  iface : srGetInterface s.ifList interface ≠ none

/-- A frame that `handle_arp_packet` takes for an ARP request for the address of `i`, the
interface that it comes in on. -/
structure ArpRequestFor (s : Router) (packet : Frame) (interface : List UInt8) (i : SrIf) :
    Prop where
  len : 42 ≤ packet.length
  hrd : arHrd (slice packet 14 28) = 1
  pro : arPro (slice packet 14 28) = ethertypeIp
  op : arOp (slice packet 14 28) = 1
  tip : arTip (slice packet 14 28) = i.ip
  iface : srGetInterface s.ifList interface = some i

/-- The mapping of an ARP reply is entered into the cache. -/
def learn (s : Router) (mac : Mac) (ip : Ip) : Router :=
  { s with entries := insertEntry ⟨mac, ip, s.now, true⟩ s.entries }

/-- The frame the drain sends for a packet. -/
def drainFrame (ifs : List SrIf) (sha : Mac) (pkt : SrPacket) : Frame :=
  patch (match srGetInterface ifs pkt.iface with
    | none => pkt.buf
    | some outIface => patch pkt.buf 6 outIface.addr.bytes) 0 sha.bytes

/-- The observation the drain makes for a packet. -/
def drainObs (s : Router) (sha : Mac) (sip : Ip) (pkt : SrPacket) : ℕ × Obs :=
  (s.now, .sent (.drain pkt.fid sip) pkt.iface (drainFrame s.ifList sha pkt)
    (sendVerdict s.ifList (drainFrame s.ifList sha pkt) pkt.iface))

/-- What `handle_arp_packet` does with a frame. -/
inductive ArpOutcome (s : Router) (packet : Frame) (interface : List UInt8) : Router → Prop
  /-- It is malformed or a request for another address. -/
  | ignored {s' : Router} (hq : Quiet s s') (hno : ¬ ArpReply s packet interface) :
      ArpOutcome s packet interface s'
  /-- It is a request for the address of the interface. -/
  | answered {s₁ : Router} {i : SrIf} (hq : Quiet s s₁) (hno : ¬ ArpReply s packet interface)
      (hr : ArpRequestFor s packet interface i) :
      ArpOutcome s packet interface (sendArpReply s₁ (slice packet 14 28) i)
  /-- It is a reply nobody waits for. -/
  | learned {s₁ : Router} (hq : Quiet s s₁) (hr : ArpReply s packet interface)
      (hnone : ∀ r ∈ s.requests, r.ip ≠ arSip (slice packet 14 28)) :
      ArpOutcome s packet interface
        (learn s₁ (arSha (slice packet 14 28)) (arSip (slice packet 14 28)))
  /-- It is a reply a request waits for. -/
  | drained {s₁ s' : Router} {req : SrArpreq} (hq : Quiet s s₁) (hr : ArpReply s packet interface)
      (hf : s.findReq req.id = some req) (hip : req.ip = arSip (slice packet 14 28))
      (hcore : s'.core = (srArpreqDestroy
        (learn s₁ (arSha (slice packet 14 28)) (arSip (slice packet 14 28))) req.id).core)
      (htrace : s'.trace = s.trace ++ (req.packets.filter fun p => 14 ≤ p.buf.length).map
        (drainObs s (arSha (slice packet 14 28)) (arSip (slice packet 14 28))))
      (hreads : ∀ r ∈ s'.reads, r ∈ s.reads ∨ r.InBounds) :
      ArpOutcome s packet interface s'

lemma drainPackets_cons (sha : Mac) (sip : Ip) (pkt : SrPacket) (rest : List SrPacket)
    (s : Router) :
    drainPackets sha sip (pkt :: rest) s =
      if pkt.buf.length < 14 then drainPackets sha sip rest s
      else drainPackets sha sip rest
        (srSendPacket s (.drain pkt.fid sip) (drainFrame s.ifList sha pkt) pkt.iface) :=
  rfl

/-- The drain sends the packets one after the other and changes nothing else. -/
lemma drainPackets_spec (sha : Mac) (sip : Ip) (pkts : List SrPacket) (s : Router) :
    (drainPackets sha sip pkts s).core = s.core ∧
      (drainPackets sha sip pkts s).trace = s.trace ++
        (pkts.filter fun p => 14 ≤ p.buf.length).map (drainObs s sha sip) ∧
      ∀ r ∈ (drainPackets sha sip pkts s).reads, r ∈ s.reads ∨ r.InBounds := by
  induction pkts generalizing s with
  | nil => exact ⟨rfl, by simp [drainPackets], fun r hr => Or.inl hr⟩
  | cons pkt rest ih =>
      rw [drainPackets_cons]
      by_cases hl : pkt.buf.length < 14
      · rw [if_pos hl, List.filter_cons_of_neg (by simpa using hl)]
        exact ih s
      · rw [if_neg hl, List.filter_cons_of_pos (by simpa using hl), List.map_cons]
        set t := srSendPacket s (.drain pkt.fid sip) (drainFrame s.ifList sha pkt) pkt.iface with ht
        have hcore : t.core = s.core := srSendPacket_core _ _ _ _
        obtain ⟨h₁, h₂, h₃⟩ := ih t
        refine ⟨h₁.trans hcore, ?_, ?_⟩
        · have hobs : drainObs t sha sip = drainObs s sha sip := by
            funext p
            rw [drainObs, drainObs, now_of_core hcore, ifList_of_core hcore]
          rw [h₂, hobs, ht, srSendPacket_trace, List.append_assoc]
          rfl
        · intro r hr
          rcases h₃ r hr with hr | hr
          · exact srSendPacket_reads _ _ _ _ r hr
          · exact Or.inr hr

lemma core_srArpreqDestroy (s : Router) (id : ReqId) :
    (srArpreqDestroy s id).core = srArpreqDestroy s.core id :=
  rfl

lemma srArpcacheInsert_of_none {mac : Mac} {ip : Ip} (h : ∀ r ∈ s.requests, r.ip ≠ ip) :
    srArpcacheInsert s mac ip = (none, learn s mac ip) := by
  have hfind : s.requests.find? (fun r => r.ip = ip) = none := KeyedList.find?_eq_none_iff.2 h
  have herase : s.requests.eraseP (fun r => r.ip = ip) = s.requests :=
    List.eraseP_of_forall_not (by simpa using h)
  rw [srArpcacheInsert, hfind, herase]
  rfl

/-- Taking the request off the queue first makes no difference once it is
destroyed. -/
lemma srArpcacheInsert_of_mem (mac : Mac) {req : SrArpreq} (hw : WF s) (hreq : req ∈ s.requests) :
    (srArpcacheInsert s mac req.ip).1 = some req ∧
      srArpreqDestroy (srArpcacheInsert s mac req.ip).2 req.id =
        srArpreqDestroy (learn s mac req.ip) req.id := by
  refine ⟨hw.find_ip_iff.2 ⟨hreq, rfl⟩, ?_⟩
  have hfilter : (s.requests.eraseP fun r => r.ip = req.ip).filter (fun r => r.id ≠ req.id)
      = s.requests.filter fun r => r.id ≠ req.id := by
    refine KeyedList.filter_eraseP ?_
    intro r hr hip
    rw [hw.eq_of_ip_eq hr hreq (by simpa using hip)]
    simp
  rw [srArpcacheInsert, srArpreqDestroy, srArpreqDestroy]
  simp only [hfilter]
  rfl

/-- `handle_arp_packet` behind the checks, for a header `arp` that came in on `i`. -/
def handleArpValid (s : Router) (arp : List UInt8) (i : SrIf) : Router :=
  if arOp arp = 1 then
    if arTip arp = i.ip then sendArpReply s arp i else s
  else if arOp arp = 2 then
    match srArpcacheInsert s (arSha arp) (arSip arp) with
    | (none, s) => s
    | (some req, s) =>
        srArpreqDestroy (drainPackets (arSha arp) (arSip arp) req.packets s) req.id
  else s

/-- `handle_arp_packet` on a frame with room for an ARP header. -/
lemma handleArpPacket_eq (s : Router) (interface : List UInt8) (hlen : 42 ≤ packet.length) :
    handleArpPacket s packet interface =
      if arHrd (slice packet 14 28) ≠ 1 ∨ arPro (slice packet 14 28) ≠ ethertypeIp then
        s.noteRead packet 14 28
      else
        match srGetInterface s.ifList interface with
        | none => s.noteRead packet 14 28
        | some i => handleArpValid (s.noteRead packet 14 28) (slice packet 14 28) i := by
  have hpeek : s.peek packet 14 28 = slice packet 14 28 := s.peek_eq_slice hlen
  simp only [handleArpPacket, if_neg (show ¬ packet.length < 14 + 28 by omega), Router.load, hpeek]
  rfl

/-- The decision of `handle_arp_packet`. -/
theorem handleArpPacket_outcome (hw : WF s) :
    ArpOutcome s packet interface (handleArpPacket s packet interface) := by
  by_cases hlen : packet.length < 42
  · rw [handleArpPacket, if_pos hlen]
    exact .ignored (.refl s) fun hr => absurd hr.len (by omega)
  rw [not_lt] at hlen
  have hq : Quiet s (s.noteRead packet 14 28) := .noteRead s _ _ _ hlen
  rw [handleArpPacket_eq s interface hlen]
  by_cases hbad : arHrd (slice packet 14 28) ≠ 1 ∨ arPro (slice packet 14 28) ≠ ethertypeIp
  · rw [if_pos hbad]
    exact .ignored hq fun hr => hbad.elim (fun h => h hr.hrd) fun h => h hr.pro
  rw [if_neg hbad]
  rw [not_or, not_not, not_not] at hbad
  cases hi : srGetInterface s.ifList interface with
  | none => exact .ignored hq fun hr => hr.iface hi
  | some i =>
      simp only [handleArpValid]
      by_cases hop₁ : arOp (slice packet 14 28) = 1
      · have hno : ¬ ArpReply s packet interface := fun hr => absurd (hop₁.symm.trans hr.op) (by simp)
        simp only [hop₁, if_true]
        split_ifs with htip
        · exact .answered hq hno ⟨hlen, hbad.1, hbad.2, hop₁, htip, hi⟩
        · exact .ignored hq hno
      · simp only [hop₁, if_false]
        by_cases hop₂ : arOp (slice packet 14 28) = 2
        · have hr : ArpReply s packet interface :=
            ⟨hlen, hbad.1, hbad.2, hop₂, by simp [hi]⟩
          rw [if_pos hop₂]
          -- whether a request is waiting for the sender of the reply
          by_cases hnone : ∀ r ∈ s.requests, r.ip ≠ arSip (slice packet 14 28)
          · rw [srArpcacheInsert_of_none (s := s.noteRead packet 14 28) hnone]
            exact .learned hq hr hnone
          · push Not at hnone
            obtain ⟨req, hreq, hip⟩ := hnone
            obtain ⟨hfind, hdestroy⟩ := srArpcacheInsert_of_mem (arSha (slice packet 14 28))
              (hw.noteRead packet 14 28) hreq
            rw [hip] at hfind hdestroy
            obtain ⟨hcore, htrace, hreads⟩ := drainPackets_spec (arSha (slice packet 14 28))
              (arSip (slice packet 14 28)) req.packets (srArpcacheInsert (s.noteRead packet 14 28)
                (arSha (slice packet 14 28)) (arSip (slice packet 14 28))).2
            rw [← Prod.mk.eta (p := srArpcacheInsert _ _ _), hfind]
            refine .drained hq hr (hw.findReq_of_mem hreq) hip ?_ htrace ?_
            · rw [core_srArpreqDestroy, hcore, ← core_srArpreqDestroy, hdestroy]
            · intro r hr
              rcases hreads r hr with hr | hr
              · exact hq.reads r hr
              · exact Or.inr hr
        · rw [if_neg hop₂]
          exact .ignored hq fun hr => hop₂ hr.op

/-- `sr_handlepacket` on a frame with room for an Ethernet header. -/
lemma srHandlepacket_eq (fuel : ℕ) (s : Router) (interface : List UInt8)
    (hlen : 14 ≤ packet.length) :
    srHandlepacket fuel s packet interface =
      if ethertype packet = ethertypeArp then
        .ok (handleArpPacket (s.noteRead packet 0 14) packet interface, packet)
      else if ethertype packet = ethertypeIp then
        handleIpPacket (handleArpreq fuel) (s.noteRead packet 0 14) packet interface
      else .ok (s.noteRead packet 0 14, packet) := by
  have hpeek : s.peek packet 0 14 = slice packet 0 14 := s.peek_eq_slice (by omega)
  have htype : ethertype (slice packet 0 14) = ethertype packet := by
    rw [ethertype, ethertype, u16_slice (by omega)]
  simp only [srHandlepacket, if_neg (show ¬ packet.length < 14 by omega), Router.load, hpeek, htype]

lemma srHandlepacket_of_ip (fuel : ℕ) (s : Router) (interface : List UInt8)
    (hlen : 14 ≤ packet.length) (hip : ethertype packet = ethertypeIp) :
    srHandlepacket fuel s packet interface =
      handleIpPacket (handleArpreq fuel) (s.noteRead packet 0 14) packet interface := by
  rw [srHandlepacket_eq fuel s interface hlen, if_neg (ethertype_ne_arp hip), if_pos hip]

/-- What `sr_handlepacket` does with a frame. -/
inductive Outcome (handle : Router → ReqId → Except Fault Router) (s : Router) (packet : Frame)
    (interface : List UInt8) : Router → Prop
  | ignored {s' : Router} (hq : Quiet s s')
      (hno : packet.length < 14 ∨ ethertype packet ≠ ethertypeArp ∧ ethertype packet ≠ ethertypeIp) :
      Outcome handle s packet interface s'
  | arp {s₁ s' : Router} (htype : ethertype packet = ethertypeArp) (hq : Quiet s s₁)
      (h : ArpOutcome s₁ packet interface s') : Outcome handle s packet interface s'
  | ip {s' : Router} (htype : ethertype packet = ethertypeIp)
      (h : IpOutcome handle s packet interface s') : Outcome handle s packet interface s'

/-- The decision of `sr_handlepacket`, and that it gives the lent buffer back
unchanged. -/
theorem srHandlepacket_outcome {fuel : ℕ} (hw : WF s)
    (h : srHandlepacket fuel s packet interface = .ok (s', buf)) :
    Outcome (handleArpreq fuel) s packet interface s' ∧ buf = packet := by
  by_cases hlen : packet.length < 14
  · rw [srHandlepacket, if_pos hlen, Except.ok.injEq, Prod.mk.injEq] at h
    obtain ⟨rfl, rfl⟩ := h
    exact ⟨.ignored (.refl s) (Or.inl hlen), rfl⟩
  rw [not_lt] at hlen
  have hq : Quiet s (s.noteRead packet 0 14) := .noteRead s _ _ _ (by omega)
  rw [srHandlepacket_eq fuel s interface hlen] at h
  split_ifs at h with harp hip
  · rw [Except.ok.injEq, Prod.mk.injEq] at h
    obtain ⟨rfl, rfl⟩ := h
    exact ⟨.arp harp hq (handleArpPacket_outcome (hq.wf hw)), rfl⟩
  · obtain ⟨hout, rfl⟩ := handleIpPacket_outcome h
    exact ⟨.ip hip (hout.of_quiet hq), rfl⟩
  · rw [Except.ok.injEq, Prod.mk.injEq] at h
    obtain ⟨rfl, rfl⟩ := h
    exact ⟨.ignored hq (Or.inr ⟨harp, hip⟩), rfl⟩

end SimpleRouter
