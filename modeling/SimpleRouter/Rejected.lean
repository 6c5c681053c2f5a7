/-
Rejected frames leave no trace.

`sr_handlepacket` and the two handlers below it return early in many places.
`Rejected` lists the reasons, and the proofs follow the handlers: a reason that is
checked late presupposes that the earlier checks were passed, or else the frame was
rejected before.  The checksum fields that are zeroed in the lent buffer while a
checksum is computed are restored before the comparison, so that the buffer is given
back as it was whatever the outcome.
-/
import SimpleRouter.Receive

namespace SimpleRouter

open Bytes CString

variable {s s' : Router} {packet buf : Frame} {interface : List UInt8}

/-! ### Reasons -/

/-- Why an ARP packet is rejected. -/
inductive ArpRejected (s : Router) (packet : Frame) (interface : List UInt8) : Prop
  /-- There is no room for an ARP header. -/
  | short (h : packet.length < 42)
  /-- The hardware type is wrong. -/
  | hardware (h : arHrd (slice packet 14 28) ≠ 1)
  /-- The protocol type is wrong. -/
  | protocol (h : arPro (slice packet 14 28) ≠ ethertypeIp)
  /-- The opcode is unknown. -/
  | opcode (h : arOp (slice packet 14 28) ≠ 1) (h' : arOp (slice packet 14 28) ≠ 2)
  /-- The receiving interface is unknown. -/
  | iface (h : srGetInterface s.ifList interface = none)
  /-- It is a request for another address. -/
  | target {i : SrIf} (hi : srGetInterface s.ifList interface = some i)
      (hop : arOp (slice packet 14 28) = 1) (h : arTip (slice packet 14 28) ≠ i.ip)

/-- Why an IP packet is rejected. -/
inductive IpRejected (s : Router) (packet : Frame) : Prop
  /-- There is no room for an IP header. -/
  | short (h : packet.length < 34)
  /-- The header length is less than that of a header. -/
  | hl (h : ipHl (slice packet 14 20) < 5)
  /-- There is no room for a header of this length. -/
  | shortHdr (h : packet.length < 14 + ipHl (slice packet 14 20) * 4)
  /-- The datagram is shorter than its header. -/
  | len (h : ipLen (slice packet 14 20) < ipHl (slice packet 14 20) * 4)
  /-- The header checksum is not the one that is computed. -/
  | sum (h : ipSum (slice packet 14 20)
      ≠ cksum (slice (patch packet 24 (be16 0)) 14 (ipHl (slice packet 14 20) * 4)))
  /-- It is addressed to the router and not an echo request, or one whose checksum is
  not the one that is computed. -/
  | notEcho (hus : findIfaceForIp s.ifList (ip32 packet 30) ≠ none) (h : ¬ EchoRequest packet)

/-- Why a frame is rejected. -/
inductive Rejected (s : Router) (packet : Frame) (interface : List UInt8) : Prop
  /-- There is no room for an Ethernet header. -/
  | short (h : packet.length < 14)
  /-- The frame carries neither ARP nor IP. -/
  | other (harp : ethertype packet ≠ ethertypeArp) (hip : ethertype packet ≠ ethertypeIp)
  | arp (htype : ethertype packet = ethertypeArp) (h : ArpRejected s packet interface)
  | ip (htype : ethertype packet = ethertypeIp) (h : IpRejected s packet)

/-! ### The handlers -/

/-- A rejected ARP packet is only looked at. -/
lemma ArpRejected.quiet (h : ArpRejected s packet interface) :
    Quiet s (handleArpPacket s packet interface) := by
  by_cases hlen : packet.length < 42
  · rw [handleArpPacket, if_pos hlen]
    exact .refl s
  rw [not_lt] at hlen
  have hq : Quiet s (s.noteRead packet 14 28) := .noteRead s _ _ _ hlen
  rw [handleArpPacket_eq s interface hlen]
  by_cases hbad : arHrd (slice packet 14 28) ≠ 1 ∨ arPro (slice packet 14 28) ≠ ethertypeIp
  · rw [if_pos hbad]
    exact hq
  rw [if_neg hbad]
  rw [not_or] at hbad
  cases h with
  | short h => omega
  | hardware h => exact absurd h hbad.1
  | protocol h => exact absurd h hbad.2
  | iface h =>
      rw [h]
      exact hq
  | opcode h h' =>
      cases srGetInterface s.ifList interface with
      | none => exact hq
      | some i =>
          simp only [handleArpValid, if_neg h, if_neg h']
          exact hq
  | target hi hop h =>
      simp only [hi, handleArpValid, if_pos hop, if_neg h]
      exact hq

/-- A rejected IP packet is only looked at, and the call returns. -/
lemma IpRejected.quiet (h : IpRejected s packet) (interface : List UInt8) :
    ∃ s', Quiet s s' ∧ ∀ handle, handleIpPacket handle s packet interface = .ok (s', packet) := by
  by_cases hv : ValidIp packet
  · -- a valid packet can only be rejected for what it carries
    have hecho : findIfaceForIp s.ifList (ip32 packet 30) ≠ none ∧ ¬ EchoRequest packet := by
      obtain ⟨hlen, hhl, hhdr, hil, hsum⟩ := hv
      rw [ipHdrLen] at hhl hhdr hil hsum
      cases h with
      | short h => omega
      | hl h => omega
      | shortHdr h => omega
      | len h => omega
      | sum h => exact absurd hsum h
      | notEcho hus h => exact ⟨hus, h⟩
    have hq := quiet_ipChecked s (validIp_iff.1 hv).1
    obtain ⟨s₁, hq₁, heq⟩ := handleIpForUs_of_not_echo (ipChecked s packet) hecho.2
    refine ⟨s₁, hq.trans hq₁, fun handle => ?_⟩
    rw [handleIpPacket_of_valid s interface hv, handleIpValid, hq.sameEnv.ifList]
    cases hus : findIfaceForIp s.ifList (ip32 packet 30) with
    | none => exact absurd hus hecho.1
    | some i => exact heq handle
  · exact handleIpPacket_of_not_valid s interface hv

/-- A rejected frame is only looked at, and the call returns. -/
lemma Rejected.quiet (h : Rejected s packet interface) :
    ∃ s', Quiet s s' ∧ ∀ fuel, srHandlepacket fuel s packet interface = .ok (s', packet) := by
  by_cases hlen : packet.length < 14
  · exact ⟨s, .refl s, fun fuel => by rw [srHandlepacket, if_pos hlen]⟩
  rw [not_lt] at hlen
  have hq : Quiet s (s.noteRead packet 0 14) := .noteRead s _ _ _ (by omega)
  cases h with
  | short h => omega
  | other harp hip =>
      exact ⟨_, hq, fun fuel => by rw [srHandlepacket_eq fuel s interface hlen, if_neg harp,
        if_neg hip]⟩
  | arp harp h =>
      -- the reasons do not depend on the bytes that were looked at
      have h' : ArpRejected (s.noteRead packet 0 14) packet interface := by
        cases h with
        | short h => exact .short h
        | hardware h => exact .hardware h
        | protocol h => exact .protocol h
        | opcode h h' => exact .opcode h h'
        | iface h => exact .iface h
        | target hi hop h => exact .target hi hop h
      exact ⟨_, hq.trans h'.quiet, fun fuel => by rw [srHandlepacket_eq fuel s interface hlen,
        if_pos harp]⟩
  | ip hip h =>
      have h' : IpRejected (s.noteRead packet 0 14) packet := by
        cases h with
        | short h => exact .short h
        | hl h => exact .hl h
        | shortHdr h => exact .shortHdr h
        | len h => exact .len h
        | sum h => exact .sum h
        | notEcho hus h => exact .notEcho hus h
      obtain ⟨s', hq', heq⟩ := h'.quiet interface
      refine ⟨s', hq.trans hq', fun fuel => ?_⟩
      rw [srHandlepacket_of_ip fuel s interface hlen hip, heq]

/-- Whatever the frame is, the lent buffer holds it again on return. -/
lemma srHandlepacket_buf {fuel : ℕ} (h : srHandlepacket fuel s packet interface = .ok (s', buf)) :
    buf = packet := by
  by_cases hlen : packet.length < 14
  · rw [srHandlepacket, if_pos hlen, Except.ok.injEq, Prod.mk.injEq] at h
    exact h.2.symm
  · rw [srHandlepacket_eq fuel s interface (not_lt.1 hlen)] at h
    split_ifs at h
    · rw [Except.ok.injEq, Prod.mk.injEq] at h
      exact h.2.symm
    · exact (handleIpPacket_outcome h).2
    · rw [Except.ok.injEq, Prod.mk.injEq] at h
      exact h.2.symm

/-- A rejected frame changes neither the pending requests nor the cache, and nothing is
sent; and every frame, rejected or not, is given back unchanged. -/
theorem rejected_frame_no_trace (s : Router) (packet : Frame) (interface : List UInt8) :
    (Rejected s packet interface →
      ∃ s', (∀ fuel, srHandlepacket fuel s packet interface = .ok (s', packet)) ∧
        s'.trace = s.trace ∧ s'.requests = s.requests ∧ s'.entries = s.entries) ∧
    ∀ fuel s' buf, srHandlepacket fuel s packet interface = .ok (s', buf) → buf = packet := by
  constructor
  · intro h
    obtain ⟨s', hq, hret⟩ := h.quiet
    exact ⟨s', hret, hq.trace, requests_of_core hq.core, entries_of_core hq.core⟩
  · intro fuel s' buf h
    exact srHandlepacket_buf h

/-- A datagram to the router that is no ICMP message. -/
theorem rejected_frame_no_trace_sample :
    ∃ s', srHandlepacket 3 sampleRouter (sampleFrame (sampleIp 0 2) (sampleIp 0 1) 64 7)
        (sampleName 0) = .ok (s', sampleFrame (sampleIp 0 2) (sampleIp 0 1) 64 7) ∧
      s'.trace = [] ∧ s'.requests = [] ∧ s'.entries = emptyEntries := by
  have hrej : Rejected sampleRouter (sampleFrame (sampleIp 0 2) (sampleIp 0 1) 64 7)
      (sampleName 0) := by
    refine .ip (by decide +kernel) (.notEcho (by decide +kernel) ?_)
    intro h
    exact absurd h.len (by decide +kernel)
  obtain ⟨s', hret, htrace, hreq, hent⟩ := (rejected_frame_no_trace sampleRouter
    (sampleFrame (sampleIp 0 2) (sampleIp 0 1) 64 7) (sampleName 0)).1 hrej
  exact ⟨s', hret 3, htrace, hreq, hent⟩

end SimpleRouter
