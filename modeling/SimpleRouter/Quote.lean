/-
What an ICMP error quotes.

`send_icmp_error` copies `ICMP_DATA_SIZE` bytes of the datagram it reports, which is the
header and 8 bytes behind it if the header has no options.  The checks of
`handle_ip_packet` admit headers of up to 60 bytes, and the quotation of such a datagram
ends before its payload begins, or in the middle of its options.
-/
import SimpleRouter.IcmpErrors

namespace SimpleRouter

open Bytes CString

variable {s t : Router} {packet err : Frame} {interface : List UInt8} {cause : Cause}
  {type code : UInt8} {src : Ip}

/-- The frame that `send_icmp_error` passes to `route_and_send`, if it gets that far. -/
def builtError (s : Router) (cause : Cause) (type code : UInt8) (orig : Frame) (srcIp : Ip) :
    Option Frame :=
  if orig.length < 34 ∨ errorSource s srcIp (ip32 orig 26) = 0 then none
  else
    some (icmpErrorFrame type code (errorSource s srcIp (ip32 orig 26)) (ip32 orig 26)
      (((s.emit (.icmpError type code cause)).noteRead orig 14 20).peek orig 14 28))

/-- All that `send_icmp_error` does is to pass this frame on. -/
lemma sendIcmpError_of_built (h : builtError s cause type code packet src = some err) :
    ∃ t, t.core = s.core ∧ ∀ handle, sendIcmpError handle s cause type code packet src =
      (routeAndSend handle t err).map Prod.snd := by
  rw [builtError] at h
  split_ifs at h with hno
  rw [not_or, not_lt] at hno
  rw [Option.some.injEq] at h
  subst h
  refine ⟨((s.emit (.icmpError type code cause)).noteRead packet 14 20).noteRead packet 14 28, rfl,
    fun handle => ?_⟩
  rw [sendIcmpError_eq handle s cause type code src hno.1, if_neg hno.2]

/-- The router originates the error `err` for `packet`: `send_icmp_error` builds it and
passes it to `route_and_send`. -/
inductive Originates (s : Router) (packet err : Frame) : Prop
  /-- The packet has arrived and is reported as expired or as unroutable, which is all that
  is done with it. -/
  | arrival {t u : Router} {interface : List UInt8} {type : UInt8} {src : Ip}
      (htype : type = 11 ∨ type = 3) (hq : Quiet s t)
      (hbuilt : builtError t .arrival type 0 packet src = some err)
      (hsent : ∀ handle, handleIpPacket handle s packet interface =
        (routeAndSend handle u err).map fun p => (p.2, packet)) : Originates s packet err
  /-- The packet waits on a request that is given up. -/
  | giveUp {u : Router} {req : SrArpreq} {pkt : SrPacket} (hf : s.findReq req.id = some req)
      (hx : Expired s.now req) (hp : pkt ∈ req.packets) (hbuf : pkt.buf = packet)
      (hbuilt : builtError s (.giveUp req.id pkt.fid) 3 1 packet 0 = some err)
      (hsent : ∀ handle, sendIcmpError handle s (.giveUp req.id pkt.fid) 3 1 pkt.buf 0 =
        (routeAndSend handle u err).map Prod.snd) : Originates s packet err

/-- The error quotes the whole IP header of the packet and 8 bytes behind it. -/
def QuotesHeader (packet err : Frame) : Prop :=
  slice err 42 (ipHdrLen packet + 8) = slice packet 14 (ipHdrLen packet + 8)

instance (packet err : Frame) : Decidable (QuotesHeader packet err) :=
  inferInstanceAs (Decidable (_ = _))

/-! ### The three paths -/

lemma exists_builtError (s : Router) (cause : Cause) (type code : UInt8)
    (hlen : 34 ≤ packet.length) (hsrc : errorSource s src (ip32 packet 26) ≠ 0) :
    ∃ err, builtError s cause type code packet src = some err := by
  rw [builtError, if_neg fun hno => hno.elim (by omega) hsrc]
  exact ⟨_, rfl⟩

lemma originates_of_arrival {i : SrIf} (hip : i.ip ≠ 0) (hlen : 34 ≤ packet.length)
    (htype : type = 11 ∨ type = 3)
    (h : ∃ t, Quiet s t ∧ ∀ handle, handleIpPacket handle s packet interface =
      (sendIcmpError handle t .arrival type 0 packet i.ip).map fun s' => (s', packet)) :
    ∃ err, Originates s packet err := by
  obtain ⟨t, hq, heq⟩ := h
  have hsrc : errorSource t i.ip (ip32 packet 26) ≠ 0 := by
    rw [errorSource, if_neg hip]
    exact hip
  obtain ⟨err, herr⟩ := exists_builtError t .arrival type 0 hlen hsrc
  obtain ⟨u, -, hsend⟩ := sendIcmpError_of_built herr
  have hsent : ∀ handle, handleIpPacket handle s packet interface =
      (routeAndSend handle u err).map fun p => (p.2, packet) := by
    intro handle
    rw [heq, hsend, map_map_eq]
  exact ⟨err, .arrival htype hq herr hsent⟩

/-- A transit frame that cannot go on is reported by the interface it came in on. -/
theorem originates_of_transit {i : SrIf} (hi : srGetInterface s.ifList interface = some i)
    (hip : i.ip ≠ 0) (ht : Transit s packet)
    (hstop : u8 packet 22 ≤ 1 ∨ lookupRoute s (ip32 packet 30) = none) :
    ∃ err, Originates s packet err := by
  by_cases httl : u8 packet 22 ≤ 1
  · exact originates_of_arrival hip ht.valid.len (Or.inl rfl) (handleIpPacket_of_expired hi ht httl)
  · exact originates_of_arrival hip ht.valid.len (Or.inr rfl)
      (handleIpPacket_of_unroutable hi ht httl (hstop.resolve_left httl))

/-- A packet of a request that is given up is reported if there is a way back. -/
theorem originates_of_giveUp {req : SrArpreq} {pkt : SrPacket} (hf : s.findReq req.id = some req)
    (hx : Expired s.now req) (hp : pkt ∈ req.packets) (hlen : 34 ≤ pkt.buf.length)
    (hsrc : returnSource s pkt.src ≠ 0) : ∃ err, Originates s pkt.buf err := by
  have hback : errorSource s 0 (ip32 pkt.buf 26) ≠ 0 := by
    rw [errorSource, if_pos rfl]
    exact hsrc
  obtain ⟨err, herr⟩ := exists_builtError s (.giveUp req.id pkt.fid) 3 1 hlen hback
  obtain ⟨u, -, hsend⟩ := sendIcmpError_of_built herr
  exact ⟨err, .giveUp hf hx hp rfl herr hsend⟩

/-! ### The quotation -/

/-- Whatever path it is built on, an error about a datagram with room for 28 bytes is
about this datagram. -/
lemma errorAbout_of_built (hlen : 42 ≤ packet.length)
    (h : builtError s cause type code packet src = some err) :
    ErrorAbout type code (errorSource s src (ip32 packet 26)) packet err := by
  rw [builtError] at h
  split_ifs at h
  rw [Option.some.injEq, Router.peek_eq_slice _ (by omega)] at h
  subst h
  exact errorAbout_icmpErrorFrame hlen

lemma Originates.about (hlen : 42 ≤ packet.length) (h : Originates s packet err) :
    ∃ type code src, ErrorAbout type code src packet err := by
  cases h with
  | arrival htype hq hbuilt hsent => exact ⟨_, _, _, errorAbout_of_built hlen hbuilt⟩
  | giveUp hf hx hp hbuf hbuilt hsent => exact ⟨_, _, _, errorAbout_of_built hlen hbuilt⟩

/-- An error quotes the whole header and 8 bytes behind it if and only if the header has no
options. -/
theorem error_quotes_header_iff (hv : ValidIp packet)
    (hlen : 14 + (ipHdrLen packet + 8) ≤ packet.length) (h : Originates s packet err) :
    QuotesHeader packet err ↔ ipHl (slice packet 14 20) = 5 := by
  have hmin := hv.hdrLen
  have hwords : ipHdrLen packet = ipHl (slice packet 14 20) * 4 := rfl
  obtain ⟨type, code, src, habout⟩ := h.about (by omega)
  rw [QuotesHeader]
  constructor
  · -- an error has room for 28 bytes
    intro hquote
    have hleft : (slice err 42 (ipHdrLen packet + 8)).length ≤ 28 := by
      rw [slice, List.length_take, List.length_drop, habout.len]
      omega
    rw [hquote, length_slice hlen] at hleft
    omega
  · intro hfive
    rw [hwords, hfive]
    exact habout.quote

/-- A request for `10.0.1.2` that was broadcast five times, for the sake of one packet. -/
def vainRequest : SrArpreq where
  id := 0
  ip := sampleIp 1 2
  sent := 5
  timesSent := 5
  packets := [⟨sampleFrame (sampleIp 0 2) (sampleIp 1 2) 63 8, sampleName 1, 0⟩]

/-- The sample router with this request, a second later. -/
def askedInVain : Router := { sampleRouter with now := 6, requests := [vainRequest] }

/-- A frame without options whose TTL has run out, and one that has waited in vain. -/
theorem error_quotes_header_iff_sample :
    (∃ err, Originates sampleRouter (sampleFrame (sampleIp 0 2) (sampleIp 1 2) 1 8) err ∧
      QuotesHeader (sampleFrame (sampleIp 0 2) (sampleIp 1 2) 1 8) err) ∧
    ∃ err, Originates askedInVain (sampleFrame (sampleIp 0 2) (sampleIp 1 2) 63 8) err ∧
      QuotesHeader (sampleFrame (sampleIp 0 2) (sampleIp 1 2) 63 8) err := by
  have ht : Transit sampleRouter (sampleFrame (sampleIp 0 2) (sampleIp 1 2) 1 8) := by
    decide +kernel
  obtain ⟨err, horig⟩ := originates_of_transit srGetInterface_eth0 (by decide) ht
    (Or.inl (by decide +kernel))
  have hv : ValidIp (sampleFrame (sampleIp 0 2) (sampleIp 1 2) 63 8) := by
    decide +kernel
  obtain ⟨err', horig'⟩ := originates_of_giveUp
    (show askedInVain.findReq vainRequest.id = some vainRequest from rfl) (by decide)
    (List.mem_singleton_self _) (by decide +kernel) (by decide +kernel)
  exact ⟨⟨err, horig, (error_quotes_header_iff ht.valid (by decide +kernel) horig).2
    (by decide +kernel)⟩, err', horig', (error_quotes_header_iff hv (by decide +kernel) horig').2
    (by decide +kernel)⟩

/-- A frame from `10.0.0.2` to `10.0.1.2` with TTL 1, four bytes of options and 8 bytes of
payload. -/
def optionsFrame : Frame :=
  let hdr := [0x46, 0] ++ be16 32 ++ be16 0 ++ be16 0 ++ [1, 17] ++ be16 0 ++ (sampleIp 0 2).bytes
    ++ (sampleIp 1 2).bytes ++ [1, 1, 1, 0]
  [2, 0, 0, 0, 0, 1] ++ [2, 0, 0, 0, 9, 9] ++ be16 ethertypeIp ++ patch hdr 10 (be16 (cksum hdr))
    ++ [1, 2, 3, 4, 5, 6, 7, 8]

/-- The error about it stops after four bytes of the payload. -/
theorem options_cut_quotation :
    ValidIp optionsFrame ∧ 14 + (ipHdrLen optionsFrame + 8) ≤ optionsFrame.length ∧
    ∃ err, Originates sampleRouter optionsFrame err ∧ ¬ QuotesHeader optionsFrame err := by
  have ht : Transit sampleRouter optionsFrame := by
    decide +kernel
  obtain ⟨err, horig⟩ := originates_of_transit srGetInterface_eth0 (by decide) ht
    (Or.inl (by decide +kernel))
  obtain ⟨type, code, src, habout⟩ := horig.about (by decide +kernel)
  refine ⟨ht.valid, by decide +kernel, err, horig, ?_⟩
  intro hquote
  have hlen : (slice err 42 (ipHdrLen optionsFrame + 8)).length = 32 := by
    rw [hquote]
    decide +kernel
  rw [slice, List.length_take, List.length_drop, habout.len] at hlen
  omega

end SimpleRouter
