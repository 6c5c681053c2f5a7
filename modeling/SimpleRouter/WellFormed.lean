/-
Which datagrams the router acts on.

`handle_ip_packet` compares the length of the header with the length of the frame and
with `ip_len`, but it does not compare `ip_len` with the length of the frame, and it does
not look at `ip_v`.  A frame that passes its checks is acted on if there is anything to do
and a route to do it on; whatever is passed to a route waits on a request, so that the
queue is never the same afterwards.
-/
import SimpleRouter.Echo
import SimpleRouter.Changes
import SimpleRouter.Rejected

namespace SimpleRouter

open Bytes CString Runs

variable {s s' t : Router} {packet frame orig : Frame} {interface : List UInt8} {fuel : ℕ}

/-- The call has sent a frame or changed the pending requests. -/
def Acts (s s' : Router) : Prop :=
  sentFrames s'.trace ≠ sentFrames s.trace ∨ s'.requests ≠ s.requests

instance (s s' : Router) : Decidable (Acts s s') := inferInstanceAs (Decidable (_ ∨ _))

/-- The frame holds a whole IPv4 datagram with a header that fits into it. -/
structure WellFormedIp (packet : Frame) : Prop where
  version : ipV (slice packet 14 20) = 4
  hl : 5 ≤ ipHl (slice packet 14 20)
  hdr : ipHl (slice packet 14 20) * 4 ≤ ipLen (slice packet 14 20)
  whole : 14 + ipLen (slice packet 14 20) ≤ packet.length

/-- The router has something to do for a frame that passes the checks of
`handle_ip_packet`, and a route to do it on. -/
inductive Due (s : Router) (packet : Frame) (interface : List UInt8) : Prop
  /-- An echo request is to be answered. -/
  | echo (hv : ValidIp packet) (hus : findIfaceForIp s.ifList (ip32 packet 30) ≠ none)
      (hecho : EchoRequest packet) (hroute : lookupRoute s (ip32 packet 26) ≠ none)
  /-- The frame is to be forwarded. -/
  | forward (ht : Transit s packet) (httl : ¬ u8 packet 22 ≤ 1)
      (hroute : lookupRoute s (ip32 packet 30) ≠ none)
  /-- The frame cannot go on, and its sender is to be told. -/
  | report (ht : Transit s packet)
      (hstop : u8 packet 22 ≤ 1 ∨ lookupRoute s (ip32 packet 30) = none)
      (hsrc : errorSource s (arrivalSource s interface) (ip32 packet 26) ≠ 0)
      (hroute : lookupRoute s (ip32 packet 26) ≠ none)

lemma Due.valid (h : Due s packet interface) : ValidIp packet := by
  cases h with
  | echo hv hus hecho hroute => exact hv
  | forward ht httl hroute => exact ht.valid
  | report ht hstop hsrc hroute => exact ht.valid

/-! ### A frame on a route changes the queue -/

/-- Handling the request a packet has just been put on does not undo this: the request
keeps the packet, or it is given up, which cannot happen to a fresh one. -/
lemma findReq_ne_of_handled {hop : Ip} {pkt : SrPacket} {nid : ReqId}
    (hw : WF s) (hq : Queues s hop pkt t nid) (h : handleArpreq fuel t nid = .ok s') :
    s'.findReq nid ≠ s.findReq nid := by
  obtain ⟨req, hreq, -, hid, hold⟩ := hq.findReq_self
  -- the record before the call is not one with the packet in front
  have hne : ∀ r : SrArpreq, r.packets = pkt :: req.packets → some r ≠ s.findReq nid := by
    intro r hr heq
    rcases hold with hold | ⟨hnew, -, -⟩
    · rw [hold, Option.some.injEq] at heq
      subst heq
      exact List.cons_ne_self _ _ hr.symm
    · rw [hnew, hw.findReq_nextId] at heq
      exact absurd heq (by simp)
  have hfound : ∀ {r}, t.findReq nid = some r → r = req.push pkt := by
    intro r hr
    exact Option.some_injective _ (hr.symm.trans hreq)
  cases tidy_of_handleArpreq (hq.wf hw) h with
  | idle hw' hf ht =>
      rw [hreq]
      exact hne _ rfl
  | retry hw' hf ht hn hid' =>
      obtain rfl := hfound hf
      rw [retryArp_findReq, SrArpreq.push_id, hid, if_pos rfl, hreq, Option.map_some]
      exact hne _ rfl
  | expire hw' hf hx hid' hloop =>
      obtain rfl := hfound hf
      rw [findReq_srArpreqDestroy, if_pos rfl]
      rcases hold with hold | ⟨-, -, hfresh⟩
      · rw [hold]
        simp
      · have htimes := hx.2
        rw [SrArpreq.push_timesSent, hfresh] at htimes
        exact absurd htimes (by simp)

lemma requests_ne_of_findReq {id : ReqId} (h : s'.findReq id ≠ s.findReq id) :
    s'.requests ≠ s.requests := by
  intro heq
  exact h (by rw [Router.findReq, Router.findReq, heq])

lemma not_acts_of_same (hobs : sentFrames s'.trace = sentFrames s.trace)
    (hreq : s'.requests = s.requests) : ¬ Acts s s' := by
  rintro (h | h)
  · exact h hobs
  · exact h hreq

lemma acts_congr (hobs : sentFrames t.trace = sentFrames s.trace) (hreq : t.requests = s.requests) :
    Acts t s' ↔ Acts s s' := by
  rw [Acts, Acts, hobs, hreq]

lemma Quiet.acts_iff (hq : Quiet s t) : Acts t s' ↔ Acts s s' :=
  acts_congr (by rw [hq.trace]) (requests_of_core hq.core)

lemma Quiet.not_acts (hq : Quiet s s') : ¬ Acts s s' :=
  not_acts_of_same (by rw [hq.trace]) (requests_of_core hq.core)

/-- `route_and_send` acts if and only if there is a route. -/
lemma routeAndSend_acts_iff {rc : ℤ} (hw : WF s) (hlen : 34 ≤ frame.length)
    (h : routeAndSend (handleArpreq fuel) s frame = .ok (rc, s')) :
    Acts s s' ↔ lookupRoute s (ip32 frame 30) ≠ none := by
  rcases routeAndSend_cases hw h with
    ⟨hshort, -⟩ | ⟨-, hno, rfl⟩ | ⟨-, rt, i, t, nid, hroute, hq, hcall⟩
  · omega
  · exact iff_of_false (Quiet.noteRead s frame 14 20 hlen).not_acts (not_not_intro hno)
  · have hchange := findReq_ne_of_handled ((hw.noteRead _ _ _).emit _) hq hcall
    refine iff_of_true (Or.inr ?_) (by rw [hroute]; simp)
    exact requests_ne_of_findReq hchange

/-- `send_icmp_error` acts if and only if the error has a source and a route. -/
lemma sendIcmpError_acts_iff {type code : UInt8} {src : Ip} (hw : WF s) (hlen : 34 ≤ orig.length)
    (h : sendIcmpError (handleArpreq fuel) s .arrival type code orig src = .ok s') :
    Acts s s' ↔ errorSource s src (ip32 orig 26) ≠ 0 ∧ lookupRoute s (ip32 orig 26) ≠ none := by
  -- that an error is built is noted, but nothing is sent
  have hnoted : sentFrames (s.trace ++ [(s.now, .icmpError type code .arrival)])
      = sentFrames s.trace := by
    rw [sentFrames, List.filterMap_append]
    simp [sentFrames]
  rcases sendIcmpError_cases hlen h with ⟨hsrc, rfl⟩ | ⟨hsrc, rc, hsend⟩
  · exact iff_of_false (not_acts_of_same hnoted rfl) fun hdue => hdue.1 hsrc
  · set t := ((s.emit (.icmpError type code .arrival)).noteRead orig 14 20).noteRead orig 14 28
    have hsame : Acts t s' ↔ Acts s s' := acts_congr hnoted rfl
    have hlong : 34 ≤ (icmpErrorFrame type code (errorSource s src (ip32 orig 26)) (ip32 orig 26)
        (((s.emit (.icmpError type code .arrival)).noteRead orig 14 20).peek orig 14 28)).length := by
      rw [length_icmpErrorFrame (Router.length_peek _ _ _ _)]
      omega
    have hiff := routeAndSend_acts_iff (((hw.emit _).noteRead _ _ _).noteRead _ _ _) hlong hsend
    rw [ip32_icmpErrorFrame_dst, hsame] at hiff
    rw [hiff]
    exact ⟨fun hroute => ⟨hsrc, hroute⟩, fun hdue => hdue.2⟩

/-! ### The decision -/

lemma errorSource_of_quiet (hq : Quiet s t) (src dst : Ip) :
    errorSource t src dst = errorSource s src dst := by
  rw [errorSource, errorSource, hq.sameEnv.returnSource]

/-- A frame for the router. -/
lemma srHandlepacket_acts_of_us {buf : Frame} (hw : WF s) (htype : ethertype packet = ethertypeIp)
    (hv : ValidIp packet) (hus : findIfaceForIp s.ifList (ip32 packet 30) ≠ none)
    (h : srHandlepacket fuel s packet interface = .ok (s', buf)) :
    Acts s s' ↔ EchoRequest packet ∧ lookupRoute s (ip32 packet 26) ≠ none := by
  by_cases hecho : EchoRequest packet
  · obtain ⟨s₁, hq, hcall⟩ := srHandlepacket_of_echo interface htype hv hus hecho
    rw [hcall, map_eq_ok] at h
    obtain ⟨⟨rc, s₂⟩, hsend, h⟩ := h
    rw [Prod.mk.injEq] at h
    obtain ⟨rfl, rfl⟩ := h
    have hlong : 34 ≤ (icmpEchoReply packet).length := by
      rw [length_icmpEchoReply hv.hdrLen hecho.len]
      exact hv.len
    have hiff := routeAndSend_acts_iff (hq.wf hw) hlong hsend
    rw [hq.acts_iff, (icmpEchoReply_fields hv.hdrLen hecho.len).2.1, hq.sameEnv.lookupRoute] at hiff
    rw [hiff]
    exact ⟨fun hroute => ⟨hecho, hroute⟩, fun hdue => hdue.2⟩
  · have hrej : Rejected s packet interface := .ip htype (.notEcho hus hecho)
    obtain ⟨s₁, hq, hcall⟩ := hrej.quiet
    rw [hcall, Except.ok.injEq, Prod.mk.injEq] at h
    obtain ⟨rfl, rfl⟩ := h
    exact iff_of_false hq.not_acts fun hdue => hecho hdue.1

/-- A frame to somewhere else. -/
lemma IpOutcome.acts_iff_of_transit (hw : WF s) (ht : Transit s packet)
    (h : IpOutcome (handleArpreq fuel) s packet interface s') :
    Acts s s' ↔ Due s packet interface := by
  have hlen := ht.valid.len
  -- a frame that cannot go on is reported if the error has a source and a route
  have hreport : (u8 packet 22 ≤ 1 ∨ lookupRoute s (ip32 packet 30) = none) →
      (Due s packet interface ↔ errorSource s (arrivalSource s interface) (ip32 packet 26) ≠ 0 ∧
        lookupRoute s (ip32 packet 26) ≠ none) := by
    intro hstop
    constructor
    · intro hdue
      cases hdue with
      | echo hv hus hecho hroute => exact absurd ht.notForUs hus
      | forward _ httl hroute => exact absurd hstop (not_or.2 ⟨httl, hroute⟩)
      | report _ _ hsrc hroute => exact ⟨hsrc, hroute⟩
    · rintro ⟨hsrc, hroute⟩
      exact .report ht hstop hsrc hroute
  cases h with
  | dropped hq hno => exact absurd ht hno
  | echoed hq hv hus hecho hsend => exact absurd ht.notForUs hus
  | expired hq _ httl herr =>
      have hiff := sendIcmpError_acts_iff (hq.wf hw) hlen herr
      rw [hq.acts_iff, errorSource_of_quiet hq, hq.sameEnv.lookupRoute] at hiff
      rw [hiff, hreport (Or.inl httl)]
  | forwarded hq _ httl hsend =>
      have hlong : 34 ≤ (transitFrame packet).length := by
        rw [length_transitFrame ht.valid]
        exact hlen
      have hiff := routeAndSend_acts_iff (hq.wf hw) hlong hsend
      rw [hq.acts_iff] at hiff
      rcases routeAndSend_rc hlong hsend with ⟨-, hrc, -⟩ | ⟨hroute, -⟩
      · exact absurd hrc (by decide)
      · refine iff_of_true (hiff.2 hroute) (.forward ht httl ?_)
        rw [ip32_transitFrame_dst ht.valid, hq.sameEnv.lookupRoute] at hroute
        exact hroute
  | unroutable hq _ httl hno herr =>
      have hiff := sendIcmpError_acts_iff (hq.wf hw) hlen herr
      rw [hq.acts_iff, errorSource_of_quiet hq, hq.sameEnv.lookupRoute] at hiff
      rw [hiff, hreport (Or.inr hno)]

/-- A frame that fails a check is dropped. -/
lemma Outcome.not_acts_of_not_valid (htype : ethertype packet = ethertypeIp)
    (hno : ¬ ValidIp packet) (h : Outcome (handleArpreq fuel) s packet interface s') :
    ¬ Acts s s' := by
  cases h with
  | ignored hq _ => exact hq.not_acts
  | arp harp _ _ => exact absurd harp (ethertype_ne_arp htype)
  | ip _ hip =>
      cases hip with
      | dropped hq _ => exact hq.not_acts
      | echoed _ hv _ _ _ => exact absurd hv hno
      | expired _ ht _ _ => exact absurd ht.valid hno
      | forwarded _ ht _ _ => exact absurd ht.valid hno
      | unroutable _ ht _ _ _ => exact absurd ht.valid hno

/-- `sr_handlepacket` acts on an IP frame if and only if there is something to do for it. -/
theorem srHandlepacket_acts_iff {buf : Frame} (hw : WF s) (htype : ethertype packet = ethertypeIp)
    (h : srHandlepacket fuel s packet interface = .ok (s', buf)) :
    Acts s s' ↔ Due s packet interface := by
  have hout := (srHandlepacket_outcome hw h).1
  by_cases hv : ValidIp packet
  swap
  · exact iff_of_false (hout.not_acts_of_not_valid htype hv) fun hdue => hv hdue.valid
  have hlen := hv.len
  by_cases hus : findIfaceForIp s.ifList (ip32 packet 30) = none
  · cases hout with
    | ignored _ hno =>
        rcases hno with hshort | ⟨-, hne⟩
        · omega
        · exact absurd htype hne
    | arp harp _ _ => exact absurd harp (ethertype_ne_arp htype)
    | ip _ hip => exact hip.acts_iff_of_transit hw ⟨hv, hus⟩
  · rw [srHandlepacket_acts_of_us hw htype hv hus h]
    constructor
    · rintro ⟨hecho, hroute⟩
      exact .echo hv hus hecho hroute
    · intro hdue
      cases hdue with
      | echo _ _ hecho hroute => exact ⟨hecho, hroute⟩
      | forward ht _ _ => exact absurd ht.notForUs hus
      | report ht _ _ _ => exact absurd ht.notForUs hus

/-- The lengths that `handle_ip_packet` compares are in order whenever something is due. -/
lemma Due.wellFormedIp (h : Due s packet interface) (hv : ipV (slice packet 14 20) = 4)
    (hwhole : 14 + ipLen (slice packet 14 20) ≤ packet.length) : WellFormedIp packet := by
  have hhdr : 20 ≤ ipHl (slice packet 14 20) * 4 := h.valid.hdrLen
  exact ⟨hv, by omega, h.valid.ipLen, hwhole⟩

/-- Only well-formed datagrams are acted on if and only if those for which there is
something to do have version 4 and are not truncated. -/
theorem acts_on_well_formed_iff {ifs : List SrIf} {rts : List SrRt} {now : ℕ}
    {junk : ℕ → ℕ → UInt8} {es : List Event} (h₀ : Run Step (Router.init ifs rts now junk) es s)
    (htype : ethertype packet = ethertypeIp) (h : Step s (.recv packet interface) s') :
    (Acts s s' → WellFormedIp packet) ↔
      (Due s packet interface → ipV (slice packet 14 20) = 4 ∧
        14 + ipLen (slice packet 14 20) ≤ packet.length) := by
  have hw : WF s := run_wf h₀ (wf_init ..)
  obtain ⟨fuel, buf, hcall⟩ := h.exists_call
  rw [srHandlepacket_acts_iff hw htype hcall]
  constructor
  · intro hwf hdue
    exact ⟨(hwf hdue).version, (hwf hdue).whole⟩
  · intro hcond hdue
    exact hdue.wellFormedIp (hcond hdue).1 (hcond hdue).2

/-- A frame that is forwarded, and is well formed. -/
theorem acts_on_well_formed_iff_sample :
    ∃ s', Step sampleRouter (.recv (sampleFrame (sampleIp 0 2) (sampleIp 1 2) 64 8) (sampleName 0))
        s' ∧ Acts sampleRouter s' ∧
      WellFormedIp (sampleFrame (sampleIp 0 2) (sampleIp 1 2) 64 8) := by
  obtain ⟨s', hstep, hacts⟩ := exists_step_of_leadsTo step_of_ok
    (show leadsTo (step 5) sampleRouter
      [.recv (sampleFrame (sampleIp 0 2) (sampleIp 1 2) 64 8) (sampleName 0)]
      (fun s' => Acts sampleRouter s') by decide +kernel)
  have hacts := of_decide_eq_true hacts
  refine ⟨s', hstep, hacts, ?_⟩
  exact (acts_on_well_formed_iff (.nil sampleRouter) (by decide +kernel) hstep).2
    (fun _ => ⟨by decide +kernel, by decide +kernel⟩) hacts

/-- A frame from `10.0.0.2` to `10.0.1.2` with 8 bytes of payload and a header that gives
the version and the length as stated. -/
def misfitFrame (version : UInt8) (len : ℕ) : Frame :=
  let hdr := [version * 16 + 5, 0] ++ be16 len ++ be16 0 ++ be16 0 ++ [64, 17] ++ be16 0
    ++ (sampleIp 0 2).bytes ++ (sampleIp 1 2).bytes
  [2, 0, 0, 0, 0, 1] ++ [2, 0, 0, 0, 9, 9] ++ be16 ethertypeIp ++ patch hdr 10 (be16 (cksum hdr))
    ++ List.replicate 8 7

/-- A datagram of 1000 bytes of which only 28 have arrived is queued for its next hop, which
is asked for its address; and so is a datagram of version 6. -/
theorem misfits_acted_on :
    (∃ s', Step sampleRouter (.recv (misfitFrame 4 1000) (sampleName 0)) s' ∧
      ethertype (misfitFrame 4 1000) = ethertypeIp ∧ Acts sampleRouter s' ∧
      ipV (slice (misfitFrame 4 1000) 14 20) = 4 ∧ ¬ WellFormedIp (misfitFrame 4 1000)) ∧
    ∃ s', Step sampleRouter (.recv (misfitFrame 6 28) (sampleName 0)) s' ∧
      ethertype (misfitFrame 6 28) = ethertypeIp ∧ Acts sampleRouter s' ∧
      ¬ WellFormedIp (misfitFrame 6 28) := by
  constructor
  · obtain ⟨s', hstep, hacts⟩ := exists_step_of_leadsTo step_of_ok
      (show leadsTo (step 5) sampleRouter [.recv (misfitFrame 4 1000) (sampleName 0)]
        (fun s' => Acts sampleRouter s') by decide +kernel)
    refine ⟨s', hstep, by decide +kernel, of_decide_eq_true hacts, by decide +kernel,
      fun hwf => ?_⟩
    exact absurd hwf.whole (by decide +kernel)
  · obtain ⟨s', hstep, hacts⟩ := exists_step_of_leadsTo step_of_ok
      (show leadsTo (step 5) sampleRouter [.recv (misfitFrame 6 28) (sampleName 0)]
        (fun s' => Acts sampleRouter s') by decide +kernel)
    refine ⟨s', hstep, by decide +kernel, of_decide_eq_true hacts, fun hwf => ?_⟩
    exact absurd hwf.version (by decide +kernel)

end SimpleRouter
