/-
Where frames are read.

`send_icmp_error` makes sure that there is an IP header, 34 bytes, and then quotes
28 bytes from offset 14: of a frame of 34 to 41 bytes it reads past the end.  All
other reads are inside their frame.

An error is made for a frame that arrives, and for the frames of the requests that
are given up, which are found along the chains of errors.  `ReadsOk` says of an
event that every frame for which an error is made, and has a way back, is at least
42 bytes long.
-/
import SimpleRouter.Chains
import SimpleRouter.Echo
import SimpleRouter.Sweep

namespace SimpleRouter

open Bytes CString Runs Relation

variable {s s' s₀ s₁ s₂ : Router} {id nid a : ReqId} {r : SrArpreq} {pkt : SrPacket}
  {A ids : List ReqId} {c : Call} {cur : Option ReqId} {start x : Station} {fuel : ℕ} {rc : ℤ}
  {frame packet : Frame} {interface : List UInt8} {pkts : List SrPacket}

/-! ### The condition -/

/-- The error for a packet, if there is one, quotes bytes of the packet. -/
def Quotable (s : Router) (p : SrPacket) : Prop :=
  34 ≤ p.buf.length → 42 ≤ p.buf.length ∨ returnHop s p.src = none

/-- At the station the error can be made for each of the frames that wait. -/
def QuotesAt (s : Router) (x : Station) : Prop :=
  ∀ r ∈ s.requests, r.ip = x.1 → Expired s.now r → ∀ p ∈ r.packets, Quotable s p

/-- A frame of `len` bytes from `src` to `dst` can be passed to `route_and_send`: if the
request it is queued on has expired, then the error can be made for the frame and
for every frame along the chains of errors from there. -/
def SendOk (s : Router) (src dst : Ip) (len : ℕ) : Prop :=
  ∀ rt i, lookupRoute s dst = some (rt, i) →
    (∀ r ∈ s.requests, r.ip = nextHop rt dst → Expired s.now r →
      42 ≤ len ∨ returnHop s src = none) ∧
    ∀ y, ReflTransGen (Leads s) (nextHop rt dst, some src) y → QuotesAt s y

/-- An error from `src` can be made for a frame that arrives. -/
def ErrorOk (s : Router) (packet : Frame) (src : Ip) : Prop :=
  src ≠ 0 → 42 ≤ packet.length ∧ SendOk s src (ip32 packet 26) 70

/-- Every frame for which an error is made in the course of the event, and has a way
back, is long enough. -/
def ReadsOk (s : Router) : Event → Prop
  | .recv packet interface => ethertype packet = ethertypeIp → ValidIp packet →
      (findIfaceForIp s.ifList (ip32 packet 30) ≠ none → EchoRequest packet →
        SendOk s (ip32 packet 30) (ip32 packet 26) packet.length) ∧
      (findIfaceForIp s.ifList (ip32 packet 30) = none →
        (u8 packet 22 ≤ 1 ∨ lookupRoute s (ip32 packet 30) = none →
          ErrorOk s packet (errorSource s (arrivalSource s interface) (ip32 packet 26))) ∧
        (¬ u8 packet 22 ≤ 1 → SendOk s (ip32 packet 26) (ip32 packet 30) packet.length))
  | .sweep => ∀ r ∈ s.requests, Expired s.now r → ∀ p ∈ r.packets, Quotable s p
  | .tick _ => True

/-! ### Calls of `handle_arpreq` -/

/-- The reads made between the two states are inside their frames. -/
def ReadsInside (s s' : Router) : Prop := ∀ ρ ∈ s'.reads, ρ ∈ s.reads ∨ ρ.InBounds

namespace ReadsInside

lemma refl (s : Router) : ReadsInside s s := fun _ h => Or.inl h

lemma trans (h : ReadsInside s s₁) (h' : ReadsInside s₁ s₂) : ReadsInside s s₂ := by
  intro ρ hρ
  rcases h' ρ hρ with hρ | hρ
  · exact h ρ hρ
  · exact Or.inr hρ

lemma of_eq (h : s'.reads = s.reads) : ReadsInside s s' := fun _ hρ => Or.inl (h ▸ hρ)

lemma noteRead (s : Router) (buf : List UInt8) (off n : ℕ) (h : off + n ≤ buf.length) :
    ReadsInside s (s.noteRead buf off n) :=
  (Quiet.noteRead s buf off n h).reads

end ReadsInside

lemma noted_readsInside (hl : 34 ≤ pkt.buf.length) : ReadsInside s (noted s id pkt) :=
  ReadsInside.noteRead (s.emit _) _ _ _ hl

/-- A report reads inside the packet if that is long enough to be quoted. -/
lemma report_readsInside (hw : WF s) (hl : 42 ≤ pkt.buf.length)
    (hsrc : returnSource s pkt.src ≠ 0)
    (hq : routeAndQueue (quoted s id pkt) (unreachableFrame s id pkt) = (s₁, some nid)) :
    ReadsInside s s₁ := by
  obtain ⟨rt, i, -, -, hqs⟩ := report_queues hw hsrc hq
  refine .trans ?_ (.of_eq hqs.reads)
  have hquoted : ReadsInside s (quoted s id pkt) :=
    (noted_readsInside (by omega)).trans (.noteRead _ _ _ _ hl)
  exact hquoted.trans (.noteRead (quoted s id pkt) _ _ _ (by rw [length_unreachableFrame]; omega))

/-- The call is on a station of a chain. -/
def Call.OnChain (s₀ : Router) (start : Station) (A : List ReqId) (s : Router) : Call → Prop
  | .handle id => Stage s₀ (id :: A) s ∧ ∀ r, s.findReq id = some r → Expired s.now r →
      ∃ x, ReflTransGen (Leads s₀) start x ∧ AtStation s₀ r x
  | .giveUp _ pkts => Stage s₀ A s ∧ ∃ r x, (∀ p ∈ pkts, p ∈ r.packets) ∧
      ReflTransGen (Leads s₀) start x ∧ AtStation s₀ r x

/-- A packet of a request at a station is long enough if it has a way back. -/
lemma AtStation.length_ge (h : AtStation s₀ r x) (he : SameEnv s₀ s) (hquotes : QuotesAt s₀ x)
    (hp : pkt ∈ r.packets) (hl : 34 ≤ pkt.buf.length) (hsrc : returnSource s pkt.src ≠ 0) :
    42 ≤ pkt.buf.length := by
  obtain ⟨-, r₀, hr₀, hip, hx, hpk⟩ := h
  have hback : returnHop s₀ pkt.src ≠ none := by
    rw [← he.returnHop, Ne, returnHop_eq_none_iff]
    exact hsrc
  rcases hpk pkt hp with hmem | ⟨-, hlong⟩
  · exact (hquotes r₀ hr₀ hip hx pkt hmem hl).resolve_right hback
  · exact hlong.resolve_right hback

theorem Tidy.readsInside (h : Tidy A c s s')
    (hquotes : ∀ x, ReflTransGen (Leads s₀) start x → QuotesAt s₀ x)
    (hc : c.OnChain s₀ start A s) : ReadsInside s s' := by
  induction h with
  | idle => exact .refl _
  | retry => exact retryArp_reads _ _
  | @expire A s s' id req hw hf hx hid hloop ih =>
      obtain ⟨hstage, hchain⟩ := hc
      obtain ⟨x, hreach, hat⟩ := hchain req hf hx
      exact ih ⟨hstage, req, x, fun _ hp => hp, hreach, hat⟩
  | done => exact .refl _
  | short hw hl _ ih =>
      obtain ⟨hstage, r, x, hpk, hreach, hat⟩ := hc
      exact ih ⟨hstage, r, x, fun p hp => hpk p (List.mem_cons_of_mem _ hp), hreach, hat⟩
  | mute hw hl hsrc _ ih =>
      obtain ⟨hstage, r, x, hpk, hreach, hat⟩ := hc
      exact (noted_readsInside hl).trans (ih ⟨hstage.of_core noted_core, r, x,
        fun p hp => hpk p (List.mem_cons_of_mem _ hp), hreach, hat⟩)
  | @report A s s₁ s₂ s' id nid pkt rest hw hl hsrc hq hnid hcall hrest ih₁ ih₂ =>
      obtain ⟨hstage, r, x, hpk, hreach, hat⟩ := hc
      have hp : pkt ∈ r.packets := hpk pkt (by simp)
      have hlong := hat.length_ge hstage.env (hquotes x hreach) hp hl hsrc
      have hstage₁ := hstage.report hsrc hq
      have hnext : ∀ r₁, s₁.findReq nid = some r₁ → Expired s₁.now r₁ →
          ∃ y, ReflTransGen (Leads s₀) start y ∧ AtStation s₀ r₁ y := by
        intro r₁ hr₁ hx₁
        obtain ⟨r₀, i, -, -, hr₀, hret⟩ := report_expired hw hsrc hq hr₁ hx₁
        have hip : r₁.ip = r₀.ip := by rw [hr₀, SrArpreq.push_ip]
        have hlead := hat.leads hstage.env hp hl hret
        rw [← hip] at hlead
        exact ⟨_, hreach.tail hlead, hstage.atStation hsrc hq hnid hr₁ hx₁⟩
      refine ((report_readsInside hw hlong hsrc hq).trans (ih₁ ⟨hstage₁, hnext⟩)).trans (ih₂ ?_)
      exact ⟨hstage₁.call hcall, r, x, fun p hp => hpk p (List.mem_cons_of_mem _ hp), hreach, hat⟩

/-! ### Frames that are sent -/

/-- `route_and_send` reads inside the frames if the condition holds.  The condition is
about the state `s₀`, from which `s` differs by what was observed. -/
lemma routeAndSend_readsInside (hw : WF s₀) (hcore : s.core = s₀.core) (hl : 34 ≤ frame.length)
    (hok : SendOk s₀ (ip32 frame 26) (ip32 frame 30) frame.length)
    (h : routeAndSend (handleArpreq fuel) s frame = .ok (rc, s')) : ReadsInside s s' := by
  rcases routeAndSend_cases (hw.of_core hcore) h with
    ⟨hlen, -⟩ | ⟨-, -, rfl⟩ | ⟨-, rt, i, s₁, nid, hroute, hqs, hcall⟩
  · omega
  · exact .noteRead s _ _ _ hl
  · have hcore' : ((s.noteRead frame 14 20).emit (.accepted (nextHop rt (ip32 frame 30))
        (routedPacket s frame i))).core = s₀.core := hcore
    have hstage := Stage.queues hw hcore' hqs
    rw [(SameEnv.of_core hcore).lookupRoute] at hroute
    obtain ⟨hself, hchains⟩ := hok rt i hroute
    have hread : ReadsInside s s₁ :=
      (ReadsInside.noteRead s frame 14 20 hl).trans (.of_eq hqs.reads)
    refine hread.trans ((tidy_of_handleArpreq hstage.wf hcall).readsInside hchains ⟨hstage, ?_⟩)
    -- if the request has expired, the frame is now in front of its packets
    intro r hr hx
    refine ⟨_, .refl, ?_⟩
    rw [hstage.env.expired_iff] at hx
    obtain ⟨req, hreq, hip, -, hold | ⟨-, -, hnew⟩⟩ := hqs.findReq_self
    · obtain rfl := Option.some_injective _ (hreq.symm.trans hr)
      rw [findReq_of_core hcore'] at hold
      refine ⟨hip, req, mem_of_findReq hold, hip, hx, ?_⟩
      intro p hp
      rcases List.mem_cons.1 hp with rfl | hp
      · rw [src_routedPacket _ _ hl, length_routedPacket hl]
        exact Or.inr ⟨rfl, hself req (mem_of_findReq hold) hip hx⟩
      · exact Or.inl hp
    · obtain rfl := Option.some_injective _ (hreq.symm.trans hr)
      rw [hnew] at hx
      exact absurd hx.2 (by simp)

lemma sendIcmpError_readsInside (hw : WF s₀) (hcore : s.core = s₀.core) {cause : Cause}
    {type code : UInt8} {srcIp : Ip} (hl : 34 ≤ packet.length)
    (hok : ErrorOk s₀ packet (errorSource s₀ srcIp (ip32 packet 26)))
    (h : sendIcmpError (handleArpreq fuel) s cause type code packet srcIp = .ok s') :
    ReadsInside s s' := by
  have hsource : errorSource s srcIp (ip32 packet 26) = errorSource s₀ srcIp (ip32 packet 26) := by
    rw [errorSource, errorSource, (SameEnv.of_core hcore).returnSource]
  have hread : ReadsInside s ((s.emit (.icmpError type code cause)).noteRead packet 14 20) :=
    .noteRead (s.emit _) _ _ _ hl
  rcases sendIcmpError_cases hl h with ⟨-, rfl⟩ | ⟨hz, rc, hroute⟩
  · exact hread
  · rw [hsource] at hz hroute
    obtain ⟨hlong, hsend⟩ := hok hz
    have hlen : (icmpErrorFrame type code (errorSource s₀ srcIp (ip32 packet 26))
        (ip32 packet 26) (((s.emit (.icmpError type code cause)).noteRead packet 14 20).peek
          packet 14 28)).length = 70 :=
      length_icmpErrorFrame (Router.length_peek _ _ _ _)
    have hquote := ReadsInside.noteRead
      ((s.emit (.icmpError type code cause)).noteRead packet 14 20) packet 14 28 hlong
    refine (hread.trans hquote).trans
      (routeAndSend_readsInside hw (by rw [← hcore]; rfl) (by rw [hlen]; omega) ?_ hroute)
    rw [ip32_icmpErrorFrame_src, ip32_icmpErrorFrame_dst, hlen]
    exact hsend

/-! ### Frames that arrive -/

/-- What `handle_ip_packet` does with a frame. -/
lemma IpOutcome.readsInside (hw : WF s) (htype : ethertype packet = ethertypeIp)
    (hok : ReadsOk s (.recv packet interface))
    (h : IpOutcome (handleArpreq fuel) s packet interface s') : ReadsInside s s' := by
  cases h with
  | dropped hq hno => exact hq.reads
  | echoed hq hv hus hecho hsend =>
      have hlen := length_icmpEchoReply hv.hdrLen hecho.len
      obtain ⟨hsrc, hdst, -⟩ := icmpEchoReply_fields hv.hdrLen hecho.len
      have hl := hv.len
      refine .trans hq.reads (routeAndSend_readsInside hw hq.core (by rw [hlen]; exact hl) ?_ hsend)
      rw [hsrc, hdst, hlen]
      exact (hok htype hv).1 hus hecho
  | expired hq ht httl herr =>
      have hok' := ((hok htype ht.valid).2 ht.notForUs).1 (Or.inl httl)
      exact .trans hq.reads (sendIcmpError_readsInside hw hq.core ht.valid.len hok' herr)
  | forwarded hq ht httl hsend =>
      have hlen := length_transitFrame ht.valid
      have hl := ht.valid.len
      refine .trans hq.reads (routeAndSend_readsInside hw hq.core (by rw [hlen]; exact hl) ?_ hsend)
      rw [ip32_transitFrame_src ht.valid, ip32_transitFrame_dst ht.valid, hlen]
      exact ((hok htype ht.valid).2 ht.notForUs).2 httl
  | unroutable hq ht httl hno herr =>
      have hok' := ((hok htype ht.valid).2 ht.notForUs).1 (Or.inr hno)
      exact .trans hq.reads (sendIcmpError_readsInside hw hq.core ht.valid.len hok' herr)

lemma ArpOutcome.readsInside (h : ArpOutcome s packet interface s') : ReadsInside s s' := by
  cases h with
  | ignored hq hno => exact hq.reads
  | answered hq hno hr => exact .trans hq.reads (srSendPacket_reads _ _ _ _)
  | learned hq hr hnone => exact hq.reads
  | drained hq hr hf hip hcore htrace hreads => exact hreads

/-! ### The sweep -/

/-- If the error can be made for every frame of every expired request, a walk reads
inside the frames. -/
lemma Walk.readsInside (h : Walk s cur ids s') (hw : WF s)
    (hok : ∀ a r, s.findReq a = some r → Expired s.now r → ∀ p ∈ r.packets, Quotable s p) :
    ReadsInside s s' := by
  induction h with
  | stop => exact .refl _
  | @visit s s₁ s' id next ids hnext hcall hrest ih =>
      have he : SameEnv s s₁ := (SameEnv.of_core (core_emit s _)).trans hcall.sameEnv
      obtain ⟨r, hr⟩ := Option.isSome_iff_exists.1 (findReq_isSome_of_nextReq hnext)
      have hw' : WF (s.emit (.swept id)) := hw.emit _
      have hquotes : ∀ x, QuotesAt (s.emit (.swept id)) x := by
        intro x r' hr' hip hx
        exact hok r'.id r' (hw.findReq_of_mem hr') hx
      have hread : ReadsInside (s.emit (.swept id)) s₁ := by
        have hchain : (Call.handle id).OnChain (s.emit (.swept id)) (r.ip, none) []
            (s.emit (.swept id)) := by
          refine ⟨(Stage.refl hw').mono (by simp), ?_⟩
          intro r' hr' hx
          obtain rfl : r = r' := Option.some_injective _ (hr.symm.trans hr')
          exact ⟨_, .refl, rfl, r, mem_of_findReq hr, rfl, hx, fun _ hp => Or.inl hp⟩
        exact hcall.readsInside (fun x _ => hquotes x) hchain
      refine .trans hread (ih hcall.wf ?_)
      intro a r' hr' hx p hp hl
      rw [he.returnHop]
      exact hok a r' (hcall.findReq_of_expired hr' hx) (he.expired_iff.1 hx) p hp hl

/-! ### Runs -/

/-- A step that meets the condition. -/
def CarefulStep (s : Router) (e : Event) (s' : Router) : Prop := ReadsOk s e ∧ Step s e s'

lemma CarefulStep.readsInside {e : Event} (h : CarefulStep s e s') (hw : WF s) :
    ReadsInside s s' := by
  obtain ⟨hok, hst⟩ := h
  cases e with
  | recv packet interface =>
      obtain ⟨fuel, hout⟩ := hst.outcome hw
      cases hout with
      | ignored hq hno => exact hq.reads
      | arp htype hq h => exact .trans hq.reads h.readsInside
      | ip htype h => exact h.readsInside hw htype hok
  | sweep =>
      obtain ⟨fuel, h⟩ := hst
      have hw' : WF (expireEntries s) := hw.congr rfl rfl
      obtain ⟨ids, hwalk, -⟩ := walk_of_sweepFrom hw' h
      exact hwalk.readsInside hw' fun a r hr hx => hok r (mem_of_findReq hr) hx
  | tick d =>
      obtain ⟨fuel, h⟩ := hst
      obtain rfl := Except.ok.inj h
      exact .refl _

variable {ifs : List SrIf} {rt : List SrRt} {now : ℕ} {junk : ℕ → ℕ → UInt8} {es : List Event}

/-- All reads are in bounds, in every run in which no error is made for a frame of less
than 42 bytes. -/
theorem packet_reads_in_bounds (h : Run CarefulStep (Router.init ifs rt now junk) es s) :
    ∀ ρ ∈ s.reads, ρ.InBounds := by
  have hinv : WF s ∧ ∀ ρ ∈ s.reads, ρ.InBounds := by
    refine h.invariant (I := fun s => WF s ∧ ∀ ρ ∈ s.reads, ρ.InBounds) ?_ ⟨wf_init .., ?_⟩
    · rintro s e t - ⟨hw, hin⟩ hst
      refine ⟨hst.2.wf hw, ?_⟩
      intro ρ hρ
      rcases hst.readsInside hw ρ hρ with hρ | hρ
      · exact hin ρ hρ
      · exact hρ
    · simp [Router.init]
  exact hinv.2

/-- On an empty queue nothing is given up. -/
lemma sendOk_of_empty (h : s.requests = []) (src dst : Ip) (len : ℕ) : SendOk s src dst len := by
  intro rt i _
  constructor
  · intro r hr
    rw [h] at hr
    exact absurd hr (by simp)
  · intro y _ r hr
    rw [h] at hr
    exact absurd hr (by simp)

/-- A frame of 54 bytes whose TTL is 1, and a sweep. -/
theorem packet_reads_in_bounds_sample :
    ∃ s, Run CarefulStep sampleRouter
        [.recv (sampleFrame (sampleIp 0 2) (sampleIp 1 2) 1 20) (sampleName 0), .sweep] s ∧
      ⟨14, 28, 54⟩ ∈ s.reads ∧ ∀ ρ ∈ s.reads, ρ.InBounds := by
  obtain ⟨s₁, hst₁, hs₁⟩ := exists_step_of_leadsTo step_of_ok
    (show leadsTo (step 9) sampleRouter
      [.recv (sampleFrame (sampleIp 0 2) (sampleIp 1 2) 1 20) (sampleName 0)]
      (fun s => (∀ r ∈ s.requests, ¬ Expired s.now r) ∧ ⟨14, 28, 54⟩ ∈ s.reads ∧
        leadsTo (step 9) s [.sweep] fun s' => ⟨14, 28, 54⟩ ∈ s'.reads) by decide +kernel)
  obtain ⟨hexp, -, hsweep⟩ := of_decide_eq_true hs₁
  obtain ⟨s₂, hst₂, hs₂⟩ := exists_step_of_leadsTo step_of_ok hsweep
  have hok₁ : ReadsOk sampleRouter
      (.recv (sampleFrame (sampleIp 0 2) (sampleIp 1 2) 1 20) (sampleName 0)) := by
    intro _ _
    refine ⟨fun _ _ => sendOk_of_empty rfl _ _ _, fun _ => ⟨fun _ _ => ⟨by decide, ?_⟩, fun _ => ?_⟩⟩
    · exact sendOk_of_empty rfl _ _ _
    · exact sendOk_of_empty rfl _ _ _
  have hok₂ : ReadsOk s₁ .sweep := fun r hr hx => absurd hx (hexp r hr)
  have hrun : Run CarefulStep sampleRouter _ s₂ := .cons ⟨hok₁, hst₁⟩ (.single ⟨hok₂, hst₂⟩)
  exact ⟨s₂, hrun, of_decide_eq_true hs₂, packet_reads_in_bounds hrun⟩

/-- A frame of 38 bytes whose TTL is 1: the error quotes 4 bytes behind its end. -/
theorem packet_read_past_end :
    ∃ s, Run Step sampleRouter
        [.recv (sampleFrame (sampleIp 0 2) (sampleIp 1 2) 1 4) (sampleName 0)] s ∧
      ∃ ρ ∈ s.reads, ρ = ⟨14, 28, 38⟩ ∧ ¬ ρ.InBounds := by
  obtain ⟨s, hrun, hs⟩ := exists_run_of_leadsTo step_of_ok
    (show leadsTo (step 9) sampleRouter
      [.recv (sampleFrame (sampleIp 0 2) (sampleIp 1 2) 1 4) (sampleName 0)]
      (fun s => ⟨14, 28, 38⟩ ∈ s.reads) by decide +kernel)
  exact ⟨s, hrun, _, of_decide_eq_true hs, rfl, by decide⟩

end SimpleRouter
