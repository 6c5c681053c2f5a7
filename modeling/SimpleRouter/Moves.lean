/-
The router as a machine with an explicit stack.

A configuration consists of the state, the request that is to be handled next,
if any, and the stack of requests being given up, each with those of its packets
that have been dealt with.  `Move` lists what can happen between two
configurations, and `Step.moves` says that every step of the router is a sequence
of moves that starts and ends with an empty stack.  An invariant of the router is
proved by looking at the moves, one case each; the recursion of `handle_arpreq`
and the order of the checks do not come up again.
-/
import SimpleRouter.Receive

namespace SimpleRouter

open Bytes CString Runs Relation

/-- The state, the request to be handled next, and the stack. -/
structure Config where
  stack : List (ReqId × List SrPacket)
  due : Option ReqId
  router : Router

/-- The requests that are being given up. -/
def Config.active (c : Config) : List ReqId := c.stack.map Prod.fst

/-- A configuration in which no call is active. -/
def Config.rest (s : Router) : Config := ⟨[], none, s⟩

variable {s s' : Router} {id nid : ReqId} {req : SrArpreq} {pkt : SrPacket}
  {S : List (ReqId × List SrPacket)} {d : Option ReqId} {e : Event}

/-- The event is an ARP reply that gives the hardware address `mac` for `ip`. -/
def Event.Replies (s : Router) (ip : Ip) (mac : Mac) : Event → Prop
  | .recv packet interface =>
      ethertype packet = ethertypeArp ∧ ArpReply s packet interface ∧
        arSip (slice packet 14 28) = ip ∧ arSha (slice packet 14 28) = mac
  | _ => False

lemma Event.Replies.congr {ip : Ip} {mac : Mac} (h : e.Replies s ip mac)
    (hifs : s'.ifList = s.ifList) : e.Replies s' ip mac := by
  cases e with
  | recv packet interface =>
      obtain ⟨htype, ⟨hlen, hhrd, hpro, hop, hiface⟩, hip, hmac⟩ := h
      exact ⟨htype, ⟨hlen, hhrd, hpro, hop, by rw [hifs]; exact hiface⟩, hip, hmac⟩
  | _ => exact h

/-- The reply of the sample network gives the address it is made with. -/
lemma sampleReply_replies (hifs : s.ifList = sampleIfs) :
    (Event.recv (sampleReply (sampleIp 1 2) ⟨2, 0, 0, 0, 9, 9⟩) (sampleName 1)).Replies s
      (sampleIp 1 2) ⟨2, 0, 0, 0, 9, 9⟩ := by
  refine ⟨by decide +kernel, ⟨by decide +kernel, by decide +kernel, by decide +kernel,
    by decide +kernel, ?_⟩, by decide +kernel, by decide +kernel⟩
  rw [hifs]
  decide +kernel

/-- One move in the course of an event. -/
inductive Move (e : Event) : Config → Config → Prop
  /-- Frames are read inside their bounds. -/
  | quiet {S : List (ReqId × List SrPacket)} {d : Option ReqId} {s s' : Router} (hq : Quiet s s') :
      Move e ⟨S, d, s⟩ ⟨S, d, s'⟩
  /-- `send_icmp_error` is called for a frame that arrived. -/
  | complain {s : Router} {type code : UInt8} (htc : type = 11 ∨ type = 3 ∧ code = 0) :
      Move e (.rest s) (.rest (s.emit (.icmpError type code .arrival)))
  /-- The frame that arrived is quoted. -/
  | quote {s : Router} {orig : Frame} (hl : 34 ≤ orig.length) :
      Move e (.rest s) (.rest (s.noteRead orig 14 28))
  /-- An ARP request is answered. -/
  | answer {s : Router} {arp name : List UInt8} {i : SrIf}
      (hi : srGetInterface s.ifList name = some i) :
      Move e (.rest s) (.rest (sendArpReply s arp i))
  /-- The cache changes. -/
  | cache {s : Router} {entries : List SrArpentry} :
      Move e (.rest s) (.rest { s with entries := entries })
  /-- The packets of a request are sent off. -/
  | drain {s s' : Router} {req : SrArpreq} {mac : Mac} (hr : e.Replies s req.ip mac)
      (hf : s.findReq req.id = some req)
      (hcore : s'.core = (srArpreqDestroy (learn s mac req.ip) req.id).core)
      (htrace : s'.trace = s.trace ++
        (req.packets.filter fun p => 14 ≤ p.buf.length).map (drainObs s mac req.ip))
      (hreads : ∀ r ∈ s'.reads, r ∈ s.reads ∨ r.InBounds) :
      Move e (.rest s) (.rest s')
  /-- The clock moves on. -/
  | tick {s : Router} {d : ℕ} : Move e (.rest s) (.rest { s with now := s.now + d })
  /-- The sweep gets to a request. -/
  | sweep {s : Router} {id : ReqId} (hf : (s.findReq id).isSome) :
      Move e (.rest s) ⟨[], some id, s.emit (.swept id)⟩
  /-- A frame is queued under its next hop. -/
  | queue {S : List (ReqId × List SrPacket)} {s s' : Router} {frame : Frame} {rt : SrRt} {i : SrIf}
      {nid : ReqId} (hlen : 34 ≤ frame.length) (hroute : lookupRoute s (ip32 frame 30) = some (rt, i))
      (hq : Queues (s.emit (.accepted (nextHop rt (ip32 frame 30)) (routedPacket s frame i)))
        (nextHop rt (ip32 frame 30)) (routedPacket s frame i) s' nid)
      (hnid : nid ∉ S.map Prod.fst) : Move e ⟨S, none, s⟩ ⟨S, some nid, s'⟩
  /-- Less than a second has passed. -/
  | idle {S : List (ReqId × List SrPacket)} {s : Router} {id : ReqId} {req : SrArpreq}
      (hf : s.findReq id = some req) (ht : s.now - req.sent < 1) : Move e ⟨S, some id, s⟩ ⟨S, none, s⟩
  /-- Another ARP request is broadcast. -/
  | retry {S : List (ReqId × List SrPacket)} {s : Router} {id : ReqId} {req : SrArpreq}
      (hf : s.findReq id = some req) (ht : 1 ≤ s.now - req.sent) (hn : req.timesSent < 5)
      (hid : id ∉ S.map Prod.fst) : Move e ⟨S, some id, s⟩ ⟨S, none, retryArp s req⟩
  /-- A request begins to be given up. -/
  | start {S : List (ReqId × List SrPacket)} {s : Router} {id : ReqId} {req : SrArpreq}
      (hf : s.findReq id = some req) (hx : Expired s.now req) (hid : id ∉ S.map Prod.fst) :
      Move e ⟨S, some id, s⟩ ⟨(id, []) :: S, none, s⟩
  /-- A packet without an IP header is skipped. -/
  | skip {S : List (ReqId × List SrPacket)} {s : Router} {id : ReqId} {req : SrArpreq}
      {done rest : List SrPacket} {pkt : SrPacket} (hf : s.findReq id = some req)
      (hpk : req.packets = done ++ pkt :: rest) (hl : pkt.buf.length < 34) :
      Move e ⟨(id, done) :: S, none, s⟩ ⟨(id, done ++ [pkt]) :: S, none, s⟩
  /-- `send_icmp_error` is called for a packet. -/
  | report {S : List (ReqId × List SrPacket)} {s : Router} {id : ReqId} {req : SrArpreq}
      {done rest : List SrPacket} {pkt : SrPacket} (hf : s.findReq id = some req)
      (hx : Expired s.now req) (hpk : req.packets = done ++ pkt :: rest)
      (hl : 34 ≤ pkt.buf.length) :
      Move e ⟨(id, done) :: S, none, s⟩
        ⟨(id, done ++ [pkt]) :: S, none, s.emit (.icmpError 3 1 (.giveUp id pkt.fid))⟩
  /-- A packet that has a way back is quoted. -/
  | quoteQueued {S : List (ReqId × List SrPacket)} {s : Router} {id : ReqId} {req : SrArpreq}
      {done : List SrPacket} {pkt : SrPacket} (hf : s.findReq id = some req)
      (hx : Expired s.now req) (hpk : pkt ∈ req.packets) (hsrc : returnSource s pkt.src ≠ 0) :
      Move e ⟨(id, done) :: S, none, s⟩ ⟨(id, done) :: S, none, s.noteRead pkt.buf 14 28⟩
  /-- A request all of whose packets have been dealt with is destroyed. -/
  | destroy {S : List (ReqId × List SrPacket)} {s : Router} {id : ReqId} {req : SrArpreq}
      (hf : s.findReq id = some req) (hx : Expired s.now req) :
      Move e ⟨(id, req.packets) :: S, none, s⟩ ⟨S, none, srArpreqDestroy s id⟩

/-- Any number of moves. -/
abbrev Moves (e : Event) : Config → Config → Prop := ReflTransGen (Move e)

lemma Moves.quiet (hq : Quiet s s') : Moves e ⟨S, d, s⟩ ⟨S, d, s'⟩ := .single (.quiet hq)

/-! ### The recursion as moves -/

/-- What the induction on a derivation says: the moves start and end with the
same stack, but for the packets dealt with in a loop. -/
def Call.Moves (e : Event) (S : List (ReqId × List SrPacket)) (s s' : Router) : Call → Prop
  | .handle id => SimpleRouter.Moves e ⟨S, some id, s⟩ ⟨S, none, s'⟩
  | .giveUp id pkts => ∀ done req, s.findReq id = some req → Expired s.now req →
      req.packets = done ++ pkts →
      SimpleRouter.Moves e ⟨(id, done) :: S, none, s⟩ ⟨(id, req.packets) :: S, none, s'⟩

/-- The stack a derivation leaves alone, as identities. -/
def Call.stack (S : List (ReqId × List SrPacket)) : Call → List ReqId
  | .handle _ => S.map Prod.fst
  | .giveUp id _ => id :: S.map Prod.fst

lemma noted_quiet (hl : 34 ≤ pkt.buf.length) :
    Quiet (s.emit (.icmpError 3 1 (.giveUp id pkt.fid))) (noted s id pkt) :=
  .noteRead _ _ _ _ hl

theorem Tidy.moves {A : List ReqId} {c : Call} (h : Tidy A c s s') (hA : c.stack S = A) :
    c.Moves e S s s' := by
  induction h generalizing S with
  | idle hw hf ht => exact .single (.idle hf ht)
  | retry hw hf ht hn hid =>
      subst hA
      exact .single (.retry hf ht hn hid)
  | @expire A s s' id req hw hf hx hid hloop ih =>
      subst hA
      have hloop' := ih (S := S) rfl [] req hf hx rfl
      have hf' : s'.findReq id = some req := (hloop.findReq_of_mem (by simp)).trans hf
      have hx' : Expired s'.now req := by
        rw [hloop.sameEnv.now]
        exact hx
      exact (ReflTransGen.single (.start hf hx hid)).trans (hloop'.tail (.destroy hf' hx'))
  | done hw =>
      intro done req hf hx hpk
      rw [hpk, List.append_nil]
  | @short A s s' id pkt rest hw hl _ ih =>
      intro done req hf hx hpk
      refine .head (.skip hf hpk hl) (ih hA (done ++ [pkt]) req hf hx ?_)
      rw [hpk, List.append_assoc, List.singleton_append]
  | @mute A s s' id pkt rest hw hl hsrc _ ih =>
      intro done req hf hx hpk
      refine .head (.report hf hx hpk hl) (.head (.quiet (noted_quiet hl)) ?_)
      refine ih hA (done ++ [pkt]) req ?_ hx ?_
      · rw [findReq_of_core noted_core, hf]
      · rw [hpk, List.append_assoc, List.singleton_append]
  | @report A s s₁ s₂ s' id nid pkt rest hw hl hsrc hq hnid hcall hrest ih₁ ih₂ =>
      intro done req hf hx hpk
      subst hA
      -- the request that is given up is not touched by the nested call
      obtain ⟨rt, i, hroute, -, hqs⟩ := report_queues hw hsrc hq
      have hid : id ∈ id :: S.map Prod.fst := by simp
      have hne : id ≠ nid := fun h => hnid (h ▸ hid)
      have he₁ := (report_sameEnv hw hsrc hq).1
      have hf₂ : s₂.findReq id = some req := by
        rw [hcall.findReq_of_mem hid, report_findReq_of_ne hw hsrc hq hne, hf]
      have hx₂ : Expired s₂.now req := by
        rw [(he₁.trans hcall.sameEnv).now]
        exact hx
      refine .head (.report hf hx hpk hl) (.head (.quiet (noted_quiet hl)) ?_)
      have hfn : (noted s id pkt).findReq id = some req := by
        rw [findReq_of_core noted_core, hf]
      have hmem : pkt ∈ req.packets := by
        rw [hpk]
        simp
      have hsrcn : returnSource (noted s id pkt) pkt.src ≠ 0 := by
        rw [(SameEnv.of_core noted_core).returnSource]
        exact hsrc
      refine .head (.quoteQueued hfn hx hmem hsrcn) ?_
      -- the error is routed and queued, and the request it is queued on is handled
      have hlen : 34 ≤ (unreachableFrame s id pkt).length := by
        rw [length_unreachableFrame]
        omega
      have hdst : ip32 (unreachableFrame s id pkt) 30 = pkt.src := ip32_icmpErrorFrame_dst
      have hroute' : lookupRoute ((quoted s id pkt).noteRead (unreachableFrame s id pkt) 14 20)
          (ip32 (unreachableFrame s id pkt) 30) = some (rt, i) := by
        rw [hdst, (SameEnv.of_core (core_noteRead _ _ _ _)).lookupRoute,
          (SameEnv.of_core quoted_core).lookupRoute, hroute]
      rw [← hdst] at hqs
      refine .head (.quiet (.noteRead (quoted s id pkt) _ 14 20 hlen)) ?_
      refine .head (.queue hlen hroute' hqs hnid) ?_
      refine (ih₁ (S := (id, done ++ [pkt]) :: S) rfl).trans ?_
      refine ih₂ rfl (done ++ [pkt]) req hf₂ hx₂ ?_
      rw [hpk, List.append_assoc, List.singleton_append]

/-! ### Events as moves -/

variable {c c' : Config}

/-- Every move keeps the queue well formed. -/
lemma Move.wf (h : Move e c c') (hw : WF c.router) : WF c'.router := by
  cases h with
  | quiet hq => exact hq.wf hw
  | complain => exact hw.emit _
  | quote => exact hw.noteRead _ _ _
  | answer hi => exact hw.of_core (srSendPacket_core _ _ _ _)
  | cache => exact hw.congr rfl rfl
  | @drain s s' req mac hr hf hcore =>
      have hlearn : WF (learn s mac req.ip) := hw.congr rfl rfl
      exact WF.of_core hcore hlearn.srArpreqDestroy
  | tick => exact hw.congr rfl rfl
  | sweep hf => exact hw.emit _
  | queue hlen hroute hq hnid => exact hq.wf (hw.emit _)
  | idle hf ht => exact hw
  | retry hf ht hn hid => exact hw.retryArp _
  | start hf hx hid => exact hw
  | skip hf hpk hl => exact hw
  | report hf hx hpk hl => exact hw.emit _
  | quoteQueued hf hx hpk hsrc => exact hw.noteRead _ _ _
  | destroy hf hx => exact hw.srArpreqDestroy

/-- What every move preserves, every sequence of moves preserves. -/
lemma Moves.invariant {I : Config → Prop} (h : Moves e c c')
    (hmove : ∀ c c', WF c.router → Move e c c' → I c → I c') (hw : WF c.router) (hc : I c) :
    WF c'.router ∧ I c' := by
  induction h with
  | refl => exact ⟨hw, hc⟩
  | tail _ hm ih => exact ⟨hm.wf ih.1, hmove _ _ ih.1 hm ih.2⟩

lemma Moves.wf (h : Moves e c c') (hw : WF c.router) : WF c'.router :=
  (h.invariant (I := fun _ => True) (fun _ _ _ _ _ => trivial) hw trivial).1

variable {fuel : ℕ} {frame : Frame} {rc : ℤ}

lemma routeAndSend_moves (hw : WF s)
    (h : routeAndSend (handleArpreq fuel) s frame = .ok (rc, s')) : Moves e (.rest s) (.rest s') := by
  rcases routeAndSend_cases hw h with
    ⟨-, rfl⟩ | ⟨hlen, -, rfl⟩ | ⟨hlen, rt, i, s₁, nid, hroute, hqs, hcall⟩
  · exact .refl
  · exact .quiet (.noteRead s _ _ _ hlen)
  · have hw₁ : WF s₁ := hqs.wf ((hw.noteRead _ _ _).emit _)
    refine .head (.quiet (.noteRead s frame 14 20 hlen)) ?_
    refine .head (.queue hlen ?_ hqs (by simp)) ?_
    · exact hroute
    · exact (tidy_of_handleArpreq hw₁ hcall).moves (S := []) rfl

lemma sendIcmpError_moves {type code : UInt8} {orig : Frame} {srcIp : Ip} (hw : WF s)
    (htc : type = 11 ∨ type = 3 ∧ code = 0) (hl : 34 ≤ orig.length)
    (h : sendIcmpError (handleArpreq fuel) s .arrival type code orig srcIp = .ok s') :
    Moves e (.rest s) (.rest s') := by
  have hread := Quiet.noteRead (s.emit (.icmpError type code .arrival)) orig 14 20 hl
  refine .head (.complain htc) (.head (.quiet hread) ?_)
  rcases sendIcmpError_cases hl h with ⟨-, rfl⟩ | ⟨-, rc, hsend⟩
  · exact .refl
  · refine .head (.quote hl) ?_
    exact routeAndSend_moves (((hw.emit _).noteRead _ _ _).noteRead _ _ _) hsend

lemma IpOutcome.moves {packet : Frame} {interface : List UInt8} (hw : WF s)
    (h : IpOutcome (handleArpreq fuel) s packet interface s') : Moves e (.rest s) (.rest s') := by
  cases h with
  | dropped hq hno => exact .quiet hq
  | echoed hq hv hus hecho hsend => exact .head (.quiet hq) (routeAndSend_moves (hq.wf hw) hsend)
  | expired hq ht httl herr =>
      exact .head (.quiet hq)
        (sendIcmpError_moves (hq.wf hw) (Or.inl rfl) ht.valid.len herr)
  | forwarded hq ht httl hsend => exact .head (.quiet hq) (routeAndSend_moves (hq.wf hw) hsend)
  | unroutable hq ht httl hno herr =>
      exact .head (.quiet hq)
        (sendIcmpError_moves (hq.wf hw) (Or.inr ⟨rfl, rfl⟩) ht.valid.len herr)

lemma core_learn (s : Router) (mac : Mac) (ip : Ip) :
    (learn s mac ip).core = learn s.core mac ip :=
  rfl

lemma ArpOutcome.moves {packet : Frame} {interface : List UInt8}
    (htype : ethertype packet = ethertypeArp) (h : ArpOutcome s packet interface s') :
    Moves (.recv packet interface) (.rest s) (.rest s') := by
  cases h with
  | ignored hq hno => exact .quiet hq
  | answered hq hno hr =>
      exact .head (.quiet hq) (.single (.answer (hq.sameEnv.ifList ▸ hr.iface)))
  | learned hq hr hnone => exact .head (.quiet hq) (.single .cache)
  | @drained s₁ s' req hq hr hf hip hcore htrace hreads =>
      rw [← hip] at hcore htrace
      refine .single (.drain ⟨htype, hr, hip.symm, rfl⟩ hf ?_ htrace hreads)
      rw [hcore, core_srArpreqDestroy, core_srArpreqDestroy, core_learn, core_learn, hq.core]

lemma Outcome.moves {packet : Frame} {interface : List UInt8} (hw : WF s)
    (h : Outcome (handleArpreq fuel) s packet interface s') :
    Moves (.recv packet interface) (.rest s) (.rest s') := by
  cases h with
  | ignored hq hno => exact .quiet hq
  | arp htype hq h => exact .head (.quiet hq) (h.moves htype)
  | ip htype h => exact h.moves hw

lemma nextReq_isSome_iff {l : List SrArpreq} :
    (nextReq l id).isSome ↔ ∃ r ∈ l, r.id = id := by
  induction l with
  | nil => simp [nextReq]
  | cons r l ih =>
      rw [nextReq]
      split_ifs with hr
      · simp [hr]
      · simp [ih, hr]

lemma findReq_isSome_of_nextReq {next : Option ReqId} (h : nextReq s.requests id = some next) :
    (s.findReq id).isSome := by
  obtain ⟨r, hr, hid⟩ := nextReq_isSome_iff.1 (by rw [h]; rfl)
  rw [Option.isSome_iff_ne_none, Ne, findReq_eq_none_iff]
  push Not
  exact ⟨r, hr, hid⟩

/-- A walk that returns is at its end, or handles a request and goes on with the one that
was behind it before. -/
lemma sweepFrom_cases {handle : Router → ReqId → Except Fault Router} {n : ℕ}
    {cur : Option ReqId} (h : sweepFrom handle n s cur = .ok s') :
    (cur = none ∧ s' = s) ∨ ∃ m id next s₁, n = m + 1 ∧ cur = some id ∧
      nextReq s.requests id = some next ∧ handle (s.emit (.swept id)) id = .ok s₁ ∧
      sweepFrom handle m s₁ next = .ok s' := by
  cases cur with
  | none =>
      rw [sweepFrom, Except.ok.injEq] at h
      exact Or.inl ⟨rfl, h.symm⟩
  | some id =>
      cases n with
      | zero => simp [sweepFrom] at h
      | succ m =>
          rw [sweepFrom] at h
          cases hnext : nextReq s.requests id with
          | none => simp [hnext] at h
          | some next =>
              simp only [hnext, bind_eq_ok] at h
              obtain ⟨s₁, hcall, hrest⟩ := h
              exact Or.inr ⟨m, id, next, s₁, rfl, rfl, hnext, hcall, hrest⟩

lemma sweepFrom_moves {n : ℕ} {cur : Option ReqId} (hw : WF s)
    (h : sweepFrom (handleArpreq fuel) n s cur = .ok s') : Moves e (.rest s) (.rest s') := by
  induction n generalizing s cur with
  | zero =>
      rcases sweepFrom_cases h with ⟨-, rfl⟩ | ⟨m, id, next, s₁, hn, -⟩
      · exact .refl
      · omega
  | succ n ih =>
      rcases sweepFrom_cases h with ⟨-, rfl⟩ | ⟨m, id, next, s₁, hn, -, hnext, hcall, hrest⟩
      · exact .refl
      · obtain rfl : n = m := by omega
        have htidy := tidy_of_handleArpreq (hw.emit _) hcall
        refine .head (.sweep (findReq_isSome_of_nextReq hnext)) ?_
        exact (htidy.moves (S := []) rfl).trans (ih htidy.wf hrest)

lemma Step.exists_call {packet : Frame} {interface : List UInt8}
    (h : Step s (.recv packet interface) s') :
    ∃ fuel buf, srHandlepacket fuel s packet interface = .ok (s', buf) := by
  obtain ⟨fuel, h⟩ := h
  rw [step, map_eq_ok] at h
  obtain ⟨⟨s₁, buf⟩, hcall, rfl⟩ := h
  exact ⟨fuel, buf, hcall⟩

lemma Step.outcome {packet : Frame} {interface : List UInt8} (hw : WF s)
    (h : Step s (.recv packet interface) s') :
    ∃ fuel, Outcome (handleArpreq fuel) s packet interface s' := by
  obtain ⟨fuel, buf, hcall⟩ := h.exists_call
  exact ⟨fuel, (srHandlepacket_outcome hw hcall).1⟩

/-- Every step is a sequence of moves, from rest to rest. -/
theorem Step.moves (hw : WF s) (h : Step s e s') : Moves e (.rest s) (.rest s') := by
  cases e with
  | recv packet interface =>
      obtain ⟨fuel, hout⟩ := h.outcome hw
      exact hout.moves hw
  | sweep =>
      obtain ⟨fuel, h⟩ := h
      rw [step, srArpcacheTimeout, srArpcacheSweepreqs] at h
      have hw₁ : WF (expireEntries s) := hw.congr rfl rfl
      exact .head .cache (sweepFrom_moves hw₁ h)
  | tick d =>
      obtain ⟨fuel, h⟩ := h
      rw [step, Except.ok.injEq] at h
      subst h
      exact .single .tick

/-- The queue is well formed before the first event. -/
lemma wf_init (ifs : List SrIf) (rt : List SrRt) (now : ℕ) (junk : ℕ → ℕ → UInt8) :
    WF (Router.init ifs rt now junk) :=
  ⟨List.nodup_nil, List.nodup_nil, by simp [Router.init]⟩

/-- What holds at the start and is preserved by every move holds between any two
events of a run. -/
theorem run_invariant {I : Config → Prop} {es : List Event} (h : Run Step s es s') (hw : WF s)
    (hmove : ∀ e c c', WF c.router → Move e c c' → I c → I c') (hs : I (.rest s)) :
    WF s' ∧ I (.rest s') := by
  refine h.invariant (I := fun s => WF s ∧ I (.rest s)) ?_ ⟨hw, hs⟩
  rintro s e t - ⟨hw, hs⟩ hst
  exact (hst.moves hw).invariant (hmove e) hw hs

end SimpleRouter
