/-
What a move changes: `Later` about interfaces, routes and clock, `Kind` and
`ReqChange` about pending requests, and `Emitted` about the trace.

Only two moves add anything to the queue or to the broadcasts, so that an
invariant about requests needs three cases; an invariant about observations
needs one for each case of `Emitted`.
-/
import SimpleRouter.Moves

namespace SimpleRouter

open Bytes CString Runs

variable {s s' : Router} {c c' : Config} {id a : ReqId} {req r r' : SrArpreq} {pkt : SrPacket}
  {e : Event}

/-! ### Interfaces, routes and clock -/

/-- Moves leave interfaces and routes alone, and the clock does not go back. -/
structure Later (s s' : Router) : Prop where
  ifList : s'.ifList = s.ifList
  routingTable : s'.routingTable = s.routingTable
  now : s.now ≤ s'.now

lemma SameEnv.later (h : SameEnv s s') : Later s s' := ⟨h.ifList, h.routingTable, h.now.ge⟩

lemma Later.trans {s₁ s₂ s₃ : Router} (h : Later s₁ s₂) (h' : Later s₂ s₃) : Later s₁ s₃ :=
  ⟨h'.ifList.trans h.ifList, h'.routingTable.trans h.routingTable, h.now.trans h'.now⟩

lemma Later.of_drain {mac : Mac} {ip : Ip}
    (hcore : s'.core = (srArpreqDestroy (learn s mac ip) id).core) : Later s s' :=
  ⟨(ifList_of_core hcore :), (routingTable_of_core hcore :), (now_of_core hcore).ge⟩

theorem Move.later (h : Move e c c') : Later c.router c'.router := by
  cases h with
  | quiet hq => exact hq.sameEnv.later
  | complain => exact ⟨rfl, rfl, le_rfl⟩
  | quote => exact ⟨rfl, rfl, le_rfl⟩
  | answer hi => exact (SameEnv.of_core (sendArpReply_core _ _ _)).later
  | cache => exact ⟨rfl, rfl, le_rfl⟩
  | drain hr hf hcore => exact .of_drain hcore
  | tick => exact ⟨rfl, rfl, Nat.le_add_right _ _⟩
  | sweep hf => exact ⟨rfl, rfl, le_rfl⟩
  | queue hlen hroute hq hnid => exact ⟨hq.ifList, hq.routingTable, hq.now.ge⟩
  | idle hf ht => exact ⟨rfl, rfl, le_rfl⟩
  | retry hf ht hn hid => exact (SameEnv.retry _ _).later
  | start hf hx hid => exact ⟨rfl, rfl, le_rfl⟩
  | skip hf hpk hl => exact ⟨rfl, rfl, le_rfl⟩
  | report hf hx hpk hl => exact ⟨rfl, rfl, le_rfl⟩
  | quoteQueued hf hx hpk hsrc => exact ⟨rfl, rfl, le_rfl⟩
  | destroy hf hx => exact ⟨rfl, rfl, le_rfl⟩

/-- No event touches the interfaces or the routes. -/
lemma Step.later (h : Step s e s') (hw : WF s) : WF s' ∧ Later s s' :=
  (h.moves hw).invariant (I := fun c => Later s c.router) (fun _ _ _ hm hc => hc.trans hm.later) hw
    (SameEnv.refl s).later

/-! ### Requests -/

/-- The observation is a broadcast for the request `id`. -/
def Obs.isBroadcast (id : ReqId) : Obs → Bool
  | .sent (.arpRequest id' _) _ _ _ => id' = id
  | _ => false

/-- A move that neither queues a frame nor broadcasts: records stay as they are
or go, and those of active requests go only with the request. -/
structure Plain (c c' : Config) : Prop where
  findReq : ∀ a r, c'.router.findReq a = some r → c.router.findReq a = some r
  active : ∀ a ∈ c.active, a ∈ c'.active ∨ c'.router.findReq a = none
  nextId : c'.router.nextId = c.router.nextId
  nextFid : c'.router.nextFid = c.router.nextFid
  trace : ∃ new, c'.router.trace = c.router.trace ++ new ∧
    ∀ o ∈ new, (∀ id, o.2.isBroadcast id = false) ∧ ∀ hop p, o.2 ≠ .accepted hop p

/-- The moves that add to the queue and to the broadcasts, and the others. -/
inductive Kind : Config → Config → Prop
  | plain {c c' : Config} (h : Plain c c') : Kind c c'
  | queue {S : List (ReqId × List SrPacket)} {s s' : Router} {frame : Frame} {rt : SrRt} {i : SrIf}
      {nid : ReqId} (hlen : 34 ≤ frame.length) (hroute : lookupRoute s (ip32 frame 30) = some (rt, i))
      (hq : Queues (s.emit (.accepted (nextHop rt (ip32 frame 30)) (routedPacket s frame i)))
        (nextHop rt (ip32 frame 30)) (routedPacket s frame i) s' nid)
      (hnid : nid ∉ S.map Prod.fst) : Kind ⟨S, none, s⟩ ⟨S, some nid, s'⟩
  | retry {S : List (ReqId × List SrPacket)} {s : Router} {id : ReqId} {req : SrArpreq}
      (hf : s.findReq id = some req) (ht : 1 ≤ s.now - req.sent) (hn : req.timesSent < 5)
      (hid : id ∉ S.map Prod.fst) : Kind ⟨S, some id, s⟩ ⟨S, none, retryArp s req⟩

/-- Nothing about the queue changes, and the trace at most by one observation
that is not a broadcast. -/
lemma Plain.of_requests (hr : c'.router.requests = c.router.requests)
    (hn : c'.router.nextId = c.router.nextId) (hfid : c'.router.nextFid = c.router.nextFid)
    (ha : ∀ a ∈ c.active, a ∈ c'.active) {new : List (ℕ × Obs)}
    (ht : c'.router.trace = c.router.trace ++ new)
    (hnew : ∀ o ∈ new, (∀ id, o.2.isBroadcast id = false) ∧ ∀ hop p, o.2 ≠ .accepted hop p) :
    Plain c c' := by
  refine ⟨?_, fun a h => Or.inl (ha a h), hn, hfid, new, ht, hnew⟩
  intro a r hf
  rw [Router.findReq, ← hr]
  exact hf

lemma Plain.of_requests_of_trace (hr : c'.router.requests = c.router.requests)
    (hn : c'.router.nextId = c.router.nextId) (hfid : c'.router.nextFid = c.router.nextFid)
    (ha : ∀ a ∈ c.active, a ∈ c'.active) (ht : c'.router.trace = c.router.trace) : Plain c c' :=
  .of_requests hr hn hfid ha (ht.trans (List.append_nil _).symm) (by simp)

lemma findReq_of_destroy (h : (srArpreqDestroy s id).findReq a = some r) :
    s.findReq a = some r := by
  rw [findReq_srArpreqDestroy] at h
  split_ifs at h
  exact h

theorem Move.kind (h : Move e c c') : Kind c c' := by
  cases h with
  | quiet hq =>
      exact .plain (.of_requests_of_trace (requests_of_core hq.core) (nextId_of_core hq.core)
        (nextFid_of_core hq.core) (fun _ h => h) hq.trace)
  | complain => exact .plain (.of_requests rfl rfl rfl (fun _ h => h) rfl (by simp [Obs.isBroadcast]))
  | quote => exact .plain (.of_requests_of_trace rfl rfl rfl (fun _ h => h) rfl)
  | @answer s arp name i hi =>
      have hcore : (sendArpReply s arp i).core = s.core := sendArpReply_core s arp i
      exact .plain (.of_requests (requests_of_core hcore) (nextId_of_core hcore)
        (nextFid_of_core hcore) (fun _ h => h) (srSendPacket_trace _ _ _ _) (by simp [Obs.isBroadcast]))
  | cache => exact .plain (.of_requests_of_trace rfl rfl rfl (fun _ h => h) rfl)
  | @drain s s' req mac hr hf hcore htrace hreads =>
      refine .plain ⟨?_, fun a h => absurd h (by simp [Config.active, Config.rest]),
        (nextId_of_core hcore :), (nextFid_of_core hcore :), _, htrace, ?_⟩
      · intro a r hf'
        have hdestroy : (srArpreqDestroy (learn s mac req.ip) req.id).findReq a = some r :=
          (findReq_of_core hcore a).symm.trans hf'
        exact findReq_of_destroy hdestroy
      · intro o ho
        obtain ⟨p, -, rfl⟩ := List.mem_map.1 ho
        exact ⟨fun id => rfl, fun hop q h => nomatch h⟩
  | tick => exact .plain (.of_requests_of_trace rfl rfl rfl (fun _ h => h) rfl)
  | sweep hf => exact .plain (.of_requests rfl rfl rfl (fun _ h => h) rfl (by simp [Obs.isBroadcast]))
  | queue hlen hroute hq hnid => exact .queue hlen hroute hq hnid
  | idle hf ht => exact .plain (.of_requests_of_trace rfl rfl rfl (fun _ h => h) rfl)
  | retry hf ht hn hid => exact .retry hf ht hn hid
  | start hf hx hid =>
      exact .plain (.of_requests_of_trace rfl rfl rfl (fun _ h => List.mem_cons_of_mem _ h) rfl)
  | skip hf hpk hl => exact .plain (.of_requests_of_trace rfl rfl rfl (fun _ h => h) rfl)
  | report hf hx hpk hl =>
      exact .plain (.of_requests rfl rfl rfl (fun _ h => h) rfl (by simp [Obs.isBroadcast]))
  | quoteQueued hf hx hpk hsrc => exact .plain (.of_requests_of_trace rfl rfl rfl (fun _ h => h) rfl)
  | @destroy S s id req hf hx =>
      -- a request leaves the stack of calls when it is destroyed
      refine .plain ⟨fun a r hf' => findReq_of_destroy hf', ?_, rfl, rfl, [], by simp, by simp⟩
      intro a ha
      by_cases haid : a = id
      · right
        change (srArpreqDestroy s id).findReq a = none
        rw [findReq_srArpreqDestroy, if_pos haid]
      · left
        exact (List.mem_cons.1 ha).resolve_left haid

/-- Where the record of a request comes from after a move. -/
inductive ReqChange (c c' : Config) (a : ReqId) (r' : SrArpreq) : Prop
  /-- It is as before. -/
  | same (hf : c.router.findReq a = some r')
  /-- A packet was put on its list, and it is handled next. -/
  | pushed {frame : Frame} {rt : SrRt} {i : SrIf} {req : SrArpreq} (hlen : 34 ≤ frame.length)
      (hroute : lookupRoute c.router (ip32 frame 30) = some (rt, i))
      (hip : req.ip = nextHop rt (ip32 frame 30))
      (hreq : c.router.findReq a = some req ∨
        a = c.router.nextId ∧ req = ⟨a, nextHop rt (ip32 frame 30), 0, 0, []⟩)
      (hr' : r' = req.push (routedPacket c.router frame i)) (hdue : c'.due = some a)
      (hacc : (c.router.now, .accepted req.ip (routedPacket c.router frame i)) ∈ c'.router.trace)
  /-- It was broadcast once more. -/
  | bumped {req : SrArpreq} (hf : c.router.findReq a = some req)
      (ht : 1 ≤ c.router.now - req.sent) (hn : req.timesSent < 5)
      (hr' : r' = bump c.router.now req)

theorem Move.reqChange (h : Move e c c') (hf' : c'.router.findReq a = some r') :
    ReqChange c c' a r' := by
  cases h.kind with
  | plain h => exact .same (h.findReq a r' hf')
  | @queue S s s' frame rt i nid hlen hroute hq hnid =>
      by_cases ha : a = nid
      · subst ha
        obtain ⟨req, hreq, hip, -, hold⟩ := hq.findReq_self
        obtain rfl : req.push (routedPacket s frame i) = r' :=
          Option.some_injective _ (hreq.symm.trans hf')
        refine .pushed hlen hroute hip ?_ rfl rfl ?_
        · rcases hold with hold | ⟨hnew, -, hreq⟩
          · exact Or.inl hold
          · exact Or.inr ⟨hnew, hreq⟩
        · change _ ∈ s'.trace
          rw [hq.trace, hip]
          simp
      · exact .same ((hq.findReq_of_ne ha).symm.trans hf')
  | @retry S s id req hf ht hn hid =>
      have h : (retryArp s req).findReq a = some r' := hf'
      rw [retryArp_findReq, id_of_findReq hf] at h
      split_ifs at h with ha
      · subst ha
        rw [hf, Option.map_some, Option.some.injEq] at h
        exact .bumped hf ht hn h.symm
      · exact .same h

/-! ### Observations -/

/-- The observations a move can add to the trace. -/
inductive Emitted (e : Event) (c : Config) : Obs → Prop
  | complain {type code : UInt8} (htc : type = 11 ∨ type = 3 ∧ code = 0) :
      Emitted e c (.icmpError type code .arrival)
  | answer {arp name : List UInt8} {i : SrIf} (hi : srGetInterface c.router.ifList name = some i) :
      Emitted e c (.sent .arpReply i.name (arpFrame (arSha arp) i 2 (arSha arp) (arSip arp))
        (sendVerdict c.router.ifList (arpFrame (arSha arp) i 2 (arSha arp) (arSip arp)) i.name))
  | drain {req : SrArpreq} {mac : Mac} {p : SrPacket} (hr : e.Replies c.router req.ip mac)
      (hf : c.router.findReq req.id = some req) (hp : p ∈ req.packets) :
      Emitted e c (drainObs c.router mac req.ip p).2
  | sweep {id : ReqId} : Emitted e c (.swept id)
  | accepted {frame : Frame} {rt : SrRt} {i : SrIf} (hlen : 34 ≤ frame.length)
      (hroute : lookupRoute c.router (ip32 frame 30) = some (rt, i)) :
      Emitted e c (.accepted (nextHop rt (ip32 frame 30)) (routedPacket c.router frame i))
  | retry {req : SrArpreq} {p : SrPacket} {i : SrIf} (hf : c.router.findReq req.id = some req)
      (hp : p ∈ req.packets) (hi : srGetInterface c.router.ifList p.iface = some i) :
      Emitted e c (.sent (.arpRequest req.id req.ip) i.name
        (arpFrame broadcastMac i 1 ⟨0, 0, 0, 0, 0, 0⟩ req.ip)
        (sendVerdict c.router.ifList (arpFrame broadcastMac i 1 ⟨0, 0, 0, 0, 0, 0⟩ req.ip) i.name))
  | report {req : SrArpreq} {p : SrPacket} (hf : c.router.findReq req.id = some req)
      (hx : Expired c.router.now req) (hp : p ∈ req.packets) (hact : req.id ∈ c.active) :
      Emitted e c (.icmpError 3 1 (.giveUp req.id p.fid))

/-- The trace only grows, by observations of the moment. -/
def Extends (e : Event) (c c' : Config) : Prop :=
  ∃ new, c'.router.trace = c.router.trace ++ new ∧
    ∀ o ∈ new, o.1 = c.router.now ∧ Emitted e c o.2

lemma Extends.of_eq (h : c'.router.trace = c.router.trace) : Extends e c c' :=
  ⟨[], by simp [h], by simp⟩

lemma Extends.of_one {o : Obs} (h : c'.router.trace = c.router.trace ++ [(c.router.now, o)])
    (ho : Emitted e c o) : Extends e c c' :=
  ⟨_, h, by simpa using ho⟩

lemma sendArpReply_trace (s : Router) (arp : List UInt8) (i : SrIf) :
    (sendArpReply s arp i).trace = s.trace ++
      [(s.now, .sent .arpReply i.name (arpFrame (arSha arp) i 2 (arSha arp) (arSip arp))
        (sendVerdict s.ifList (arpFrame (arSha arp) i 2 (arSha arp) (arSip arp)) i.name))] :=
  srSendPacket_trace _ _ _ _

lemma emitted_of_retryObs {S : List (ReqId × List SrPacket)} {d : Option ReqId}
    (hf : s.findReq req.id = some req) {o : ℕ × Obs} (ho : o ∈ retryObs s req) :
    o.1 = s.now ∧ Emitted e ⟨S, d, s⟩ o.2 := by
  obtain ⟨p, rest, i, hp, hi, rfl⟩ := of_mem_retryObs ho
  exact ⟨rfl, .retry (c := ⟨S, d, s⟩) hf (by simp [hp]) hi⟩

theorem Move.extends (h : Move e c c') : Extends e c c' := by
  cases h with
  | quiet hq => exact .of_eq hq.trace
  | complain htc => exact .of_one rfl (.complain htc)
  | quote => exact .of_eq rfl
  | answer hi => exact .of_one (sendArpReply_trace _ _ _) (.answer hi)
  | cache => exact .of_eq rfl
  | @drain s s' req mac hr hf hcore htrace hreads =>
      refine ⟨_, htrace, ?_⟩
      intro o ho
      obtain ⟨p, hp, rfl⟩ := List.mem_map.1 ho
      exact ⟨rfl, .drain (c := .rest s) hr hf (List.mem_filter.1 hp).1⟩
  | tick => exact .of_eq rfl
  | sweep hf => exact .of_one rfl .sweep
  | queue hlen hroute hq hnid => exact .of_one hq.trace (.accepted hlen hroute)
  | idle hf ht => exact .of_eq rfl
  | @retry S s id req hf ht hn hid =>
      obtain rfl := id_of_findReq hf
      exact ⟨_, retryArp_trace s req, fun o ho => emitted_of_retryObs hf ho⟩
  | start hf hx hid => exact .of_eq rfl
  | skip hf hpk hl => exact .of_eq rfl
  | @report S s id req done rest pkt hf hx hpk hl =>
      obtain rfl := id_of_findReq hf
      exact .of_one rfl (.report (c := ⟨_, _, s⟩) hf hx (by simp [hpk]) (by simp [Config.active]))
  | quoteQueued hf hx hpk hsrc => exact .of_eq rfl
  | destroy hf hx => exact .of_eq rfl

/-- Every observation added by a sequence of moves was added by one of them, in a
configuration that has the invariant. -/
theorem Moves.emitted {I : Config → Prop} (h : Moves e c c')
    (hmove : ∀ c c', WF c.router → Move e c c' → I c → I c') (hw : WF c.router) (hc : I c) :
    ∃ new, c'.router.trace = c.router.trace ++ new ∧
      ∀ o ∈ new, ∃ d, WF d.router ∧ I d ∧ o.1 = d.router.now ∧ Emitted e d o.2 := by
  induction h with
  | refl => exact ⟨[], by simp, by simp⟩
  | @tail c₁ c₂ hmoves hm ih =>
      obtain ⟨new, htrace, hnew⟩ := ih
      obtain ⟨new', htrace', hnew'⟩ := hm.extends
      obtain ⟨hw₁, hc₁⟩ := Moves.invariant hmoves hmove hw hc
      refine ⟨new ++ new', by rw [htrace', htrace, List.append_assoc], ?_⟩
      intro o ho
      rcases List.mem_append.1 ho with ho | ho
      · exact hnew o ho
      · exact ⟨c₁, hw₁, hc₁, hnew' o ho⟩

/-! ### Steps and runs -/

/-- What a step adds to the trace, with the interfaces of the step. -/
lemma Step.emitted (hw : WF s) (h : Step s e s') :
    ∃ new, s'.trace = s.trace ++ new ∧
      ∀ o ∈ new, ∃ d, d.router.ifList = s.ifList ∧ Emitted e d o.2 := by
  obtain ⟨new, htrace, hnew⟩ := (h.moves hw).emitted (I := fun d => d.router.ifList = s.ifList)
    (fun _ _ _ hm hd => hm.later.ifList.trans hd) hw rfl
  refine ⟨new, htrace, fun o ho => ?_⟩
  obtain ⟨d, -, hifs, -, hem⟩ := hnew o ho
  exact ⟨d, hifs, hem⟩

lemma Step.wf (hw : WF s) (h : Step s e s') : WF s' := (h.moves hw).wf hw

lemma run_wf {es : List Event} (h : Run Step s es s') (hw : WF s) : WF s' :=
  h.invariant (fun _ _ _ _ hw hst => hst.wf hw) hw

/-- The trace of a run only grows. -/
lemma run_trace {es : List Event} (h : Run Step s es s') (hw : WF s) :
    ∃ new, s'.trace = s.trace ++ new := by
  refine h.invariant (I := fun t => WF t ∧ ∃ new, t.trace = s.trace ++ new) ?_ ⟨hw, [], by simp⟩ |>.2
  rintro t e u - ⟨hwt, new, htrace⟩ hst
  obtain ⟨new', htrace', -⟩ := hst.emitted hwt
  exact ⟨hst.wf hwt, new ++ new', by rw [htrace', htrace, List.append_assoc]⟩

/-- An observation that was made in a run was made in one of its steps. -/
theorem exists_step_of_mem_trace {es : List Event} {o : ℕ × Obs} (h : Run Step s es s') (hw : WF s)
    (ho : o ∈ s'.trace) (hno : o ∉ s.trace) :
    ∃ es₁ e es₂ s₁ s₂ new, es = es₁ ++ e :: es₂ ∧ Run Step s es₁ s₁ ∧ Step s₁ e s₂ ∧
      Run Step s₂ es₂ s' ∧ s₂.trace = s₁.trace ++ new ∧ o ∈ new := by
  induction h with
  | nil s => exact absurd ho hno
  | @cons s t u e es hst hrest ih =>
      obtain ⟨new, htrace, -⟩ := hst.emitted hw
      by_cases hot : o ∈ t.trace
      · rw [htrace] at hot
        have honew := (List.mem_append.1 hot).resolve_left hno
        exact ⟨[], e, es, s, t, new, rfl, .nil s, hst, hrest, htrace, honew⟩
      · obtain ⟨es₁, e', es₂, s₁, s₂, new', rfl, hrun₁, hst', hrun₂, htrace', ho'⟩ :=
          ih (hst.wf hw) ho hot
        exact ⟨e :: es₁, e', es₂, s₁, s₂, new', rfl, .cons hst hrun₁, hst', hrun₂, htrace', ho'⟩

end SimpleRouter
