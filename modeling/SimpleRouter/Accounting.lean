/-
No frame is lost or duplicated.

Every frame that `route_and_send` queues has a number.  For each number the
trace and the queue are counted: how often it was accepted, how often it is on
the queue, how often it was sent off, and how often it was given up.  A frame of
a request that is being given up is both reported and still queued, until the
request is destroyed; the packets dealt with on the stack are these frames, and
they balance the account (`Balanced`) at every move.  Between events the stack is
empty and the account says that a frame is in exactly one place.
-/
import SimpleRouter.QueueInvariant

namespace SimpleRouter

open Bytes CString Runs

variable {s s' : Router} {c c' : Config} {id : ReqId} {fid : FrameId} {req r : SrArpreq}
  {pkt p : SrPacket} {tr new : List (ℕ × Obs)} {e : Event} {hop : Ip}

/-! ### Counting -/

/-- The observation puts the frame on the queue. -/
def Obs.accepts (fid : FrameId) : Obs → Bool
  | .accepted _ p => p.fid = fid
  | _ => false

/-- The observation sends the frame off. -/
def Obs.drains (fid : FrameId) : Obs → Bool
  | .sent (.drain fid' _) _ _ _ => fid' = fid
  | _ => false

/-- The observation gives the frame up. -/
def Obs.givesUp (fid : FrameId) : Obs → Bool
  | .icmpError 3 1 (.giveUp _ fid') => fid' = fid
  | _ => false

/-- How often `f` holds of an observation of the trace. -/
def tally (f : Obs → Bool) (tr : List (ℕ × Obs)) : ℕ := tr.countP fun o => f o.2

/-- How often the frame is on a list of packets. -/
def copies (fid : FrameId) (pkts : List SrPacket) : ℕ := pkts.countP fun p => p.fid = fid

/-- How often the frame is on the queue. -/
def queued (s : Router) (fid : FrameId) : ℕ := (s.requests.map fun r => copies fid r.packets).sum

/-- How often the frame is among the packets dealt with on the stack. -/
def reported (S : List (ReqId × List SrPacket)) (fid : FrameId) : ℕ :=
  (S.map fun x => copies fid x.2).sum

@[simp] lemma tally_append (f : Obs → Bool) : tally f (tr ++ new) = tally f tr + tally f new := by
  simp [tally]

lemma tally_singleton (f : Obs → Bool) (t : ℕ) (o : Obs) :
    tally f [(t, o)] = if f o then 1 else 0 := by
  simp [tally, List.countP_cons]

lemma copies_append (fid : FrameId) (l l' : List SrPacket) :
    copies fid (l ++ l') = copies fid l + copies fid l' := by
  simp [copies]

lemma copies_cons (fid : FrameId) (p : SrPacket) (l : List SrPacket) :
    copies fid (p :: l) = copies fid l + if p.fid = fid then 1 else 0 := by
  simp [copies, List.countP_cons]

lemma queued_of_requests (h : s'.requests = s.requests) (fid : FrameId) :
    queued s' fid = queued s fid := by
  rw [queued, queued, h]

lemma queued_of_core (h : s'.core = s.core) (fid : FrameId) : queued s' fid = queued s fid :=
  queued_of_requests (requests_of_core h) fid

/-- Queueing a packet adds one copy. -/
lemma Queues.queued {ip : Ip} {nid : ReqId} (hw : WF s) (h : Queues s ip pkt s' nid)
    (fid : FrameId) : queued s' fid = queued s fid + if pkt.fid = fid then 1 else 0 := by
  cases h with
  | @old req hf hip =>
      have hsum := KeyedList.sum_map_update (g := fun r => copies fid r.packets)
        (f := SrArpreq.push pkt) hw.ids_nodup (mem_of_findReq hf)
      have hpush : copies fid (req.push pkt).packets =
          copies fid req.packets + if pkt.fid = fid then 1 else 0 := copies_cons fid pkt _
      rw [hpush] at hsum
      change ((s.requests.map fun r => if r.id = req.id then r.push pkt else r).map
        fun r => copies fid r.packets).sum = (s.requests.map fun r => copies fid r.packets).sum + _
      omega
  | new hnone =>
      have hone : copies fid [pkt] = if pkt.fid = fid then 1 else 0 := by
        simp [copies, List.countP_cons]
      simp only [SimpleRouter.queued, List.map_cons, List.sum_cons, hone]
      omega

/-- Destroying a request takes its packets off the queue. -/
lemma queued_srArpreqDestroy (hw : WF s) (hf : s.findReq id = some req) (fid : FrameId) :
    queued (srArpreqDestroy s id) fid + copies fid req.packets = queued s fid := by
  obtain rfl := id_of_findReq hf
  exact KeyedList.sum_filter_ne (g := fun r => copies fid r.packets) hw.ids_nodup
    (mem_of_findReq hf)

lemma queued_retryArp (s : Router) (req : SrArpreq) (fid : FrameId) :
    queued (retryArp s req) fid = queued s fid := by
  rw [queued_of_core (retryArp_core s req)]
  simp only [queued, Router.modifyReq, List.map_map]
  refine congrArg List.sum (List.map_congr_left fun r _ => ?_)
  simp only [Function.comp]
  split_ifs <;> rfl

/-! ### The account -/

/-- What came in is on the queue or went out; what was reported and is still
queued is counted on both sides. -/
def Balanced (c : Config) (fid : FrameId) : Prop :=
  queued c.router fid + tally (Obs.drains fid) c.router.trace
      + tally (Obs.givesUp fid) c.router.trace
    = tally (Obs.accepts fid) c.router.trace + reported c.stack fid

/-- An observation that moves no frame. -/
def Obs.Neutral (o : Obs) : Prop :=
  ∀ fid, o.accepts fid = false ∧ o.drains fid = false ∧ o.givesUp fid = false

lemma tally_eq_zero {f : Obs → Bool} (h : ∀ o ∈ new, f o.2 = false) : tally f new = 0 := by
  rw [tally, List.countP_eq_zero]
  intro o ho
  simp [h o ho]

lemma Balanced.of_neutral (hc : Balanced c fid) (hq : queued c'.router fid = queued c.router fid)
    (hs : reported c'.stack fid = reported c.stack fid)
    (ht : c'.router.trace = c.router.trace ++ new) (hnew : ∀ o ∈ new, o.2.Neutral) :
    Balanced c' fid := by
  rw [Balanced, hq, hs, ht]
  simp only [tally_append, tally_eq_zero fun o ho => (hnew o ho fid).1,
    tally_eq_zero fun o ho => (hnew o ho fid).2.1, tally_eq_zero fun o ho => (hnew o ho fid).2.2]
  exact hc

lemma Balanced.of_one {t : ℕ} {o : Obs} (hc : Balanced c fid)
    (hq : queued c'.router fid = queued c.router fid)
    (hs : reported c'.stack fid = reported c.stack fid)
    (ht : c'.router.trace = c.router.trace ++ [(t, o)]) (ho : o.Neutral) : Balanced c' fid :=
  hc.of_neutral hq hs ht (by simpa using ho)

lemma Balanced.of_same (hc : Balanced c fid) (hq : queued c'.router fid = queued c.router fid)
    (hs : reported c'.stack fid = reported c.stack fid) (ht : c'.router.trace = c.router.trace) :
    Balanced c' fid :=
  hc.of_neutral hq hs (ht.trans (List.append_nil _).symm) (by simp)

lemma retryObs_neutral : ∀ o ∈ retryObs s req, o.2.Neutral := by
  intro o ho
  obtain ⟨p, rest, i, -, -, rfl⟩ := of_mem_retryObs ho
  exact fun fid => ⟨rfl, rfl, rfl⟩

/-- The drain sends off each packet of the request. -/
lemma tally_drainObs (mac : Mac) (ip : Ip) (pkts : List SrPacket) (fid : FrameId) :
    tally (Obs.drains fid) (pkts.map (drainObs s mac ip)) = copies fid pkts := by
  rw [tally, copies, List.countP_map]
  rfl

lemma Move.balanced (h : Move e c c') (hw : WF c.router) (hok : QueueOk c.router)
    (hc : Balanced c fid) : Balanced c' fid := by
  cases h with
  | quiet hq => exact hc.of_same (queued_of_core hq.core fid) rfl hq.trace
  | complain => exact hc.of_one rfl rfl rfl fun fid => ⟨rfl, rfl, by simp [Obs.givesUp]⟩
  | quote => exact hc.of_same rfl rfl rfl
  | answer hi =>
      exact hc.of_one (queued_of_core (sendArpReply_core _ _ _) fid) rfl
        (sendArpReply_trace _ _ _) fun fid => ⟨rfl, rfl, rfl⟩
  | cache => exact hc.of_same rfl rfl rfl
  | @drain s s' req mac hr hf hcore htrace hreads =>
      -- every packet is long enough to be sent
      have hall : (req.packets.filter fun p => 14 ≤ p.buf.length) = req.packets := by
        rw [List.filter_eq_self]
        intro p hp
        have := ((hok _ req hf).packets p hp).len
        simp
        omega
      rw [hall] at htrace
      have hlearn : WF (learn s mac req.ip) := hw.congr rfl rfl
      have hq : queued s' fid + copies fid req.packets = queued s fid := by
        rw [queued_of_core hcore]
        exact queued_srArpreqDestroy hlearn hf fid
      have hacc : tally (Obs.accepts fid) (req.packets.map (drainObs s mac req.ip)) = 0 :=
        tally_eq_zero fun o ho => by
          obtain ⟨p, -, rfl⟩ := List.mem_map.1 ho
          rfl
      have hgave : tally (Obs.givesUp fid) (req.packets.map (drainObs s mac req.ip)) = 0 :=
        tally_eq_zero fun o ho => by
          obtain ⟨p, -, rfl⟩ := List.mem_map.1 ho
          rfl
      simp only [Balanced, Config.rest, htrace, tally_append, hacc, hgave, tally_drainObs] at hc ⊢
      omega
  | tick => exact hc.of_same rfl rfl rfl
  | sweep hf => exact hc.of_one rfl rfl rfl fun fid => ⟨rfl, rfl, rfl⟩
  | @queue S s s' frame rt i nid hlen hroute hq hnid =>
      have hqueued := hq.queued (hw.emit _) fid
      rw [queued_of_core (core_emit s _)] at hqueued
      simp only [Balanced, hqueued, hq.trace, Router.emit_trace, tally_append, tally_singleton,
        Obs.accepts, Obs.drains, Obs.givesUp, decide_eq_true_eq, Bool.false_eq_true,
        if_false] at hc ⊢
      omega
  | idle hf ht => exact hc.of_same rfl rfl rfl
  | retry hf ht hn hid =>
      exact hc.of_neutral (queued_retryArp _ _ fid) rfl (retryArp_trace _ _) retryObs_neutral
  | start hf hx hid => exact hc.of_same rfl (by simp [reported, copies]) rfl
  | @skip S s id req done rest pkt hf hpk hl =>
      -- no packet on the queue is too short to be reported
      have hlen := ((hok _ req hf).packets pkt (by rw [hpk]; simp)).len
      omega
  | @report S s id req done rest pkt hf hx hpk hl =>
      have hcopies : copies fid (done ++ [pkt]) =
          copies fid done + if pkt.fid = fid then 1 else 0 := by
        rw [copies_append, copies_cons]
        simp [copies]
      simp only [Balanced, reported, List.map_cons, List.sum_cons, hcopies, Router.emit_trace,
        tally_append, tally_singleton, Obs.accepts, Obs.drains, Obs.givesUp,
        decide_eq_true_eq, Bool.false_eq_true, if_false, queued_of_core (core_emit s _)] at hc ⊢
      omega
  | quoteQueued hf hx hpk hsrc => exact hc.of_same rfl rfl rfl
  | @destroy S s id req hf hx =>
      have hq := queued_srArpreqDestroy hw hf fid
      simp only [Balanced, reported, List.map_cons, List.sum_cons, srArpreqDestroy_trace] at hc hq ⊢
      omega

/-! ### Numbers and places -/

/-- A number is given once, and the observation that gave it tells the next hop. -/
structure Numbered (c : Config) : Prop where
  accepted_le : ∀ fid, tally (Obs.accepts fid) c.router.trace ≤ 1
  unused : ∀ fid, c.router.nextFid ≤ fid → tally (Obs.accepts fid) c.router.trace = 0
  queued : ∀ a r, c.router.findReq a = some r → ∀ p ∈ r.packets,
    ∃ t, (t, Obs.accepted r.ip p) ∈ c.router.trace
  sent : ∀ t origin iface frame v, (t, Obs.sent origin iface frame v) ∈ c.router.trace →
    ((∀ fid sip, origin ≠ .drain fid sip) ∧ ethertype frame = ethertypeArp) ∨
      ∃ sip p mac, origin = .drain p.fid sip ∧ iface = p.iface ∧
        frame = drainFrame c.router.ifList mac p ∧ ∃ t', (t', Obs.accepted sip p) ∈ c.router.trace

lemma ethertype_arpFrame (dhost : Mac) (i : SrIf) (op : ℕ) (tha : Mac) (tip : Ip) :
    ethertype (arpFrame dhost i op tha tip) = ethertypeArp := by
  simp [ethertype, u16, u8, arpFrame, Mac.bytes, ethertypeArp, be16]

lemma Move.numbers (h : Move e c c') (hc : Numbered c) :
    (∀ fid, tally (Obs.accepts fid) c'.router.trace ≤ 1) ∧
      ∀ fid, c'.router.nextFid ≤ fid → tally (Obs.accepts fid) c'.router.trace = 0 := by
  have hsame : c'.router.nextFid = c.router.nextFid →
      (∀ fid, tally (Obs.accepts fid) c'.router.trace = tally (Obs.accepts fid) c.router.trace) →
      (∀ fid, tally (Obs.accepts fid) c'.router.trace ≤ 1) ∧
        ∀ fid, c'.router.nextFid ≤ fid → tally (Obs.accepts fid) c'.router.trace = 0 := by
    intro hnext htally
    refine ⟨fun fid => by rw [htally]; exact hc.accepted_le fid, fun fid hfid => ?_⟩
    rw [htally, hc.unused fid (hnext ▸ hfid)]
  cases h.kind with
  | plain hp =>
      obtain ⟨new, htrace, hnew⟩ := hp.trace
      refine hsame hp.nextFid fun fid => ?_
      have hzero : tally (Obs.accepts fid) new = 0 := by
        refine tally_eq_zero fun o ho => ?_
        have hno := (hnew o ho).2
        cases hobs : o.2 with
        | accepted hop p => exact absurd hobs (hno hop p)
        | _ => rfl
      rw [htrace, tally_append, hzero, Nat.add_zero]
  | @queue S s s' frame rt i nid hlen hroute hq hnid =>
      -- the frame that is accepted gets the next number, which is new
      have htally : ∀ fid, tally (Obs.accepts fid) s'.trace =
          tally (Obs.accepts fid) s.trace + if s.nextFid = fid then 1 else 0 := by
        intro fid
        rw [hq.trace, Router.emit_trace, tally_append, tally_singleton]
        by_cases hfid : s.nextFid = fid
        · simp [Obs.accepts, routedPacket, hfid]
        · simp [Obs.accepts, routedPacket, hfid]
      have hnext : s'.nextFid = s.nextFid + 1 := hq.nextFid
      constructor
      · intro fid
        change tally (Obs.accepts fid) s'.trace ≤ 1
        rw [htally fid]
        split_ifs with hfid
        · rw [hc.unused fid hfid.le]
        · exact hc.accepted_le fid
      · intro fid hfid
        have hlt : s.nextFid < fid := Nat.lt_of_succ_le (hnext.ge.trans hfid)
        change tally (Obs.accepts fid) s'.trace = 0
        rw [htally fid, if_neg hlt.ne]
        exact hc.unused fid hlt.le
  | @retry S s id req hf ht hn hid =>
      refine hsame (nextFid_of_core (retryArp_core s req) :) fun fid => ?_
      have hzero : tally (Obs.accepts fid) (retryObs s req) = 0 :=
        tally_eq_zero fun o ho => (retryObs_neutral o ho fid).1
      change tally (Obs.accepts fid) (retryArp s req).trace = _
      rw [retryArp_trace, tally_append, hzero, Nat.add_zero]

lemma Move.trace_subset (h : Move e c c') {o : ℕ × Obs} (ho : o ∈ c.router.trace) :
    o ∈ c'.router.trace := by
  obtain ⟨new, htrace, -⟩ := h.extends
  rw [htrace]
  exact List.mem_append_left _ ho

theorem Move.numbered (h : Move e c c') (hc : Numbered c) : Numbered c' := by
  obtain ⟨hle, hunused⟩ := h.numbers hc
  refine ⟨hle, hunused, ?_, ?_⟩
  · intro a r' hf' p hp
    cases h.reqChange hf' with
    | same hf =>
        obtain ⟨t, ht⟩ := hc.queued a r' hf p hp
        exact ⟨t, h.trace_subset ht⟩
    | pushed hlen hroute hip hreq hr' hdue hacc =>
        subst hr'
        rcases List.mem_cons.1 hp with rfl | hp
        · exact ⟨_, hacc⟩
        · rcases hreq with hf | ⟨-, rfl⟩
          · obtain ⟨t, ht⟩ := hc.queued a _ hf p hp
            exact ⟨t, h.trace_subset ht⟩
          · simp at hp
    | bumped hf ht hn hr' =>
        subst hr'
        obtain ⟨t, ht⟩ := hc.queued a _ hf p hp
        exact ⟨t, h.trace_subset ht⟩
  · intro t origin iface frame v hmem
    obtain ⟨new, htrace, hnew⟩ := h.extends
    rw [htrace] at hmem
    rcases List.mem_append.1 hmem with hmem | hmem
    · rcases hc.sent t origin iface frame v hmem with harp | ⟨sip, p, mac, ho, hi, hframe, t', ht'⟩
      · exact Or.inl harp
      · exact Or.inr ⟨sip, p, mac, ho, hi, by rw [h.later.ifList]; exact hframe, t',
          h.trace_subset ht'⟩
    · have hem := (hnew _ hmem).2
      simp only at hem
      cases hem with
      | answer hi => exact Or.inl ⟨by simp, ethertype_arpFrame _ _ _ _ _⟩
      | retry hf hp hi => exact Or.inl ⟨by simp, ethertype_arpFrame _ _ _ _ _⟩
      | @drain req mac p hr hf hp =>
          obtain ⟨t', ht'⟩ := hc.queued _ req hf p hp
          exact Or.inr ⟨req.ip, p, mac, rfl, rfl, by rw [h.later.ifList], t', h.trace_subset ht'⟩

/-! ### Runs -/

variable {ifs : List SrIf} {rt : List SrRt} {now : ℕ} {junk : ℕ → ℕ → UInt8} {es : List Event}

/-- The account of a run. -/
structure Account (c : Config) : Prop where
  queueOk : QueueOk c.router
  balanced : ∀ fid, Balanced c fid
  numbered : Numbered c

lemma Move.account (h : Move e c c') (hw : WF c.router) (hc : Account c) : Account c' :=
  ⟨h.queueOk hc.queueOk, fun fid => h.balanced hw hc.queueOk (hc.balanced fid),
    h.numbered hc.numbered⟩

lemma account_init : Account (.rest (Router.init ifs rt now junk)) where
  queueOk := by simp [QueueOk, Config.rest, Router.init, Router.findReq]
  balanced := fun fid => by simp [Balanced, Config.rest, Router.init, queued, reported, tally]
  numbered := by
    constructor <;> simp [Config.rest, Router.init, Router.findReq, tally]

theorem account_of_run (h : Run Step (Router.init ifs rt now junk) es s) : Account (.rest s) :=
  (run_invariant h (wf_init ..) (fun _ _ _ hw hm hc => hm.account hw hc) account_init).2

/-- The frame that was queued under a next hop is determined by its number. -/
lemma Numbered.accepted_unique (hc : Numbered c) {t t' : ℕ} {hop hop' : Ip} {p p' : SrPacket}
    (h : (t, Obs.accepted hop p) ∈ c.router.trace) (h' : (t', Obs.accepted hop' p') ∈ c.router.trace)
    (hfid : p'.fid = p.fid) : hop' = hop ∧ p' = p := by
  have heq := KeyedList.eq_of_countP_le_one (hc.accepted_le p.fid) h' h
    (by simp [Obs.accepts, hfid]) (by simp [Obs.accepts])
  rw [Prod.mk.injEq, Obs.accepted.injEq] at heq
  exact heq.2

/-- Situation 1: the frame is queued, on the request for its next hop and nowhere
else. -/
structure Waits (s : Router) (hop : Ip) (p : SrPacket) : Prop where
  request : ∃ r ∈ s.requests, r.ip = hop ∧ (∀ r' ∈ s.requests, r'.ip = hop → r' = r) ∧
    p ∈ r.packets ∧ copies p.fid r.packets = 1
  queued : queued s p.fid = 1
  sent : tally (Obs.drains p.fid) s.trace = 0
  gaveUp : tally (Obs.givesUp p.fid) s.trace = 0

/-- Situation 2: the frame was sent off, once, on an ARP reply from its next hop
in the course of the run, and is no longer queued. -/
structure SentOff (s₀ : Router) (es : List Event) (s : Router) (hop : Ip) (p : SrPacket) : Prop where
  queued : queued s p.fid = 0
  sent : tally (Obs.drains p.fid) s.trace = 1
  gaveUp : tally (Obs.givesUp p.fid) s.trace = 0
  reply : ∃ es₁ e es₂ s₁ s₂ mac, es = es₁ ++ e :: es₂ ∧ Run Step s₀ es₁ s₁ ∧ Step s₁ e s₂ ∧
    Run Step s₂ es₂ s ∧ e.Replies s₁ hop mac ∧ tally (Obs.drains p.fid) s₁.trace = 0 ∧
    tally (Obs.drains p.fid) s₂.trace = 1

/-- Situation 3: the frame was given up, once, and never sent. -/
structure GivenUp (s : Router) (p : SrPacket) : Prop where
  queued : queued s p.fid = 0
  sent : tally (Obs.drains p.fid) s.trace = 0
  gaveUp : tally (Obs.givesUp p.fid) s.trace = 1

lemma exists_of_tally_pos {f : Obs → Bool} (h : 0 < tally f tr) : ∃ o ∈ tr, f o.2 :=
  List.countP_pos_iff.1 h

lemma tally_pos {f : Obs → Bool} {o : ℕ × Obs} (ho : o ∈ tr) (hf : f o.2) : 0 < tally f tr :=
  List.countP_pos_iff.2 ⟨o, ho, hf⟩

lemma eq_sent_of_drains {o : Obs} (h : o.drains fid) :
    ∃ sip iface frame v, o = .sent (.drain fid sip) iface frame v := by
  cases o with
  | sent origin iface frame v =>
      cases origin with
      | drain fid' sip =>
          obtain rfl : fid' = fid := by simpa [Obs.drains] using h
          exact ⟨sip, iface, frame, v, rfl⟩
      | _ => simp [Obs.drains] at h
  | _ => simp [Obs.drains] at h

/-- An accepted frame is counted once, in one of the three places. -/
lemma frame_accounting_cases (hc : Account (.rest s)) {t : ℕ}
    (hacc : (t, Obs.accepted hop p) ∈ s.trace) :
    (queued s p.fid = 1 ∧ tally (Obs.drains p.fid) s.trace = 0 ∧
        tally (Obs.givesUp p.fid) s.trace = 0) ∨
      (queued s p.fid = 0 ∧ tally (Obs.drains p.fid) s.trace = 1 ∧
        tally (Obs.givesUp p.fid) s.trace = 0) ∨
      (queued s p.fid = 0 ∧ tally (Obs.drains p.fid) s.trace = 0 ∧
        tally (Obs.givesUp p.fid) s.trace = 1) := by
  have hone : tally (Obs.accepts p.fid) s.trace = 1 :=
    le_antisymm (hc.numbered.accepted_le p.fid) (tally_pos hacc (by simp [Obs.accepts]))
  have hbal : queued s p.fid + tally (Obs.drains p.fid) s.trace
      + tally (Obs.givesUp p.fid) s.trace = 1 := by
    rw [← hone]
    exact hc.balanced p.fid
  omega

lemma waits_of_queued (hw : WF s) (hc : Account (.rest s)) {t : ℕ}
    (hacc : (t, Obs.accepted hop p) ∈ s.trace) (hq : queued s p.fid = 1)
    (hs : tally (Obs.drains p.fid) s.trace = 0) (hg : tally (Obs.givesUp p.fid) s.trace = 0) :
    Waits s hop p := by
  refine ⟨?_, hq, hs, hg⟩
  -- some request has a copy of the frame
  have hpos : ∃ r ∈ s.requests, 0 < copies p.fid r.packets := by
    by_contra hnone
    push Not at hnone
    have hzero : queued s p.fid = 0 := by
      rw [queued, List.sum_eq_zero]
      intro n hn
      obtain ⟨r, hr, rfl⟩ := List.mem_map.1 hn
      exact Nat.le_zero.1 (hnone r hr)
    omega
  obtain ⟨r, hr, hcopies⟩ := hpos
  obtain ⟨q, hq', hfid⟩ := List.countP_pos_iff.1 hcopies
  have hfid : q.fid = p.fid := by simpa using hfid
  obtain ⟨t', hacc'⟩ := hc.numbered.queued r.id r (hw.findReq_of_mem hr) q hq'
  obtain ⟨hip, rfl⟩ := hc.numbered.accepted_unique hacc hacc' hfid
  refine ⟨r, hr, hip, fun r' hr' hip' => hw.eq_of_ip_eq hr' hr (hip'.trans hip.symm), hq', ?_⟩
  have hle : copies q.fid r.packets ≤ queued s q.fid :=
    List.single_le_sum (fun _ _ => Nat.zero_le _) _
      (List.mem_map_of_mem (f := fun r => copies q.fid r.packets) hr)
  omega

lemma eq_accepted_of_accepts {o : Obs} (h : o.accepts fid) : ∃ hop p, o = .accepted hop p ∧ p.fid = fid := by
  cases o with
  | accepted hop p => exact ⟨hop, p, rfl, by simpa [Obs.accepts] using h⟩
  | _ => simp [Obs.accepts] at h

lemma Emitted.replies_of_drain {d : Config} {sip : Ip} {iface : List UInt8} {frame : Frame}
    {v : Verdict} (h : Emitted e d (.sent (.drain fid sip) iface frame v)) :
    ∃ mac, e.Replies d.router sip mac := by
  cases h with
  | drain hr hf hp => exact ⟨_, hr⟩

/-- The step that sent a frame off was the arrival of an ARP reply. -/
lemma reply_of_drained (h : Run Step (Router.init ifs rt now junk) es s) (hc : Account (.rest s))
    {t : ℕ} (hacc : (t, Obs.accepted hop p) ∈ s.trace)
    (hs : tally (Obs.drains p.fid) s.trace = 1) :
    ∃ es₁ e es₂ s₁ s₂ mac, es = es₁ ++ e :: es₂ ∧ Run Step (Router.init ifs rt now junk) es₁ s₁ ∧
      Step s₁ e s₂ ∧ Run Step s₂ es₂ s ∧ e.Replies s₁ hop mac ∧
      tally (Obs.drains p.fid) s₁.trace = 0 ∧ tally (Obs.drains p.fid) s₂.trace = 1 := by
  obtain ⟨o, ho, hdrain⟩ := exists_of_tally_pos (hs.symm ▸ Nat.one_pos)
  obtain ⟨es₁, e, es₂, s₁, s₂, new, rfl, hrun₁, hst, hrun₂, htrace, honew⟩ :=
    exists_step_of_mem_trace h (wf_init ..) ho (by simp [Router.init])
  have hw₁ := wf_of_run hrun₁
  obtain ⟨new', htrace', hnew'⟩ := hst.emitted hw₁
  obtain rfl : new = new' := List.append_cancel_left (htrace.symm.trans htrace')
  obtain ⟨later, hlater⟩ := run_trace hrun₂ (hst.wf hw₁)
  have hpos := tally_pos honew hdrain
  have hsum : tally (Obs.drains p.fid) s₁.trace + tally (Obs.drains p.fid) new
      + tally (Obs.drains p.fid) later = 1 := by
    rw [← hs, hlater, htrace, tally_append, tally_append]
  obtain ⟨sip, iface, frame, v, hobs⟩ := eq_sent_of_drains hdrain
  -- the address of the reply is the next hop, because the number is given once
  obtain ⟨d, hifs, hem⟩ := hnew' o honew
  rw [hobs] at hem
  have hreply : ∃ mac, e.Replies s₁ hop mac := by
    have hsent := hc.numbered.sent o.1 (.drain p.fid sip) iface frame v (by rw [← hobs]; exact ho)
    rcases hsent with ⟨hno, -⟩ | ⟨sip', p', mac', horigin, -, -, t', hacc'⟩
    · exact absurd rfl (hno p.fid sip)
    · rw [Origin.drain.injEq] at horigin
      obtain ⟨rfl, -⟩ := hc.numbered.accepted_unique hacc hacc' horigin.1.symm
      obtain rfl := horigin.2
      obtain ⟨mac, hr⟩ := hem.replies_of_drain
      exact ⟨mac, hr.congr hifs.symm⟩
  obtain ⟨mac, hmac⟩ := hreply
  refine ⟨es₁, e, es₂, s₁, s₂, mac, rfl, hrun₁, hst, hrun₂, hmac, by omega, ?_⟩
  rw [htrace, tally_append]
  omega

/-- No queued frame is lost or duplicated: at any time it waits on the request for
its next hop, or was sent off once by an ARP reply from there, or was given up
once.  And no IP frame is sent that was not queued. -/
theorem frame_accounting (h : Run Step (Router.init ifs rt now junk) es s) :
    (∀ t hop p, (t, Obs.accepted hop p) ∈ s.trace →
      Waits s hop p ∨ SentOff (Router.init ifs rt now junk) es s hop p ∨ GivenUp s p) ∧
    ∀ t origin iface frame v, (t, Obs.sent origin iface frame v) ∈ s.trace →
      ethertype frame = ethertypeIp →
      ∃ t' hop p mac, (t', Obs.accepted hop p) ∈ s.trace ∧ origin = .drain p.fid hop ∧
        iface = p.iface ∧ frame = drainFrame s.ifList mac p := by
  have hw := wf_of_run h
  have hc := account_of_run h
  constructor
  · intro t hop p hacc
    rcases frame_accounting_cases hc hacc with ⟨hq, hs, hg⟩ | ⟨hq, hs, hg⟩ | ⟨hq, hs, hg⟩
    · exact Or.inl (waits_of_queued hw hc hacc hq hs hg)
    · exact Or.inr (Or.inl ⟨hq, hs, hg, reply_of_drained h hc hacc hs⟩)
    · exact Or.inr (Or.inr ⟨hq, hs, hg⟩)
  · intro t origin iface frame v hmem htype
    rcases hc.numbered.sent t origin iface frame v hmem with
      ⟨-, harp⟩ | ⟨sip, p, mac, horigin, hiface, hframe, t', hacc⟩
    · rw [harp] at htype
      exact absurd htype (by decide)
    · exact ⟨t', sip, p, mac, hacc, horigin, hiface, hframe⟩

/-- Of two frames one is sent off and one is given up, and the error about the
latter waits. -/
theorem frame_accounting_sample :
    ∃ s es, Run Step sampleRouter es s ∧
      (∃ t hop p, (t, Obs.accepted hop p) ∈ s.trace ∧ SentOff sampleRouter es s hop p) ∧
      (∃ t hop p, (t, Obs.accepted hop p) ∈ s.trace ∧ GivenUp s p) ∧
      ∃ t hop p, (t, Obs.accepted hop p) ∈ s.trace ∧ Waits s hop p := by
  obtain ⟨s, hrun, hs⟩ := exists_run_of_leadsTo step_of_ok
    (show leadsTo (step 5) sampleRouter
      [.recv (sampleFrame (sampleIp 0 2) (sampleIp 1 2) 64 20) (sampleName 0),
        .recv (sampleFrame (sampleIp 0 3) (sampleIp 1 3) 64 8) (sampleName 0),
        .recv (sampleReply (sampleIp 1 3) ⟨2, 0, 0, 0, 9, 9⟩) (sampleName 1),
        .tick 1, .sweep, .tick 1, .sweep, .tick 1, .sweep, .tick 1, .sweep, .tick 1, .sweep]
      (fun s => (∀ fid ∈ ([0, 1, 2] : List ℕ), tally (Obs.accepts fid) s.trace = 1) ∧
        tally (Obs.givesUp 0) s.trace = 1 ∧ tally (Obs.drains 1) s.trace = 1 ∧ queued s 2 = 1)
      by decide +kernel)
  obtain ⟨hacc, hgave, hsent, hqueued⟩ := of_decide_eq_true hs
  have hfind : ∀ fid ∈ ([0, 1, 2] : List ℕ), ∃ t hop p, (t, Obs.accepted hop p) ∈ s.trace ∧ p.fid = fid := by
    intro fid hfid
    obtain ⟨⟨t, o⟩, ho, haccepts⟩ := exists_of_tally_pos ((hacc fid hfid).symm ▸ Nat.one_pos)
    obtain ⟨hop, p, rfl, hp⟩ := eq_accepted_of_accepts haccepts
    exact ⟨t, hop, p, ho, hp⟩
  have hall := (frame_accounting hrun).1
  refine ⟨s, _, hrun, ?_, ?_, ?_⟩
  · obtain ⟨t, hop, p, ho, hp⟩ := hfind 1 (by simp)
    refine ⟨t, hop, p, ho, ((hall t hop p ho).resolve_left ?_).resolve_right ?_⟩
    · exact fun hwait => absurd hwait.sent (by rw [hp, hsent]; simp)
    · exact fun hgive => absurd hgive.sent (by rw [hp, hsent]; simp)
  · obtain ⟨t, hop, p, ho, hp⟩ := hfind 0 (by simp)
    refine ⟨t, hop, p, ho, ((hall t hop p ho).resolve_left ?_).resolve_left ?_⟩
    · exact fun hwait => absurd hwait.gaveUp (by rw [hp, hgave]; simp)
    · exact fun hsent => absurd hsent.gaveUp (by rw [hp, hgave]; simp)
  · obtain ⟨t, hop, p, ho, hp⟩ := hfind 2 (by simp)
    refine ⟨t, hop, p, ho, (hall t hop p ho).resolve_right ?_⟩
    rintro (hsent | hgive)
    · exact absurd hsent.queued (by rw [hp, hqueued]; simp)
    · exact absurd hgive.queued (by rw [hp, hqueued]; simp)

end SimpleRouter
