/-
The retry protocol of ARP requests, as a property of the trace.

`broadcasts id tr` are the times at which ARP requests were broadcast on behalf
of the request `id`.  `Ledger` relates them to the fields of the request while it
is pending; what it says about identities in general (at most five broadcasts, a
second apart, all for one address) stays true after the request is gone.  A
request is on the stack while the errors about its packets are sent, and between
events the stack is empty, so that every request with such an error is gone.
-/
import SimpleRouter.QueueInvariant

namespace SimpleRouter

open Bytes CString Runs

variable {s s' : Router} {c c' : Config} {id a : ReqId} {req r : SrArpreq}
  {tr new : List (ℕ × Obs)} {e : Event}

/-- The times of the broadcasts for the request `id`. -/
def broadcasts (id : ReqId) (tr : List (ℕ × Obs)) : List ℕ :=
  (tr.filter fun o => o.2.isBroadcast id).map Prod.fst

@[simp] lemma broadcasts_append : broadcasts id (tr ++ new) = broadcasts id tr ++ broadcasts id new := by
  simp [broadcasts]

lemma broadcasts_eq_nil (h : ∀ o ∈ new, o.2.isBroadcast id = false) : broadcasts id new = [] := by
  rw [broadcasts, List.map_eq_nil_iff, List.filter_eq_nil_iff]
  intro o ho
  simp [h o ho]

lemma Plain.broadcasts (h : Plain c c') (id : ReqId) :
    broadcasts id c'.router.trace = broadcasts id c.router.trace := by
  obtain ⟨new, htrace, hnew⟩ := h.trace
  rw [htrace, broadcasts_append, broadcasts_eq_nil fun o ho => (hnew o ho).1 id, List.append_nil]

lemma Queues.broadcasts {ip : Ip} {pkt p : SrPacket} {hop : Ip} {nid : ReqId}
    (h : Queues (s.emit (.accepted hop p)) ip pkt s' nid) (id : ReqId) :
    broadcasts id s'.trace = broadcasts id s.trace := by
  have hnew : ∀ o ∈ [(s.now, Obs.accepted hop p)], o.2.isBroadcast id = false := by
    simp [Obs.isBroadcast]
  rw [h.trace, Router.emit_trace, broadcasts_append, broadcasts_eq_nil hnew, List.append_nil]

/-- A retry broadcasts exactly once, because the request has a packet and the
packet's interface exists. -/
lemma ReqOk.retryObs (hok : ReqOk s req) :
    ∃ i, retryObs s req = [(s.now, .sent (.arpRequest req.id req.ip) i.name
      (arpFrame broadcastMac i 1 ⟨0, 0, 0, 0, 0, 0⟩ req.ip)
      (sendVerdict s.ifList (arpFrame broadcastMac i 1 ⟨0, 0, 0, 0, 0, 0⟩ req.ip) i.name))] := by
  obtain ⟨p, rest, hp⟩ := List.exists_cons_of_ne_nil hok.packets_ne
  obtain ⟨rt, i, -, -, -, hi, -⟩ := (hok.packets p (by simp [hp])).route
  refine ⟨i, ?_⟩
  simp only [SimpleRouter.retryObs, hp, hi]

lemma ReqOk.broadcasts_retryArp (hok : ReqOk s req) (id : ReqId) :
    broadcasts id (retryArp s req).trace =
      broadcasts id s.trace ++ if id = req.id then [s.now] else [] := by
  obtain ⟨i, hobs⟩ := hok.retryObs
  rw [retryArp_trace, hobs, broadcasts_append]
  by_cases hid : id = req.id
  · simp [broadcasts, Obs.isBroadcast, hid]
  · simp [broadcasts, Obs.isBroadcast, hid, Ne.symm hid]

/-! ### The ledger -/

/-- An ARP request, sent to everybody, that asks for `ip`. -/
structure AsksFor (ip : Ip) (frame : Frame) : Prop where
  dhost : etherDhost frame = broadcastMac
  type : ethertype frame = ethertypeArp
  op : arOp (slice frame 14 28) = 1
  tip : arTip (slice frame 14 28) = ip

lemma asksFor_arpFrame (i : SrIf) (ip : Ip) :
    AsksFor ip (arpFrame broadcastMac i 1 ⟨0, 0, 0, 0, 0, 0⟩ ip) := by
  refine ⟨rfl, ?_, ?_, rfl⟩
  · simp [ethertype, u16, u8, arpFrame, Mac.bytes, ethertypeArp, be16]
  · rw [arOp, u16_slice (by omega)]
    simp [u16, u8, arpFrame, Mac.bytes, Ip.bytes, be16]

/-- What the trace says about the broadcasts and the give-ups of every request. -/
structure Ledger (c : Config) : Prop where
  count : ∀ id r, c.router.findReq id = some r →
    (broadcasts id c.router.trace).length = r.timesSent ∧
      ∀ t ∈ broadcasts id c.router.trace, t ≤ r.sent
  unused : ∀ id, c.router.nextId ≤ id → broadcasts id c.router.trace = []
  spaced : ∀ id, (broadcasts id c.router.trace).Pairwise fun t u => t + 1 ≤ u
  le_five : ∀ id, (broadcasts id c.router.trace).length ≤ 5
  asks : ∀ id, ∃ ip, (∀ r, c.router.findReq id = some r → r.ip = ip) ∧
    ∀ t tip iface frame v, (t, Obs.sent (.arpRequest id tip) iface frame v) ∈ c.router.trace →
      tip = ip ∧ AsksFor ip frame
  gaveUp : ∀ t cause, (t, Obs.icmpError 3 1 cause) ∈ c.router.trace →
    ∃ id fid, cause = .giveUp id fid ∧ (broadcasts id c.router.trace).length = 5 ∧
      (∀ u ∈ broadcasts id c.router.trace, u + 1 ≤ t) ∧ id < c.router.nextId ∧
      (id ∈ c.active ∨ c.router.findReq id = none)

lemma mem_broadcasts {t : ℕ} {tip : Ip} {iface : List UInt8} {frame : Frame} {v : Verdict}
    (h : (t, Obs.sent (.arpRequest id tip) iface frame v) ∈ tr) : t ∈ broadcasts id tr :=
  List.mem_map.2 ⟨_, List.mem_filter.2 ⟨h, by simp [Obs.isBroadcast]⟩, rfl⟩

lemma Ledger.lt_nextId (hc : Ledger c) (h : broadcasts id c.router.trace ≠ []) :
    id < c.router.nextId := by
  by_contra hge
  exact h (hc.unused id (not_lt.1 hge))

/-- A move that leaves the broadcasts of `id` alone leaves its account right. -/
lemma Move.ledger_count (h : Move e c c') (hok : QueueOk c.router) (hc : Ledger c) (id : ReqId)
    (r' : SrArpreq) (hf' : c'.router.findReq id = some r') :
    (broadcasts id c'.router.trace).length = r'.timesSent ∧
      ∀ t ∈ broadcasts id c'.router.trace, t ≤ r'.sent := by
  cases h.kind with
  | plain hp =>
      rw [hp.broadcasts]
      exact hc.count id r' (hp.findReq id r' hf')
  | @queue S s s' frame rt i nid hlen hroute hq hnid =>
      have hb : broadcasts id s'.trace = broadcasts id s.trace := hq.broadcasts id
      rw [hb]
      by_cases hid : id = nid
      · subst hid
        obtain ⟨req, hreq, -, -, hold | ⟨hnew, -, hfresh⟩⟩ := hq.findReq_self
        · obtain rfl : req.push _ = r' := Option.some_injective _ (hreq.symm.trans hf')
          exact hc.count id req hold
        · obtain rfl : req.push _ = r' := Option.some_injective _ (hreq.symm.trans hf')
          have hnil : broadcasts id s.trace = [] := hc.unused id hnew.ge
          rw [hnil, hfresh]
          exact ⟨rfl, by simp⟩
      · exact hc.count id r' ((hq.findReq_of_ne hid).symm.trans hf')
  | @retry S s id' req hf ht hn hid' =>
      obtain rfl := id_of_findReq hf
      have hb : broadcasts id (retryArp s req).trace = _ := (hok _ req hf).broadcasts_retryArp id
      have hr' : (retryArp s req).findReq id = some r' := hf'
      rw [retryArp_findReq] at hr'
      rw [hb]
      split_ifs at hr' ⊢ with hid
      · rw [hf, Option.map_some, Option.some.injEq] at hr'
        obtain ⟨hcount, hsent⟩ := hc.count _ req hf
        subst hid hr'
        refine ⟨by simp [bump, hcount], ?_⟩
        intro t hmem
        rcases List.mem_append.1 hmem with hmem | hmem
        · have := hsent t hmem
          change t ≤ s.now
          omega
        · rw [List.mem_singleton] at hmem
          exact hmem.le
      · rw [List.append_nil]
        exact hc.count id r' hr'

/-- Either the broadcasts of `id` stay the same, or `id` is retried. -/
lemma Move.broadcasts_cases (h : Move e c c') (hok : QueueOk c.router) (id : ReqId) :
    broadcasts id c'.router.trace = broadcasts id c.router.trace ∨
      (broadcasts id c'.router.trace = broadcasts id c.router.trace ++ [c.router.now] ∧
        id ∉ c.active ∧ ∃ req, c.router.findReq id = some req ∧ 1 ≤ c.router.now - req.sent ∧
          req.timesSent < 5) := by
  cases h.kind with
  | plain hp => exact Or.inl (hp.broadcasts id)
  | queue hlen hroute hq hnid => exact Or.inl (hq.broadcasts id)
  | @retry S s id' req hf ht hn hid' =>
      obtain rfl := id_of_findReq hf
      have hb : broadcasts id (retryArp s req).trace = _ := (hok _ req hf).broadcasts_retryArp id
      split_ifs at hb with hid
      · subst hid
        exact Or.inr ⟨hb, hid', req, hf, ht, hn⟩
      · rw [List.append_nil] at hb
        exact Or.inl hb

lemma Move.nextId_le (h : Move e c c') : c.router.nextId ≤ c'.router.nextId := by
  cases h.kind with
  | plain hp => exact hp.nextId.ge
  | queue hlen hroute hq hnid => exact hq.nextId_le
  | retry hf ht hn hid => exact (nextId_of_core (retryArp_core _ _)).ge

lemma Move.ledger_spaced (h : Move e c c') (hok : QueueOk c.router) (hc : Ledger c) (id : ReqId) :
    (broadcasts id c'.router.trace).Pairwise (fun t u => t + 1 ≤ u) ∧
      (broadcasts id c'.router.trace).length ≤ 5 := by
  rcases h.broadcasts_cases hok id with hb | ⟨hb, -, req, hf, ht, hn⟩
  · rw [hb]
    exact ⟨hc.spaced id, hc.le_five id⟩
  · obtain ⟨hcount, hsent⟩ := hc.count id req hf
    rw [hb]
    constructor
    · refine List.pairwise_append.2 ⟨hc.spaced id, List.pairwise_singleton _ _, ?_⟩
      intro t hmem u hu
      rw [List.mem_singleton] at hu
      have := hsent t hmem
      omega
    · rw [List.length_append, List.length_singleton]
      omega

lemma Move.ledger_unused (h : Move e c c') (hok : QueueOk c.router) (hw : WF c.router)
    (hc : Ledger c) (id : ReqId) (hid : c'.router.nextId ≤ id) :
    broadcasts id c'.router.trace = [] := by
  have hle := h.nextId_le.trans hid
  rcases h.broadcasts_cases hok id with hb | ⟨-, -, req, hf, -⟩
  · rw [hb, hc.unused id hle]
  · have hlt := hw.ids_lt req (mem_of_findReq hf)
    rw [id_of_findReq hf] at hlt
    exact absurd hlt (not_lt.2 hle)

/-- All broadcasts of a request ask for its address. -/
lemma Move.ledger_asks (h : Move e c c') (hw : WF c.router) (hc : Ledger c) (id : ReqId) :
    ∃ ip, (∀ r, c'.router.findReq id = some r → r.ip = ip) ∧
      ∀ t tip iface frame v,
        (t, Obs.sent (.arpRequest id tip) iface frame v) ∈ c'.router.trace →
          tip = ip ∧ AsksFor ip frame := by
  obtain ⟨ip, hip, hold⟩ := hc.asks id
  obtain ⟨new, htrace, hnew⟩ := h.extends
  -- a new broadcast is for the address the request has at that moment
  have hask : ∀ o ∈ new, ∀ tip iface frame v, o.2 = .sent (.arpRequest id tip) iface frame v →
      ∃ req, c.router.findReq id = some req ∧ tip = req.ip ∧ AsksFor req.ip frame := by
    intro o ho tip iface frame v heq
    have hem := (hnew o ho).2
    rw [heq] at hem
    cases hem with
    | retry hf hp hi => exact ⟨_, hf, rfl, asksFor_arpFrame _ _⟩
  have hall : ∀ t tip iface frame v,
      (t, Obs.sent (.arpRequest id tip) iface frame v) ∈ c'.router.trace →
        tip = ip ∧ AsksFor ip frame := by
    intro t tip iface frame v hmem
    rw [htrace] at hmem
    rcases List.mem_append.1 hmem with hmem | hmem
    · exact hold t tip iface frame v hmem
    · obtain ⟨req, hf, rfl, hasks⟩ := hask _ hmem tip iface frame v rfl
      rw [← hip req hf]
      exact ⟨rfl, hasks⟩
  by_cases hfresh : id = c.router.nextId
  · -- nothing was ever broadcast for an identity that is handed out by this move
    have hnone : c.router.findReq id = none := hfresh ▸ hw.findReq_nextId
    have hnil : ∀ t tip iface frame v,
        (t, Obs.sent (.arpRequest id tip) iface frame v) ∉ c'.router.trace := by
      intro t tip iface frame v hmem
      rw [htrace] at hmem
      rcases List.mem_append.1 hmem with hmem | hmem
      · have hmem := mem_broadcasts hmem
        rw [hc.unused id hfresh.ge] at hmem
        simp at hmem
      · obtain ⟨req, hf, -⟩ := hask _ hmem tip iface frame v rfl
        rw [hnone] at hf
        exact absurd hf (by simp)
    cases hf' : c'.router.findReq id with
    | none => exact ⟨ip, by simp, hall⟩
    | some r' =>
        refine ⟨r'.ip, ?_, fun t tip iface frame v hmem => absurd hmem (hnil t tip iface frame v)⟩
        intro r hr
        rw [Option.some.injEq] at hr
        rw [hr]
  · refine ⟨ip, ?_, hall⟩
    intro r' hf'
    cases h.reqChange hf' with
    | same hf => exact hip r' hf
    | pushed hlen hroute hreqip hreq hr' hdue hacc =>
        subst hr'
        rcases hreq with hf | ⟨hid, -⟩
        · exact (hip _ hf :)
        · exact absurd hid hfresh
    | bumped hf ht hn hr' =>
        subst hr'
        exact (hip _ hf :)

/-- A request with an error stays accounted for until it is gone. -/
lemma Move.ledger_keep (h : Move e c c') (hok : QueueOk c.router) (hgone : id < c.router.nextId)
    (hact : id ∈ c.active ∨ c.router.findReq id = none) :
    broadcasts id c'.router.trace = broadcasts id c.router.trace ∧
      (id ∈ c'.active ∨ c'.router.findReq id = none) := by
  constructor
  · rcases h.broadcasts_cases hok id with hb | ⟨-, hid, req, hf, -⟩
    · exact hb
    · rcases hact with hact | hnone
      · exact absurd hact hid
      · rw [hnone] at hf
        exact absurd hf (by simp)
  · cases h.kind with
    | plain hp =>
        rcases hact with hact | hnone
        · exact hp.active id hact
        · right
          cases hf' : c'.router.findReq id with
          | none => rfl
          | some r =>
              rw [hp.findReq id r hf'] at hnone
              exact absurd hnone (by simp)
    | @queue S s s' frame rt i nid hlen hroute hq hnid =>
        refine hact.imp_right fun hnone => ?_
        rw [hq.findReq_of_ne]
        · exact hnone
        · rintro rfl
          obtain ⟨req, -, -, -, hold | ⟨hnew, -⟩⟩ := hq.findReq_self
          · exact absurd (hold.symm.trans hnone) (by simp)
          · exact absurd hgone (not_lt.2 hnew.ge)
    | @retry S s id' req hf ht hn hid' =>
        refine hact.imp_right fun hnone => ?_
        have hne : id ≠ req.id := by
          rintro rfl
          rw [id_of_findReq hf] at hnone
          exact absurd (hf.symm.trans hnone) (by simp)
        change (retryArp s req).findReq id = none
        rw [retryArp_findReq, if_neg hne]
        exact hnone

lemma Move.ledger_gaveUp (h : Move e c c') (hok : QueueOk c.router) (hw : WF c.router)
    (hc : Ledger c) (t : ℕ) (cause : Cause)
    (hmem : (t, Obs.icmpError 3 1 cause) ∈ c'.router.trace) :
    ∃ id fid, cause = .giveUp id fid ∧ (broadcasts id c'.router.trace).length = 5 ∧
      (∀ u ∈ broadcasts id c'.router.trace, u + 1 ≤ t) ∧ id < c'.router.nextId ∧
      (id ∈ c'.active ∨ c'.router.findReq id = none) := by
  obtain ⟨new, htrace, hnew⟩ := h.extends
  rw [htrace] at hmem
  rcases List.mem_append.1 hmem with hmem | hmem
  · obtain ⟨id, fid, hcause, hfive, hlast, hlt, hact⟩ := hc.gaveUp t cause hmem
    obtain ⟨hb, hact'⟩ := h.ledger_keep hok hlt hact
    refine ⟨id, fid, hcause, ?_, ?_, hlt.trans_le h.nextId_le, hact'⟩
    · rw [hb, hfive]
    · rw [hb]
      exact hlast
  · obtain ⟨htime, hem⟩ := hnew _ hmem
    simp only at htime hem
    cases hem with
    | complain htc => exact absurd htc (by decide)
    | @report req p hf hx hp hact =>
        have hlt : req.id < c.router.nextId := hw.ids_lt req (mem_of_findReq hf)
        obtain ⟨hcount, hsent⟩ := hc.count _ req hf
        obtain ⟨hb, hact'⟩ := h.ledger_keep hok hlt (Or.inl hact)
        have htimes := (hok _ req hf).timesSent_le
        refine ⟨req.id, p.fid, rfl, ?_, ?_, hlt.trans_le h.nextId_le, hact'⟩
        · rw [hb, hcount]
          have := hx.2
          omega
        · rw [hb, htime]
          intro u hu
          have h₁ := hsent u hu
          have h₂ := hx.1
          omega

theorem Move.ledger (h : Move e c c') (hw : WF c.router) (hok : QueueOk c.router) (hc : Ledger c) :
    Ledger c' where
  count := h.ledger_count hok hc
  unused := h.ledger_unused hok hw hc
  spaced := fun id => (h.ledger_spaced hok hc id).1
  le_five := fun id => (h.ledger_spaced hok hc id).2
  asks := h.ledger_asks hw hc
  gaveUp := h.ledger_gaveUp hok hw hc

/-! ### Runs -/

variable {ifs : List SrIf} {rt : List SrRt} {now : ℕ} {junk : ℕ → ℕ → UInt8} {es : List Event}

lemma ledger_init : Ledger (.rest (Router.init ifs rt now junk)) where
  count := by simp [Config.rest, Router.init, Router.findReq]
  unused := by simp [Config.rest, Router.init, broadcasts]
  spaced := by simp [Config.rest, Router.init, broadcasts]
  le_five := by simp [Config.rest, Router.init, broadcasts]
  asks := fun id => ⟨0, by simp [Config.rest, Router.init, Router.findReq],
    by simp [Config.rest, Router.init]⟩
  gaveUp := by simp [Config.rest, Router.init]

theorem ledger_of_run (h : Run Step (Router.init ifs rt now junk) es s) : Ledger (.rest s) :=
  (run_invariant (I := fun c => QueueOk c.router ∧ Ledger c) h (wf_init ..)
    (fun _ _ _ hw hm hc => ⟨hm.queueOk hc.1, hm.ledger hw hc.1 hc.2⟩)
    ⟨by simp [QueueOk, Config.rest, Router.init, Router.findReq], ledger_init⟩).2.2

/-- The retry protocol.  The broadcasts of a pending request number `times_sent`;
those of any request, pending or gone, are at most five, a second or more apart,
and ask for its address.  A host-unreachable error is made only for a request with
five broadcasts, a second or more after the last, and the request is then gone. -/
theorem arp_retry_protocol (h : Run Step (Router.init ifs rt now junk) es s) :
    (∀ r ∈ s.requests, (broadcasts r.id s.trace).length = r.timesSent) ∧
    (∀ id, (broadcasts id s.trace).length ≤ 5 ∧
      (broadcasts id s.trace).Pairwise fun t u => t + 1 ≤ u) ∧
    (∀ id, ∃ ip, (∀ r ∈ s.requests, r.id = id → r.ip = ip) ∧
      ∀ t tip iface frame v, (t, Obs.sent (.arpRequest id tip) iface frame v) ∈ s.trace →
        tip = ip ∧ AsksFor ip frame) ∧
    ∀ t cause, (t, Obs.icmpError 3 1 cause) ∈ s.trace →
      ∃ id fid, cause = .giveUp id fid ∧ (broadcasts id s.trace).length = 5 ∧
        (∀ u ∈ broadcasts id s.trace, u + 1 ≤ t) ∧ s.findReq id = none := by
  have hw := wf_of_run h
  have hl := ledger_of_run h
  refine ⟨?_, ?_, ?_, ?_⟩
  · intro r hr
    exact (hl.count r.id r (hw.findReq_of_mem hr)).1
  · intro id
    exact ⟨hl.le_five id, hl.spaced id⟩
  · intro id
    obtain ⟨ip, hip, hasks⟩ := hl.asks id
    refine ⟨ip, ?_, hasks⟩
    rintro r hr rfl
    exact hip r (hw.findReq_of_mem hr)
  · intro t cause hmem
    obtain ⟨id, fid, hcause, hfive, hlast, -, hact⟩ := hl.gaveUp t cause hmem
    exact ⟨id, fid, hcause, hfive, hlast, hact.resolve_left (by simp [Config.rest, Config.active])⟩

/-- A request that is broadcast five times, by an arriving frame and by sweeps,
and then given up. -/
theorem arp_retry_protocol_sample :
    ∃ s es, Run Step sampleRouter es s ∧ (broadcasts 0 s.trace).length = 5 ∧
      (∃ t cause, (t, Obs.icmpError 3 1 cause) ∈ s.trace) ∧
      ∀ t cause, (t, Obs.icmpError 3 1 cause) ∈ s.trace →
        ∃ id fid, cause = .giveUp id fid ∧ (broadcasts id s.trace).length = 5 ∧
          (∀ u ∈ broadcasts id s.trace, u + 1 ≤ t) ∧ s.findReq id = none := by
  obtain ⟨s, hrun, hs⟩ := exists_run_of_leadsTo step_of_ok
    (show leadsTo (step 5) sampleRouter
      [.recv (sampleFrame (sampleIp 0 2) (sampleIp 1 2) 64 20) (sampleName 0), .sweep, .tick 1,
        .sweep, .tick 1, .sweep, .tick 1,
        .recv (sampleFrame (sampleIp 0 3) (sampleIp 1 2) 64 20) (sampleName 0), .tick 1, .sweep,
        .tick 1, .sweep]
      (fun s => (broadcasts 0 s.trace).length = 5 ∧ (6, Obs.icmpError 3 1 (.giveUp 0 0)) ∈ s.trace)
      by decide +kernel)
  obtain ⟨hfive, hmem⟩ := of_decide_eq_true hs
  exact ⟨s, _, hrun, hfive, ⟨_, _, hmem⟩, (arp_retry_protocol hrun).2.2.2⟩

end SimpleRouter
