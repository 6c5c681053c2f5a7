/-
A call that comes back to a request that is still being given up does not
return.

While a request is given up, the queue holds it unchanged: it is destroyed only
after the last of its packets has been reported.  Suppose that the chain of
nested calls reaches a request on the stack again.  The requests from there to
the top of the stack form a trap: each has a packet whose error is queued on
the next.  The first call on a member of a trap that returned would have to
report that packet, and would have to return from a call on another member
before.  So a call that returns never meets its own stack, and this file
redoes its derivation with that knowledge: `Tidy A c s s'` is a derivation in
which no request of the stack `A` is touched.
-/
import SimpleRouter.GiveUp

namespace SimpleRouter

open Bytes CString

variable {s s' s₁ s₂ : Router} {id nid a b : ReqId} {req : SrArpreq} {pkt : SrPacket}
  {rest pkts : List SrPacket} {A : List ReqId} {c : Call}

/-! ### What every call leaves alone -/

/-- Interfaces, routes and clock are the same. -/
structure SameEnv (s s' : Router) : Prop where
  ifList : s'.ifList = s.ifList
  routingTable : s'.routingTable = s.routingTable
  now : s'.now = s.now

namespace SameEnv

lemma refl (s : Router) : SameEnv s s := ⟨rfl, rfl, rfl⟩

lemma trans {s₁ s₂ s₃ : Router} (h : SameEnv s₁ s₂) (h' : SameEnv s₂ s₃) : SameEnv s₁ s₃ :=
  ⟨h'.ifList.trans h.ifList, h'.routingTable.trans h.routingTable, h'.now.trans h.now⟩

lemma symm (h : SameEnv s s') : SameEnv s' s :=
  ⟨h.ifList.symm, h.routingTable.symm, h.now.symm⟩

lemma of_core (h : s'.core = s.core) : SameEnv s s' :=
  ⟨ifList_of_core h, routingTable_of_core h, now_of_core h⟩

lemma returnHop (h : SameEnv s s') (dst : Ip) : returnHop s' dst = returnHop s dst :=
  returnHop_congr h.ifList h.routingTable dst

lemma returnSource (h : SameEnv s s') (dst : Ip) : returnSource s' dst = returnSource s dst :=
  returnSource_congr h.ifList h.routingTable dst

lemma lookupRoute (h : SameEnv s s') (dst : Ip) : lookupRoute s' dst = lookupRoute s dst :=
  lookupRoute_congr h.ifList h.routingTable dst

lemma destroy (s : Router) (id : ReqId) : SameEnv s (srArpreqDestroy s id) := ⟨rfl, rfl, rfl⟩

lemma retry (s : Router) (req : SrArpreq) : SameEnv s (retryArp s req) :=
  have hmod : SameEnv s (s.modifyReq req.id (bump s.now)) := ⟨rfl, rfl, rfl⟩
  hmod.trans (of_core (retryArp_core s req))

end SameEnv

lemma Queues.sameEnv {ip : Ip} (h : Queues s ip pkt s' nid) : SameEnv s s' :=
  ⟨h.ifList, h.routingTable, h.now⟩

/-! ### What a report does -/

/-- The error packet that is queued for a packet of `id`. -/
def errPacket (s : Router) (id : ReqId) (pkt : SrPacket) (i : SrIf) : SrPacket :=
  routedPacket s (unreachableFrame s id pkt) i

/-- The state in which the error is put on the queue. -/
def announced (s : Router) (id : ReqId) (pkt : SrPacket) (hop : Ip) (i : SrIf) : Router :=
  ((quoted s id pkt).noteRead (unreachableFrame s id pkt) 14 20).emit
    (.accepted hop (errPacket s id pkt i))

@[simp] lemma noted_core : (noted s id pkt).core = s.core := by
  rw [noted, core_noteRead, core_emit]

@[simp] lemma quoted_core : (quoted s id pkt).core = s.core := by
  rw [quoted, core_noteRead, noted_core]

@[simp] lemma announced_core {hop : Ip} {i : SrIf} : (announced s id pkt hop i).core = s.core := by
  rw [announced, core_emit, core_noteRead, quoted_core]

lemma announced_trace {hop : Ip} {i : SrIf} :
    (announced s id pkt hop i).trace = s.trace ++
      [(s.now, .icmpError 3 1 (.giveUp id pkt.fid)), (s.now, .accepted hop (errPacket s id pkt i))] := by
  simp [announced, quoted, noted]

lemma length_unreachableFrame : (unreachableFrame s id pkt).length = 70 := by
  rw [unreachableFrame, length_icmpErrorFrame (Router.length_peek _ _ _ _)]

/-- The error is queued under the next hop on the way back. -/
lemma report_queues (hw : WF s) (hsrc : returnSource s pkt.src ≠ 0)
    (hq : routeAndQueue (quoted s id pkt) (unreachableFrame s id pkt) = (s₁, some nid)) :
    ∃ rt i, lookupRoute s pkt.src = some (rt, i) ∧
      returnHop s pkt.src = some (nextHop rt pkt.src) ∧
      Queues (announced s id pkt (nextHop rt pkt.src) i) (nextHop rt pkt.src)
        (errPacket s id pkt i) s₁ nid := by
  have hwq : WF (quoted s id pkt) := hw.of_core quoted_core
  rcases routeAndQueue_cases hwq (unreachableFrame s id pkt) with
    ⟨-, h⟩ | ⟨-, -, h⟩ | ⟨-, rt, i, s', nid', hroute, h, hqs⟩
  · simp [h] at hq
  · simp [h] at hq
  · rw [h, Prod.mk.injEq, Option.some.injEq] at hq
    obtain ⟨rfl, rfl⟩ := hq
    have hroute' : lookupRoute s pkt.src = some (rt, i) := by
      rw [← hroute, unreachableFrame, ip32_icmpErrorFrame_dst]
      exact ((SameEnv.of_core quoted_core).lookupRoute _).symm
    have hip : i.ip ≠ 0 := by
      rw [returnSource_eq, hroute'] at hsrc
      exact hsrc
    exact ⟨rt, i, hroute', by simp [returnHop, hroute', hip], hqs⟩

/-- A report leaves the environment alone and keeps the queue well formed. -/
lemma report_sameEnv (hw : WF s) (hsrc : returnSource s pkt.src ≠ 0)
    (hq : routeAndQueue (quoted s id pkt) (unreachableFrame s id pkt) = (s₁, some nid)) :
    SameEnv s s₁ ∧ WF s₁ := by
  obtain ⟨rt, i, -, -, hqs⟩ := report_queues hw hsrc hq
  have hann : (announced s id pkt (nextHop rt pkt.src) i).core = s.core := announced_core
  exact ⟨(SameEnv.of_core hann).trans hqs.sameEnv, hqs.wf (hw.of_core hann)⟩

lemma Exec.sameEnv_wf (h : Exec c s s') (hw : WF s) : SameEnv s s' ∧ WF s' := by
  induction h with
  | idle hf ht => exact ⟨.refl _, hw⟩
  | @retry s id req hf ht hn => exact ⟨.retry s req, hw.retryArp req⟩
  | @expire s s' id req hf hx _ ih =>
      obtain ⟨he, hw'⟩ := ih hw
      exact ⟨he.trans (.destroy s' id), hw'.srArpreqDestroy⟩
  | done => exact ⟨.refl _, hw⟩
  | short hl _ ih => exact ih hw
  | @mute s s' id pkt rest hl hsrc hlive _ ih =>
      obtain ⟨he, hw'⟩ := ih (hw.of_core noted_core)
      exact ⟨(SameEnv.of_core noted_core).trans he, hw'⟩
  | report hl hsrc hq _ hlive _ ih₁ ih₂ =>
      obtain ⟨he, hw₁⟩ := report_sameEnv hw hsrc hq
      obtain ⟨he₁, hw₂⟩ := ih₁ hw₁
      obtain ⟨he₂, hw'⟩ := ih₂ hw₂
      exact ⟨(he.trans he₁).trans he₂, hw'⟩

lemma Exec.wf (h : Exec c s s') (hw : WF s) : WF s' := (h.sameEnv_wf hw).2

lemma Exec.sameEnv (h : Exec c s s') (hw : WF s) : SameEnv s s' := (h.sameEnv_wf hw).1

/-! ### Traps -/

/-- The error for `pkt` would be queued on the request `b`. -/
def HopsTo (s : Router) (pkt : SrPacket) (b : ReqId) : Prop :=
  34 ≤ pkt.buf.length ∧ ∃ r, s.findReq b = some r ∧ returnHop s pkt.src = some r.ip

/-- A set of expired requests, each with a packet whose error would be queued on
a request of the set. -/
def Trap (s : Router) (T : Set ReqId) : Prop :=
  ∀ a ∈ T, ∃ r, s.findReq a = some r ∧ Expired s.now r ∧ ∃ pkt ∈ r.packets, ∃ b ∈ T, HopsTo s pkt b

/-- What a trap says about the record of a member. -/
lemma Trap.of_findReq {T : Set ReqId} {r : SrArpreq} (hT : Trap s T) (ha : a ∈ T)
    (hf : s.findReq a = some r) :
    Expired s.now r ∧ ∃ pkt ∈ r.packets, ∃ b ∈ T, HopsTo s pkt b := by
  obtain ⟨r', hr', h⟩ := hT a ha
  obtain rfl : r = r' := Option.some_injective _ (hf.symm.trans hr')
  exact h

/-- The request `a` is still there; it may have got more packets. -/
def Keeps (s s' : Router) (a : ReqId) : Prop :=
  ∀ r, s.findReq a = some r → ∃ r', s'.findReq a = some r' ∧ r'.ip = r.ip ∧ r'.sent = r.sent ∧
    r'.timesSent = r.timesSent ∧ ∀ p ∈ r.packets, p ∈ r'.packets

lemma Keeps.of_findReq_eq (h : s'.findReq a = s.findReq a) : Keeps s s' a := by
  intro r hr
  exact ⟨r, h.trans hr, rfl, rfl, rfl, fun _ hp => hp⟩

lemma Keeps.trans {s₁ s₂ s₃ : Router} (h : Keeps s₁ s₂ a) (h' : Keeps s₂ s₃ a) :
    Keeps s₁ s₃ a := by
  intro r hr
  obtain ⟨r₂, hr₂, h₁, h₂, h₃, h₄⟩ := h r hr
  obtain ⟨r₃, hr₃, h₁', h₂', h₃', h₄'⟩ := h' r₂ hr₂
  exact ⟨r₃, hr₃, h₁'.trans h₁, h₂'.trans h₂, h₃'.trans h₃, fun p hp => h₄' p (h₄ p hp)⟩

/-- Queueing a packet only adds to the queue. -/
lemma Queues.keeps {ip : Ip} (hw : WF s) (h : Queues s ip pkt s' nid) (a : ReqId) :
    Keeps s s' a := by
  by_cases ha : a = nid
  · subst ha
    obtain ⟨req, hreq, -, -, hold | ⟨hnew, -⟩⟩ := h.findReq_self
    · intro r hr
      obtain rfl : req = r := Option.some_injective _ (hold.symm.trans hr)
      exact ⟨req.push pkt, hreq, rfl, rfl, rfl, fun p hp => List.mem_cons_of_mem _ hp⟩
    · intro r hr
      rw [hnew, hw.findReq_nextId] at hr
      exact absurd hr (by simp)
  · exact .of_findReq_eq (h.findReq_of_ne ha)

lemma report_keeps (hw : WF s) (hsrc : returnSource s pkt.src ≠ 0)
    (hq : routeAndQueue (quoted s id pkt) (unreachableFrame s id pkt) = (s₁, some nid))
    (a : ReqId) : Keeps s s₁ a := by
  obtain ⟨rt, i, -, -, hqs⟩ := report_queues hw hsrc hq
  have hann : (announced s id pkt (nextHop rt pkt.src) i).core = s.core := announced_core
  exact (Keeps.of_findReq_eq (findReq_of_core hann a)).trans (hqs.keeps (hw.of_core hann) a)

lemma HopsTo.keeps (h : HopsTo s pkt b) (he : SameEnv s s') (hk : Keeps s s' b) :
    HopsTo s' pkt b := by
  obtain ⟨hl, r, hr, hhop⟩ := h
  obtain ⟨r', hr', hip, -⟩ := hk r hr
  exact ⟨hl, r', hr', by rw [he.returnHop, hhop, hip]⟩

lemma Trap.keeps {T : Set ReqId} (h : Trap s T) (he : SameEnv s s')
    (hk : ∀ a ∈ T, Keeps s s' a) : Trap s' T := by
  intro a ha
  obtain ⟨r, hr, hx, p, hp, b, hb, hhop⟩ := h a ha
  obtain ⟨r', hr', -, hsent, htimes, hpk⟩ := hk a ha r hr
  refine ⟨r', hr', ?_, p, hpk p hp, b, hb, hhop.keeps he (hk b hb)⟩
  rw [Expired, he.now, hsent, htimes]
  exact hx

/-- The report of a packet that hops to `b` queues the error on `b`. -/
lemma report_id_of_hopsTo (hw : WF s) (hsrc : returnSource s pkt.src ≠ 0)
    (hq : routeAndQueue (quoted s id pkt) (unreachableFrame s id pkt) = (s₁, some nid))
    (hhop : HopsTo s pkt b) : nid = b := by
  obtain ⟨rt, i, -, hret, hqs⟩ := report_queues hw hsrc hq
  obtain ⟨-, r, hr, hrip⟩ := hhop
  have hann : (announced s id pkt (nextHop rt pkt.src) i).core = s.core := announced_core
  rw [hret, Option.some.injEq] at hrip
  exact hqs.eq_id_of_ip_eq (hw.of_core hann) ((findReq_of_core hann b).trans hr) hrip.symm

/-- What the induction on a derivation says about a trap: the call is not on a
member of it and reports no packet into it. -/
def Call.Avoids (s : Router) (T : Set ReqId) : Call → Prop
  | .handle id => id ∉ T
  | .giveUp _ pkts => ∀ p ∈ pkts, ∀ b ∈ T, ¬ HopsTo s p b

theorem Exec.avoids_trap (h : Exec c s s') (hw : WF s) {T : Set ReqId} (hT : Trap s T) :
    c.Avoids s T ∧ ∀ a ∈ T, Keeps s s' a := by
  induction h with
  | @idle s id req hf ht =>
      refine ⟨fun hid => ?_, fun a _ => .of_findReq_eq rfl⟩
      have := (hT.of_findReq hid hf).1.1
      omega
  | @retry s id req hf ht hn =>
      have hid : id ∉ T := by
        intro hid
        have := (hT.of_findReq hid hf).1.2
        omega
      refine ⟨hid, fun a ha => .of_findReq_eq ?_⟩
      rw [retryArp_findReq, if_neg]
      rw [id_of_findReq hf]
      exact fun h => hid (h ▸ ha)
  | @expire s s' id req hf hx _ ih =>
      obtain ⟨hav, hk⟩ := ih hw hT
      have hid : id ∉ T := by
        -- one of its packets would lead to a member of the trap, which the loop avoids
        intro hid
        obtain ⟨-, p, hp, b, hb, hhop⟩ := hT.of_findReq hid hf
        exact hav p hp b hb hhop
      refine ⟨hid, fun a ha => (hk a ha).trans (.of_findReq_eq ?_)⟩
      rw [findReq_srArpreqDestroy, if_neg]
      exact fun h => hid (h ▸ ha)
  | done => exact ⟨by simp [Call.Avoids], fun a _ => .of_findReq_eq rfl⟩
  | @short s s' id pkt rest hl _ ih =>
      obtain ⟨hav, hk⟩ := ih hw hT
      refine ⟨?_, hk⟩
      intro p hp b hb hhop
      rcases List.mem_cons.1 hp with rfl | hp
      · have := hhop.1
        omega
      · exact hav p hp b hb hhop
  | @mute s s' id pkt rest hl hsrc hlive _ ih =>
      have he : SameEnv s (noted s id pkt) := .of_core noted_core
      have hk₀ : ∀ a, Keeps s (noted s id pkt) a := fun a =>
        .of_findReq_eq (findReq_of_core noted_core a)
      obtain ⟨hav, hk⟩ := ih (hw.of_core noted_core) (hT.keeps he fun a _ => hk₀ a)
      refine ⟨?_, fun a ha => (hk₀ a).trans (hk a ha)⟩
      intro p hp b hb hhop
      rcases List.mem_cons.1 hp with rfl | hp
      · -- a packet without a way back leads nowhere
        obtain ⟨-, r, -, hret⟩ := hhop
        rw [returnHop_eq_none_iff.2 hsrc] at hret
        exact absurd hret (by simp)
      · exact hav p hp b hb (hhop.keeps he (hk₀ b))
  | @report s s₁ s₂ s' id nid pkt rest hl hsrc hq hcall hlive _ ih₁ ih₂ =>
      obtain ⟨he, hw₁⟩ := report_sameEnv hw hsrc hq
      have hk₀ := report_keeps hw hsrc hq
      have hT₁ : Trap s₁ T := hT.keeps he fun a _ => hk₀ a
      obtain ⟨hnid, hk₁⟩ := ih₁ hw₁ hT₁
      have he₁ := hcall.sameEnv hw₁
      obtain ⟨hav, hk₂⟩ := ih₂ (hcall.wf hw₁) (hT₁.keeps he₁ hk₁)
      refine ⟨?_, fun a ha => ((hk₀ a).trans (hk₁ a ha)).trans (hk₂ a ha)⟩
      intro p hp b hb hhop
      rcases List.mem_cons.1 hp with rfl | hp
      · exact hnid (report_id_of_hopsTo hw hsrc hq hhop ▸ hb)
      · exact hav p hp b hb (hhop.keeps (he.trans he₁) ((hk₀ b).trans (hk₁ b hb)))

/-- No call on a member of a trap returns. -/
theorem Exec.not_mem_trap (h : Exec (.handle id) s s') (hw : WF s) {T : Set ReqId}
    (hT : Trap s T) : id ∉ T :=
  (h.avoids_trap hw hT).1

/-! ### The stack of active requests -/

/-- `Linked s z A`: the requests of the stack `A` are being given up, and each is
at a packet whose error is queued on the request above it; above the topmost
one is `z`. -/
def Linked (s : Router) : ReqId → List ReqId → Prop
  | _, [] => True
  | z, a :: A =>
      (∃ r, s.findReq a = some r ∧ Expired s.now r ∧ ∃ p ∈ r.packets, HopsTo s p z) ∧ Linked s a A

lemma Linked.expired {z : ReqId} (h : Linked s z A) (ha : a ∈ A) :
    ∃ r, s.findReq a = some r ∧ Expired s.now r := by
  induction A generalizing z with
  | nil => simp at ha
  | cons x A ih =>
      obtain ⟨⟨r, hr, hx, -⟩, hlink⟩ := h
      rcases List.mem_cons.1 ha with rfl | ha
      · exact ⟨r, hr, hx⟩
      · exact ih hlink ha

lemma Linked.keeps {z : ReqId} (h : Linked s z A) (he : SameEnv s s')
    (hk : ∀ a ∈ z :: A, Keeps s s' a) : Linked s' z A := by
  induction A generalizing z with
  | nil => trivial
  | cons x A ih =>
      obtain ⟨⟨r, hr, hx, p, hp, hhop⟩, hlink⟩ := h
      obtain ⟨r', hr', -, hsent, htimes, hpk⟩ := hk x (by simp) r hr
      refine ⟨⟨r', hr', ?_, p, hpk p hp, hhop.keeps he (hk z (by simp))⟩, ?_⟩
      · rw [Expired, he.now, hsent, htimes]
        exact hx
      · exact ih hlink fun a ha => hk a (List.mem_cons_of_mem _ ha)

/-- The part of the stack down to a request is a trap but for the way out at the
top. -/
lemma Linked.exists_almost_trap {y z : ReqId} (h : Linked s y A) (hz : z ∈ A) :
    ∃ T : Set ReqId, z ∈ T ∧ ∀ a ∈ T, ∃ r, s.findReq a = some r ∧ Expired s.now r ∧
      ∃ p ∈ r.packets, ∃ b, (b ∈ T ∨ b = y) ∧ HopsTo s p b := by
  induction A generalizing y with
  | nil => simp at hz
  | cons x A ih =>
      obtain ⟨⟨r, hr, hx, p, hp, hhop⟩, hlink⟩ := h
      rcases List.mem_cons.1 hz with rfl | hz
      · refine ⟨{z}, rfl, ?_⟩
        rintro a rfl
        exact ⟨r, hr, hx, p, hp, y, Or.inr rfl, hhop⟩
      · obtain ⟨T, hzT, hT⟩ := ih hlink hz
        refine ⟨insert x T, Set.mem_insert_of_mem x hzT, ?_⟩
        intro a ha
        rcases Set.mem_insert_iff.1 ha with rfl | ha
        · exact ⟨r, hr, hx, p, hp, y, Or.inr rfl, hhop⟩
        · obtain ⟨r', hr', hx', p', hp', b, hb, hhop'⟩ := hT a ha
          refine ⟨r', hr', hx', p', hp', b, Or.inl ?_, hhop'⟩
          rcases hb with hb | rfl
          · exact Set.mem_insert_of_mem x hb
          · exact Set.mem_insert b T

/-- A call that returns is not on a request of its stack. -/
lemma Exec.not_mem_stack (h : Exec (.handle id) s s') (hw : WF s) (hlink : Linked s id A) :
    id ∉ A := by
  intro hid
  obtain ⟨T, hidT, hT⟩ := hlink.exists_almost_trap hid
  refine h.not_mem_trap hw (T := T) ?_ hidT
  intro a ha
  obtain ⟨r, hr, hx, p, hp, b, hb, hhop⟩ := hT a ha
  rcases hb with hb | rfl
  · exact ⟨r, hr, hx, p, hp, b, hb, hhop⟩
  · exact ⟨r, hr, hx, p, hp, b, hidT, hhop⟩

/-- A report puts the request it is made for on the stack. -/
lemma Linked.report (h : Linked s id A) (hw : WF s) {r : SrArpreq} (hr : s.findReq id = some r)
    (hx : Expired s.now r) (hpk : pkt ∈ r.packets) (hl : 34 ≤ pkt.buf.length)
    (hsrc : returnSource s pkt.src ≠ 0)
    (hq : routeAndQueue (quoted s id pkt) (unreachableFrame s id pkt) = (s₁, some nid)) :
    Linked s₁ nid (id :: A) := by
  have he := (report_sameEnv hw hsrc hq).1
  have hk := report_keeps hw hsrc hq
  obtain ⟨rt, i, -, hret, hqs⟩ := report_queues hw hsrc hq
  obtain ⟨req, hreq, hip, -⟩ := hqs.findReq_self
  obtain ⟨r', hr', -, hsent, htimes, hpk'⟩ := hk id r hr
  refine ⟨⟨r', hr', ?_, pkt, hpk' pkt hpk, hl, req.push _, hreq, ?_⟩, h.keeps he fun a _ => hk a⟩
  · rw [Expired, he.now, hsent, htimes]
    exact hx
  · rw [he.returnHop, hret, SrArpreq.push_ip, hip]

/-- A derivation in which the requests of the stack `A` are not touched. -/
inductive Tidy : List ReqId → Call → Router → Router → Prop
  | idle {A : List ReqId} {s : Router} {id : ReqId} {req : SrArpreq} (hw : WF s)
      (hf : s.findReq id = some req) (ht : s.now - req.sent < 1) : Tidy A (.handle id) s s
  | retry {A : List ReqId} {s : Router} {id : ReqId} {req : SrArpreq} (hw : WF s)
      (hf : s.findReq id = some req) (ht : 1 ≤ s.now - req.sent) (hn : req.timesSent < 5)
      (hid : id ∉ A) : Tidy A (.handle id) s (retryArp s req)
  | expire {A : List ReqId} {s s' : Router} {id : ReqId} {req : SrArpreq} (hw : WF s)
      (hf : s.findReq id = some req) (hx : Expired s.now req) (hid : id ∉ A)
      (hloop : Tidy (id :: A) (.giveUp id req.packets) s s') :
      Tidy A (.handle id) s (srArpreqDestroy s' id)
  | done {A : List ReqId} {s : Router} {id : ReqId} (hw : WF s) : Tidy A (.giveUp id []) s s
  | short {A : List ReqId} {s s' : Router} {id : ReqId} {pkt : SrPacket} {rest : List SrPacket}
      (hw : WF s) (hl : pkt.buf.length < 34) (hrest : Tidy A (.giveUp id rest) s s') :
      Tidy A (.giveUp id (pkt :: rest)) s s'
  | mute {A : List ReqId} {s s' : Router} {id : ReqId} {pkt : SrPacket} {rest : List SrPacket}
      (hw : WF s) (hl : 34 ≤ pkt.buf.length) (hsrc : returnSource s pkt.src = 0)
      (hrest : Tidy A (.giveUp id rest) (noted s id pkt) s') :
      Tidy A (.giveUp id (pkt :: rest)) s s'
  | report {A : List ReqId} {s s₁ s₂ s' : Router} {id nid : ReqId} {pkt : SrPacket}
      {rest : List SrPacket} (hw : WF s) (hl : 34 ≤ pkt.buf.length)
      (hsrc : returnSource s pkt.src ≠ 0)
      (hq : routeAndQueue (quoted s id pkt) (unreachableFrame s id pkt) = (s₁, some nid))
      (hnid : nid ∉ A) (hcall : Tidy A (.handle nid) s₁ s₂)
      (hrest : Tidy A (.giveUp id rest) s₂ s') : Tidy A (.giveUp id (pkt :: rest)) s s'

lemma report_findReq_of_ne (hw : WF s) (hsrc : returnSource s pkt.src ≠ 0)
    (hq : routeAndQueue (quoted s id pkt) (unreachableFrame s id pkt) = (s₁, some nid))
    (ha : a ≠ nid) : s₁.findReq a = s.findReq a := by
  obtain ⟨rt, i, -, -, hqs⟩ := report_queues hw hsrc hq
  rw [hqs.findReq_of_ne ha, findReq_of_core announced_core]

lemma Tidy.findReq_of_mem (h : Tidy A c s s') (ha : a ∈ A) : s'.findReq a = s.findReq a := by
  induction h with
  | idle => rfl
  | @retry A s id req hw hf ht hn hid =>
      rw [retryArp_findReq, if_neg]
      rw [id_of_findReq hf]
      exact fun h => hid (h ▸ ha)
  | @expire A s s' id req hw hf hx hid _ ih =>
      rw [findReq_srArpreqDestroy, if_neg]
      · exact ih (List.mem_cons_of_mem _ ha)
      · exact fun h => hid (h ▸ ha)
  | done => rfl
  | short hw hl _ ih => exact ih ha
  | mute hw hl hsrc _ ih => rw [ih ha, findReq_of_core noted_core]
  | report hw hl hsrc hq hnid _ _ ih₁ ih₂ =>
      rw [ih₂ ha, ih₁ ha, report_findReq_of_ne hw hsrc hq fun h => hnid (h ▸ ha)]

/-- The stack fits the call: its top is linked to the request that is handled,
or is the request whose packets are being given up. -/
def Call.Fits (s : Router) : Call → List ReqId → Prop
  | .handle id, A => Linked s id A
  | .giveUp id pkts, A => ∃ B r, A = id :: B ∧ Linked s id B ∧ s.findReq id = some r ∧
      Expired s.now r ∧ ∀ p ∈ pkts, p ∈ r.packets

theorem Exec.tidy (h : Exec c s s') (hw : WF s) (hfit : c.Fits s A) : Tidy A c s s' := by
  induction h generalizing A with
  | idle hf ht => exact .idle hw hf ht
  | @retry s id req hf ht hn =>
      refine .retry hw hf ht hn fun hid => ?_
      obtain ⟨r, hr, hx⟩ := Linked.expired hfit hid
      obtain rfl : req = r := Option.some_injective _ (hf.symm.trans hr)
      have := hx.2
      omega
  | @expire s s' id req hf hx hloop ih =>
      have hid : id ∉ A := (Exec.expire hf hx hloop).not_mem_stack hw hfit
      exact .expire hw hf hx hid (ih hw ⟨A, req, rfl, hfit, hf, hx, fun _ hp => hp⟩)
  | done => exact .done hw
  | short hl _ ih =>
      obtain ⟨B, r, hA, hlink, hr, hx, hpk⟩ := hfit
      exact .short hw hl (ih hw ⟨B, r, hA, hlink, hr, hx,
        fun p hp => hpk p (List.mem_cons_of_mem _ hp)⟩)
  | @mute s s' id pkt rest hl hsrc hlive _ ih =>
      obtain ⟨B, r, hA, hlink, hr, hx, hpk⟩ := hfit
      refine .mute hw hl hsrc (ih (hw.of_core noted_core) ⟨B, r, hA, ?_, ?_, hx,
        fun p hp => hpk p (List.mem_cons_of_mem _ hp)⟩)
      · exact hlink.keeps (.of_core noted_core) fun a _ =>
          .of_findReq_eq (findReq_of_core noted_core a)
      · rw [findReq_of_core noted_core, hr]
  | @report s s₁ s₂ s' id nid pkt rest hl hsrc hq hcall hlive _ ih₁ ih₂ =>
      obtain ⟨B, r, rfl, hlink, hr, hx, hpk⟩ := hfit
      obtain ⟨he, hw₁⟩ := report_sameEnv hw hsrc hq
      have hlink₁ : Linked s₁ nid (id :: B) :=
        hlink.report hw hr hx (hpk pkt (by simp)) hl hsrc hq
      have hnid : nid ∉ id :: B := hcall.not_mem_stack hw₁ hlink₁
      have hcall' : Tidy (id :: B) (.handle nid) s₁ s₂ := ih₁ hw₁ hlink₁
      have hsame : ∀ a ∈ id :: B, s₂.findReq a = s.findReq a := by
        intro a ha
        rw [hcall'.findReq_of_mem ha, report_findReq_of_ne hw hsrc hq fun h => hnid (h ▸ ha)]
      have he₂ : SameEnv s s₂ := he.trans (hcall.sameEnv hw₁)
      refine .report hw hl hsrc hq hnid hcall' (ih₂ (hcall.wf hw₁) ⟨B, r, rfl, ?_, ?_, ?_, ?_⟩)
      · exact hlink.keeps he₂ fun a ha => .of_findReq_eq (hsame a ha)
      · rw [hsame id (by simp), hr]
      · rw [Expired, he₂.now]
        exact hx
      · exact fun p hp => hpk p (List.mem_cons_of_mem _ hp)

/-- A call that returns does so by a tidy derivation. -/
theorem tidy_of_handleArpreq {fuel : ℕ} (hw : WF s) (h : handleArpreq fuel s id = .ok s') :
    Tidy [] (.handle id) s s' :=
  (exec_of_handleArpreq h).tidy hw trivial

lemma Tidy.sameEnv_wf (h : Tidy A c s s') : SameEnv s s' ∧ WF s' := by
  induction h with
  | idle hw => exact ⟨.refl _, hw⟩
  | @retry A s id req hw => exact ⟨.retry s req, hw.retryArp req⟩
  | @expire A s s' id req hw hf hx hid _ ih => exact ⟨ih.1.trans (.destroy s' id), ih.2.srArpreqDestroy⟩
  | done hw => exact ⟨.refl _, hw⟩
  | short hw hl _ ih => exact ih
  | mute hw hl hsrc _ ih => exact ⟨(SameEnv.of_core noted_core).trans ih.1, ih.2⟩
  | report hw hl hsrc hq hnid _ _ ih₁ ih₂ =>
      exact ⟨((report_sameEnv hw hsrc hq).1.trans ih₁.1).trans ih₂.1, ih₂.2⟩

lemma Tidy.wf (h : Tidy A c s s') : WF s' := h.sameEnv_wf.2

lemma Tidy.sameEnv (h : Tidy A c s s') : SameEnv s s' := h.sameEnv_wf.1

/-! ### Faults

The call on a pending request does not use a destroyed one: it returns, or it
runs out of fuel. -/

lemma fault_of_giveUpLoop {fuel : ℕ} {f : Fault} {r : SrArpreq}
    (hh : ∀ s nid A, WF s → (s.findReq nid).isSome → Linked s nid A →
      handleArpreq fuel s nid = .error f → f = .outOfFuel)
    (hw : WF s) (hlink : Linked s id A) (hr : s.findReq id = some r) (hx : Expired s.now r)
    (hpk : ∀ p ∈ pkts, p ∈ r.packets)
    (h : giveUpLoop (handleArpreq fuel) id pkts s = .error f) : f = .outOfFuel := by
  induction pkts generalizing s with
  | nil => simp [giveUpLoop] at h
  | cons pkt rest ih =>
      have hpk' : ∀ p ∈ rest, p ∈ r.packets := fun p hp => hpk p (List.mem_cons_of_mem _ hp)
      rw [giveUpLoop] at h
      split_ifs at h with hl
      · exact ih hw hlink hr hx hpk' h
      · rw [not_lt] at hl
        rw [sendIcmpError_giveUp _ s id pkt hl] at h
        split_ifs at h with hsrc
        · have hf : (noted s id pkt).findReq id = some r := by rw [findReq_of_core noted_core, hr]
          simp only [bind, Except.bind, hf, Option.isSome_some, if_true] at h
          refine ih (hw.of_core noted_core) ?_ hf hx hpk' h
          exact hlink.keeps (.of_core noted_core) fun a _ =>
            .of_findReq_eq (findReq_of_core noted_core a)
        · obtain ⟨s₁, nid, hq⟩ := exists_routeAndQueue_quoted id hsrc
          obtain ⟨he, hw₁⟩ := report_sameEnv hw hsrc hq
          have hlink₁ := hlink.report hw hr hx (hpk pkt (by simp)) hl hsrc hq
          rw [routeAndSend, hq] at h
          cases hcall : handleArpreq fuel s₁ nid with
          | error f' =>
              obtain rfl : f' = f := by simpa [hcall, bind, Except.bind, Except.map] using h
              refine hh s₁ nid _ hw₁ ?_ hlink₁ hcall
              obtain ⟨rt, i, -, -, hqs⟩ := report_queues hw hsrc hq
              obtain ⟨req, hreq, -⟩ := hqs.findReq_self
              rw [hreq]
              rfl
          | ok s₂ =>
              -- the request on the stack is still there
              have htidy := (exec_of_handleArpreq hcall).tidy (A := id :: A) hw₁ hlink₁
              have hnid := (exec_of_handleArpreq hcall).not_mem_stack hw₁ hlink₁
              have hsame : ∀ a ∈ id :: A, s₂.findReq a = s.findReq a := by
                intro a ha
                rw [htidy.findReq_of_mem ha,
                  report_findReq_of_ne hw hsrc hq fun h => hnid (h ▸ ha)]
              have he₂ : SameEnv s s₂ := he.trans htidy.sameEnv
              have hr₂ : s₂.findReq id = some r := by rw [hsame id (by simp), hr]
              simp only [hcall, bind, Except.bind, Except.map, hr₂, Option.isSome_some,
                if_true] at h
              refine ih htidy.wf ?_ hr₂ (he₂.now ▸ hx) hpk' h
              exact hlink.keeps he₂ fun a ha => .of_findReq_eq (hsame a ha)

lemma fault_of_handleArpreq {fuel : ℕ} {f : Fault} (hw : WF s) (hlive : (s.findReq id).isSome)
    (hlink : Linked s id A) (h : handleArpreq fuel s id = .error f) : f = .outOfFuel := by
  induction fuel generalizing s id A with
  | zero =>
      rw [handleArpreq, Except.error.injEq] at h
      exact h.symm
  | succ fuel ih =>
      obtain ⟨r, hr⟩ := Option.isSome_iff_exists.1 hlive
      rw [handleArpreq] at h
      simp only [hr] at h
      split_ifs at h with ht hn
      cases hloop : giveUpLoop (handleArpreq fuel) id r.packets s with
      | ok s' => simp [hloop, bind, Except.bind] at h
      | error f' =>
          obtain rfl : f' = f := by simpa [hloop, bind, Except.bind] using h
          exact fault_of_giveUpLoop (fun s nid A hw hlive hlink h => ih hw hlive hlink h) hw hlink hr
            ⟨by omega, hn⟩ (fun _ hp => hp) hloop

end SimpleRouter
