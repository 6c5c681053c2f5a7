/-
When `handle_arpreq` returns.

The recursion of `handle_arpreq` follows the chains of errors.  Nothing in a
request is changed before the recursive call, so a chain that comes back to one of
its requests goes on for ever.  If no chain from a request comes back, then every
chain visits expired requests that were pending at the start, each at most once,
and the recursion is no deeper than their number.

Conversely a chain that comes back through the frames of the requests alone is a
trap, and no call that gets to it returns.
-/
import SimpleRouter.Chains
import SimpleRouter.Changes

namespace SimpleRouter

open Bytes CString Runs Relation

variable {s s' s₀ s₁ s₂ : Router} {id nid a : ReqId} {r r' req : SrArpreq} {pkt : SrPacket}
  {A : List ReqId} {start x y : Station} {π : List Station} {pkts : List SrPacket}

/-- A chain of errors from a station on; the latest station is in front. -/
inductive ErrorChain (s : Router) (start : Station) : List Station → Prop
  | start : ErrorChain s start [start]
  | step {x y : Station} {π : List Station} (h : ErrorChain s start (x :: π)) (hl : Leads s x y) :
      ErrorChain s start (y :: x :: π)

/-- All stations of a chain but the latest belong to pending requests. -/
lemma ErrorChain.mem_ips (h : ErrorChain s start (x :: π)) (hx : x.1 ∈ s.requests.map (·.ip)) :
    ∀ y ∈ x :: π, y.1 ∈ s.requests.map (·.ip) := by
  generalize hl : x :: π = l at h
  induction h generalizing x π with
  | start =>
      obtain ⟨rfl, rfl⟩ := List.cons.inj hl
      simpa using hx
  | @step z w ρ _ hlead ih =>
      obtain ⟨rfl, rfl⟩ := List.cons.inj hl
      obtain ⟨r, hr, hip, -⟩ := hlead
      intro v hv
      rcases List.mem_cons.1 hv with rfl | hv
      · exact hx
      · exact ih (List.mem_map.2 ⟨r, hr, hip⟩) rfl v hv

/-- A chain without repetition is no longer than the queue. -/
lemma ErrorChain.length_le (h : ErrorChain s start (x :: π))
    (hx : x.1 ∈ s.requests.map (·.ip)) (hn : ((x :: π).map Prod.fst).Nodup) :
    (x :: π).length ≤ s.requests.length := by
  have hsub : (x :: π).map Prod.fst ⊆ s.requests.map (·.ip) := by
    intro ip hip
    obtain ⟨y, hy, rfl⟩ := List.mem_map.1 hip
    exact h.mem_ips hx y hy
  have hle := (hn.subperm hsub).length_le
  simpa using hle

/-! ### Chains that do not come back -/

/-- No chain of errors from a station comes back to an address. -/
def NoReturn (s : Router) (start : Station) : Prop :=
  ∀ π, ErrorChain s start π → (π.map Prod.fst).Nodup

/-- The situation in which the request `id` is handled or being given up: it is at
the end of a chain, the stack below it holds requests of that chain. -/
structure Deep (s₀ : Router) (start : Station) (s : Router) (A : List ReqId) (id : ReqId)
    (r : SrArpreq) (x : Station) (π : List Station) : Prop where
  stage : Stage s₀ (id :: A) s
  found : s.findReq id = some r
  node : AtStation s₀ r x
  chain : ErrorChain s₀ start (x :: π)
  linked : Linked s id A
  onChain : ∀ a ∈ A, ∀ r, s.findReq a = some r → r.ip ∈ π.map Prod.fst

namespace Deep

/-- The situation lasts as long as the requests of the stack are not touched. -/
lemma of_findReq_eq (h : Deep s₀ start s A id r x π) (hs : Stage s₀ (id :: A) s')
    (hf : ∀ a ∈ id :: A, s'.findReq a = s.findReq a) : Deep s₀ start s' A id r x π where
  stage := hs
  found := by rw [hf id (by simp), h.found]
  node := h.node
  chain := h.chain
  linked := h.linked.keeps (h.stage.env.symm.trans hs.env) fun a ha => .of_findReq_eq (hf a ha)
  onChain := by
    intro a ha r hr
    rw [hf a (List.mem_cons_of_mem _ ha)] at hr
    exact h.onChain a ha r hr

/-- The stack with the current request on top. -/
lemma onChain_cons (h : Deep s₀ start s A id r x π) (ha : a ∈ id :: A)
    (hr : s.findReq a = some r') : r'.ip ∈ (x :: π).map Prod.fst := by
  rcases List.mem_cons.1 ha with rfl | ha
  · obtain rfl : r = r' := Option.some_injective _ (h.found.symm.trans hr)
    rw [h.node.1]
    simp
  · exact List.mem_cons_of_mem _ (h.onChain a ha r' hr)

/-- If the error is queued on another expired request, the situation recurs there
with a longer chain. -/
lemma report (h : Deep s₀ start s A id r x π) (hno : NoReturn s₀ start)
    (hx : Expired s.now r) (hp : pkt ∈ r.packets) (hl : 34 ≤ pkt.buf.length)
    (hsrc : returnSource s pkt.src ≠ 0)
    (hq : routeAndQueue (quoted s id pkt) (unreachableFrame s id pkt) = (s₁, some nid))
    (hr₁ : s₁.findReq nid = some r') (hx₁ : Expired s₁.now r') :
    Deep s₀ start s₁ (id :: A) nid r' (r'.ip, some (returnSource s pkt.src)) (x :: π) := by
  obtain ⟨r₀, i, hr₀, -, hr₀', hret⟩ := report_expired h.stage.wf hsrc hq hr₁ hx₁
  have hip : r'.ip = r₀.ip := by rw [hr₀', SrArpreq.push_ip]
  have hlead := h.node.leads h.stage.env hp hl hret
  rw [← hip] at hlead
  have hchain := h.chain.step hlead
  -- a request of the stack would repeat an address of the chain
  have hnid : nid ∉ id :: A := by
    intro hmem
    have hmem' := h.onChain_cons hmem hr₀
    rw [← hip] at hmem'
    exact (List.nodup_cons.1 (hno _ hchain)).1 hmem'
  have hne : ∀ a ∈ id :: A, a ≠ nid := by
    rintro a ha rfl
    exact hnid ha
  refine ⟨h.stage.report hsrc hq, hr₁, h.stage.atStation hsrc hq hnid hr₁ hx₁, hchain,
    h.linked.report h.stage.wf h.found hx hp hl hsrc hq, ?_⟩
  intro a ha r hr
  rw [report_findReq_of_ne h.stage.wf hsrc hq (hne a ha)] at hr
  exact h.onChain_cons ha hr

end Deep

/-- A request that has not expired is handled at once. -/
lemma exec_of_not_expired (hr : s.findReq id = some r) (hx : ¬ Expired s.now r) :
    ∃ s', Exec (.handle id) s s' := by
  by_cases ht : s.now - r.sent < 1
  · exact ⟨s, .idle hr ht⟩
  · refine ⟨retryArp s r, .retry hr (by omega) ?_⟩
    by_contra hn
    exact hx ⟨by omega, by omega⟩

/-- The loop over the packets returns if the calls one level deeper do. -/
lemma Deep.exec_giveUp (h : Deep s₀ start s A id r x π) (hno : NoReturn s₀ start)
    (hx : Expired s.now r) (hpk : ∀ p ∈ pkts, p ∈ r.packets)
    (hcalls : ∀ s₁ nid r₁ y, Deep s₀ start s₁ (id :: A) nid r₁ y (x :: π) →
      ∃ s₂, Exec (.handle nid) s₁ s₂) : ∃ s', Exec (.giveUp id pkts) s s' := by
  induction pkts generalizing s with
  | nil => exact ⟨s, .done⟩
  | cons pkt rest ih =>
      have hpk' : ∀ p ∈ rest, p ∈ r.packets := fun p hp => hpk p (List.mem_cons_of_mem _ hp)
      have hp : pkt ∈ r.packets := hpk pkt (by simp)
      by_cases hl : pkt.buf.length < 34
      · obtain ⟨s', hrest⟩ := ih h hx hpk'
        exact ⟨s', .short hl hrest⟩
      rw [not_lt] at hl
      by_cases hsrc : returnSource s pkt.src = 0
      · have hdeep : Deep s₀ start (noted s id pkt) A id r x π :=
          h.of_findReq_eq (h.stage.of_core noted_core) fun a _ => findReq_of_core noted_core a
        obtain ⟨s', hrest⟩ := ih hdeep hx hpk'
        exact ⟨s', .mute hl hsrc (by rw [h.found]; rfl) hrest⟩
      · obtain ⟨s₁, nid, hq⟩ := exists_routeAndQueue_quoted id hsrc
        have hw₁ := (report_sameEnv h.stage.wf hsrc hq).2
        have hlink₁ := h.linked.report h.stage.wf h.found hx hp hl hsrc hq
        obtain ⟨r₁, hr₁⟩ : ∃ r₁, s₁.findReq nid = some r₁ := by
          obtain ⟨rt, i, -, -, hqs⟩ := report_queues h.stage.wf hsrc hq
          obtain ⟨req, hreq, -⟩ := hqs.findReq_self
          exact ⟨_, hreq⟩
        obtain ⟨s₂, hcall⟩ : ∃ s₂, Exec (.handle nid) s₁ s₂ := by
          by_cases hx₁ : Expired s₁.now r₁
          · exact hcalls s₁ nid r₁ _ (h.report hno hx hp hl hsrc hq hr₁ hx₁)
          · exact exec_of_not_expired hr₁ hx₁
        -- the call leaves the stack alone, and the loop goes on
        have htidy := hcall.tidy (A := id :: A) hw₁ hlink₁
        have hnid := hcall.not_mem_stack hw₁ hlink₁
        have hsame : ∀ a ∈ id :: A, s₂.findReq a = s.findReq a := by
          intro a ha
          rw [htidy.findReq_of_mem ha,
            report_findReq_of_ne h.stage.wf hsrc hq fun h => hnid (h ▸ ha)]
        have hstage : Stage s₀ (id :: A) s₂ := (h.stage.report hsrc hq).call htidy
        have hx₂ : Expired s₂.now r := (h.stage.env.symm.trans hstage.env).expired_iff.2 hx
        obtain ⟨s', hrest⟩ := ih (h.of_findReq_eq hstage hsame) hx₂ hpk'
        refine ⟨s', .report hl hsrc hq hcall ?_ hrest⟩
        rw [hsame id (by simp), h.found]
        rfl

/-- The induction is on what is missing to the longest possible chain. -/
lemma Deep.exec_handle (hno : NoReturn s₀ start) (k : ℕ) (h : Deep s₀ start s A id r x π)
    (hk : s₀.requests.length < k + (x :: π).length) : ∃ s', Exec (.handle id) s s' := by
  induction k generalizing s A id r x π with
  | zero =>
      obtain ⟨-, r₀, hr₀, hip, -⟩ := h.node
      have := h.chain.length_le (List.mem_map.2 ⟨r₀, hr₀, hip⟩) (hno _ h.chain)
      omega
  | succ k ih =>
      by_cases hx : Expired s.now r
      · have hcalls : ∀ s₁ nid r₁ y, Deep s₀ start s₁ (id :: A) nid r₁ y (x :: π) →
            ∃ s₂, Exec (.handle nid) s₁ s₂ := by
          intro s₁ nid r₁ y hdeep
          refine ih hdeep ?_
          rw [List.length_cons]
          omega
        obtain ⟨s', hloop⟩ := h.exec_giveUp hno hx (fun _ hp => hp) hcalls
        exact ⟨_, .expire h.found hx hloop⟩
      · exact exec_of_not_expired h.found hx

/-- If no chain of errors from a pending request comes back, the call on it
returns. -/
theorem returns_of_noReturn (hw : WF s) (hreq : req ∈ s.requests)
    (hno : NoReturn s (req.ip, none)) : Returns s req.id := by
  rw [returns_iff_exec]
  have hfound := hw.findReq_of_mem hreq
  by_cases hx : Expired s.now req
  · have hdeep : Deep s (req.ip, none) s [] req.id req (req.ip, none) [] :=
      { stage := (Stage.refl hw).mono (by simp)
        found := hfound
        node := ⟨rfl, req, hreq, rfl, hx, fun _ hp => Or.inl hp⟩
        chain := .start
        linked := trivial
        onChain := by simp }
    exact hdeep.exec_handle hno s.requests.length (by simp)
  · exact exec_of_not_expired hfound hx

/-! ### Chains that come back -/

/-- The request for `x` has expired, and the error for one of its frames is queued
on the request for `y`. -/
def FrameLeads (s : Router) (x y : Ip) : Prop :=
  ∃ r ∈ s.requests, r.ip = x ∧ Expired s.now r ∧
    ∃ p ∈ r.packets, 34 ≤ p.buf.length ∧ returnHop s p.src = some y

/-- The requests from which a cycle is reached are a trap. -/
lemma trap_of_cycle (hw : WF s) {ip : Ip} (hcycle : TransGen (FrameLeads s) ip ip) :
    Trap s {a | ∃ r, s.findReq a = some r ∧ TransGen (FrameLeads s) r.ip ip} := by
  rintro a ⟨r, hr, hlead⟩
  obtain ⟨z, ⟨r₀, hr₀, hip, hx, p, hp, hl, hret⟩, hrest⟩ := TransGen.head'_iff.1 hlead
  obtain rfl := hw.eq_of_ip_eq hr₀ (mem_of_findReq hr) hip
  have hz : TransGen (FrameLeads s) z ip := hcycle.trans_right hrest
  obtain ⟨-, ⟨r₁, hr₁, rfl, -⟩, -⟩ := TransGen.head'_iff.1 hz
  have hfound := hw.findReq_of_mem hr₁
  exact ⟨r₀, hr, hx, p, hp, r₁.id, ⟨r₁, hfound, hz⟩, hl, r₁, hfound, hret⟩

/-- The call on a request from which a cycle is reached does not return. -/
theorem not_returns_of_cycle (hw : WF s) (hreq : req ∈ s.requests) {ip : Ip}
    (hlead : ReflTransGen (FrameLeads s) req.ip ip) (hcycle : TransGen (FrameLeads s) ip ip) :
    ¬ Returns s req.id := by
  rw [returns_iff_exec]
  rintro ⟨s', h⟩
  exact h.not_mem_trap hw (trap_of_cycle hw hcycle)
    ⟨req, hw.findReq_of_mem hreq, hcycle.trans_right hlead⟩

/-! ### Reachable states -/

variable {ifs : List SrIf} {rt : List SrRt} {now : ℕ} {junk : ℕ → ℕ → UInt8} {es : List Event}

/-- Termination of the recursion: `handle_arpreq` returns on a pending request if no
chain of errors from it comes back, and does not if one comes back through the
frames of the requests. -/
theorem handle_arpreq_returns (h : Run Step (Router.init ifs rt now junk) es s)
    (hreq : req ∈ s.requests) :
    (NoReturn s (req.ip, none) → Returns s req.id) ∧
      ((∃ ip, ReflTransGen (FrameLeads s) req.ip ip ∧ TransGen (FrameLeads s) ip ip) →
        ¬ Returns s req.id) := by
  have hw := run_wf h (wf_init ..)
  refine ⟨returns_of_noReturn hw hreq, ?_⟩
  rintro ⟨ip, hlead, hcycle⟩
  exact not_returns_of_cycle hw hreq hlead hcycle

/-- If nobody who waits for an answer of the router is himself waited for, the
chains have one link. -/
lemma noReturn_of_no_hop
    (h : ∀ r ∈ s.requests, ∀ p ∈ r.packets, ∀ r' ∈ s.requests, returnHop s p.src ≠ some r'.ip)
    (ip : Ip) : NoReturn s (ip, none) := by
  have hfirst : ∀ y, Leads s (ip, none) y → ∀ r ∈ s.requests, r.ip ≠ y.1 := by
    rintro y ⟨r, hr, -, -, src, hsrc, hret, -⟩ r' hr' hip
    obtain ⟨p, hp, -, rfl⟩ := hsrc.resolve_right (by simp)
    exact h r hr p hp r' hr' (by rw [hret, hip])
  have hshort : ∀ π, ErrorChain s (ip, none) π → π = [(ip, none)] ∨
      ∃ y, π = [y, (ip, none)] ∧ Leads s (ip, none) y := by
    intro π hπ
    induction hπ with
    | start => exact Or.inl rfl
    | @step x y π _ hl ih =>
        rcases ih with hπ | ⟨z, hπ, hz⟩
        · obtain ⟨rfl, rfl⟩ := List.cons.inj hπ
          exact Or.inr ⟨y, rfl, hl⟩
        · obtain ⟨rfl, rfl⟩ := List.cons.inj hπ
          obtain ⟨r, hr, hip, -⟩ := hl
          exact absurd hip (hfirst x hz r hr)
  intro π hπ
  rcases hshort π hπ with rfl | ⟨y, rfl, hy⟩
  · simp
  · obtain ⟨r, hr, hip, -⟩ := id hy
    have hne := hfirst y hy r hr
    rw [hip] at hne
    simpa using Ne.symm hne

/-- A request that has expired, with the frame of a sender that can be reached. -/
theorem handle_arpreq_returns_sample :
    ∃ es s req, Run Step sampleRouter es s ∧ req ∈ s.requests ∧ Expired s.now req ∧
      Returns s req.id := by
  obtain ⟨s, hrun, hs⟩ := exists_run_of_leadsTo step_of_ok
    (show leadsTo (step 9) sampleRouter
      [.recv (sampleFrame (sampleIp 0 2) (sampleIp 1 2) 64 20) (sampleName 0), .tick 1, .sweep,
        .tick 1, .sweep, .tick 1, .sweep, .tick 1, .sweep, .tick 1]
      (fun s => (∃ req ∈ s.requests, Expired s.now req) ∧
        ∀ r ∈ s.requests, ∀ p ∈ r.packets, ∀ r' ∈ s.requests, returnHop s p.src ≠ some r'.ip)
      by decide +kernel)
  obtain ⟨⟨req, hreq, hx⟩, hno⟩ := of_decide_eq_true hs
  exact ⟨_, s, req, hrun, hreq, hx,
    (handle_arpreq_returns hrun hreq).1 (noReturn_of_no_hop hno req.ip)⟩

instance (s : Router) (x y : Ip) : Decidable (FrameLeads s x y) :=
  inferInstanceAs (Decidable (∃ _ ∈ _, _))

/-- Two hosts that do not answer are sent a frame by each other. -/
theorem handle_arpreq_diverges :
    srVerifyRoutingTable sampleIfs sampleRoutes = 0 ∧
      ∃ es s req, Run Step sampleRouter es s ∧ req ∈ s.requests ∧ ¬ Returns s req.id := by
  refine ⟨srVerifyRoutingTable_sample, ?_⟩
  obtain ⟨s, hrun, hs⟩ := exists_run_of_leadsTo step_of_ok
    (show leadsTo (step 9) sampleRouter
      [.recv (sampleFrame (sampleIp 0 2) (sampleIp 1 2) 64 20) (sampleName 0),
        .recv (sampleFrame (sampleIp 1 2) (sampleIp 0 2) 64 20) (sampleName 1), .tick 1, .sweep,
        .tick 1, .sweep, .tick 1, .sweep, .tick 1, .sweep, .tick 1]
      (fun s => (∃ req ∈ s.requests, req.ip = sampleIp 1 2) ∧
        FrameLeads s (sampleIp 1 2) (sampleIp 0 2) ∧ FrameLeads s (sampleIp 0 2) (sampleIp 1 2))
      by decide +kernel)
  obtain ⟨⟨req, hreq, hip⟩, hthere, hback⟩ := of_decide_eq_true hs
  have hcycle : TransGen (FrameLeads s) req.ip req.ip := by
    rw [hip]
    exact (TransGen.single hthere).tail hback
  exact ⟨_, s, req, hrun, hreq, not_returns_of_cycle (run_wf hrun (wf_init ..)) hreq .refl hcycle⟩

end SimpleRouter
