/-
What a call of `handle_arpreq` does to the requests that have expired, and to
those that have not.

A call that returns either leaves an expired request exactly as it was or gives
it up; it never lets one live on changed, and it lets no request expire.  A
request that has not expired survives the call.  An expired request on which an
error is queued is given up.  The queue afterwards holds new requests in front
and what is left of the old ones, in their old order, behind.
-/
import SimpleRouter.Reentry

namespace SimpleRouter

open Bytes CString

variable {s s' s₁ s₂ : Router} {id nid a b : ReqId} {req r r' : SrArpreq} {pkt : SrPacket}
  {rest pkts : List SrPacket} {A : List ReqId} {c : Call}

/-! ### Single operations -/

lemma not_expired_bump (now : ℕ) (r : SrArpreq) : ¬ Expired now (bump now r) := by
  rintro ⟨ht, -⟩
  simp [bump] at ht

lemma SameEnv.expired_iff (h : SameEnv s s') : Expired s'.now r ↔ Expired s.now r := by
  rw [h.now]

/-- The request handled by a call is destroyed or has not expired. -/
lemma Tidy.not_expired_self (h : Tidy A (.handle id) s s') (hr : s'.findReq id = some r) :
    ¬ Expired s'.now r := by
  cases h with
  | @idle _ _ _ req hw hf ht =>
      obtain rfl : req = r := Option.some_injective _ (hf.symm.trans hr)
      intro hx
      have := hx.1
      omega
  | @retry _ _ _ req hw hf ht hn hid =>
      rw [retryArp_findReq, if_pos (id_of_findReq hf).symm, id_of_findReq hf, hf, Option.map_some,
        Option.some.injEq] at hr
      rw [(SameEnv.retry s req).expired_iff, ← hr]
      exact not_expired_bump s.now req
  | expire => rw [findReq_srArpreqDestroy, if_pos rfl] at hr; exact absurd hr (by simp)

/-- A request that is expired after a report was there before, but for the error
it may have got. -/
lemma report_expired (hw : WF s) (hsrc : returnSource s pkt.src ≠ 0)
    (hq : routeAndQueue (quoted s id pkt) (unreachableFrame s id pkt) = (s₁, some nid))
    (hr : s₁.findReq nid = some r) (hx : Expired s₁.now r) :
    ∃ r₀ i, s.findReq nid = some r₀ ∧ Expired s.now r₀ ∧ r = r₀.push (errPacket s id pkt i) ∧
      returnHop s pkt.src = some r₀.ip := by
  obtain ⟨rt, i, -, hret, hqs⟩ := report_queues hw hsrc hq
  have hann : (announced s id pkt (nextHop rt pkt.src) i).core = s.core := announced_core
  rw [(report_sameEnv hw hsrc hq).1.expired_iff] at hx
  obtain ⟨r₀, hr₀, hip, -, hold | ⟨-, -, hnew⟩⟩ := hqs.findReq_self
  · rw [findReq_of_core hann] at hold
    obtain rfl : r₀.push (errPacket s id pkt i) = r := Option.some_injective _ (hr₀.symm.trans hr)
    exact ⟨r₀, i, hold, hx, rfl, by rw [hret, hip]⟩
  · obtain rfl : r₀.push (errPacket s id pkt i) = r := Option.some_injective _ (hr₀.symm.trans hr)
    rw [hnew] at hx
    exact absurd hx.2 (by simp)

/-! ### Expired requests -/

/-- Every request that is expired afterwards is one from before, unchanged. -/
lemma Tidy.findReq_of_expired (h : Tidy A c s s') (hr : s'.findReq a = some r)
    (hx : Expired s'.now r) : s.findReq a = some r := by
  induction h with
  | idle => exact hr
  | @retry A s id req hw hf ht hn hid =>
      rw [retryArp_findReq] at hr
      split_ifs at hr with ha
      · rw [id_of_findReq hf] at ha
        subst ha
        refine absurd hx ((Tidy.retry hw hf ht hn hid).not_expired_self ?_)
        rw [retryArp_findReq, if_pos (id_of_findReq hf).symm]
        exact hr
      · exact hr
  | @expire A s s' id req hw hf hx' hid _ ih =>
      rw [findReq_srArpreqDestroy] at hr
      split_ifs at hr
      exact ih hr hx
  | done => exact hr
  | short hw hl _ ih => exact ih hr hx
  | mute hw hl hsrc _ ih => rw [← ih hr hx, findReq_of_core noted_core]
  | @report A s s₁ s₂ s' id nid pkt rest hw hl hsrc hq hnid hcall hrest ih₁ ih₂ =>
      have hr₂ := ih₂ hr hx
      have hx₂ : Expired s₂.now r := hrest.sameEnv.expired_iff.1 hx
      rw [← report_findReq_of_ne hw hsrc hq]
      · exact ih₁ hr₂ hx₂
      · rintro rfl
        exact hcall.not_expired_self hr₂ hx₂

/-- A request that is not expired is still there afterwards. -/
lemma Tidy.survives (h : Tidy A c s s') (hr : s.findReq a = some r) (hx : ¬ Expired s.now r) :
    ∃ r', s'.findReq a = some r' ∧ ¬ Expired s'.now r' := by
  induction h generalizing r with
  | idle => exact ⟨r, hr, hx⟩
  | @retry A s id req hw hf ht hn hid =>
      by_cases ha : a = id
      · subst ha
        have hb : (retryArp s req).findReq a = some (bump s.now req) := by
          rw [retryArp_findReq, if_pos (id_of_findReq hf).symm, id_of_findReq hf, hf]
          rfl
        exact ⟨_, hb, (Tidy.retry hw hf ht hn hid).not_expired_self hb⟩
      · refine ⟨r, ?_, (SameEnv.retry s req).expired_iff.not.2 hx⟩
        rw [retryArp_findReq, if_neg (by rw [id_of_findReq hf]; exact ha), hr]
  | @expire A s s' id req hw hf hx' hid _ ih =>
      obtain ⟨r', hr', hx₂⟩ := ih hr hx
      refine ⟨r', ?_, hx₂⟩
      rw [findReq_srArpreqDestroy, if_neg, hr']
      rintro rfl
      obtain rfl : req = r := Option.some_injective _ (hf.symm.trans hr)
      exact hx hx'
  | done => exact ⟨r, hr, hx⟩
  | short hw hl _ ih => exact ih hr hx
  | mute hw hl hsrc _ ih => exact ih (by rw [findReq_of_core noted_core, hr]) hx
  | @report A s s₁ s₂ s' id nid pkt rest hw hl hsrc hq hnid hcall hrest ih₁ ih₂ =>
      obtain ⟨r₁, hr₁, -, hsent, htimes, -⟩ := report_keeps hw hsrc hq a r hr
      have hx₁ : ¬ Expired s₁.now r₁ := by
        rw [(report_sameEnv hw hsrc hq).1.expired_iff, Expired, hsent, htimes]
        exact hx
      obtain ⟨r₂, hr₂, hx₂⟩ := ih₁ hr₁ hx₁
      exact ih₂ hr₂ hx₂

/-- Identities are handed out in order. -/
lemma report_nextId_le (hw : WF s) (hsrc : returnSource s pkt.src ≠ 0)
    (hq : routeAndQueue (quoted s id pkt) (unreachableFrame s id pkt) = (s₁, some nid)) :
    s.nextId ≤ s₁.nextId := by
  obtain ⟨rt, i, -, -, hqs⟩ := report_queues hw hsrc hq
  have hann : (announced s id pkt (nextHop rt pkt.src) i).core = s.core := announced_core
  exact (nextId_of_core hann :) ▸ hqs.nextId_le

lemma retryArp_nextId (s : Router) (req : SrArpreq) : (retryArp s req).nextId = s.nextId :=
  (nextId_of_core (retryArp_core s req) :)

lemma Tidy.nextId_le (h : Tidy A c s s') : s.nextId ≤ s'.nextId := by
  induction h with
  | idle => exact le_rfl
  | retry => exact (retryArp_nextId _ _).ge
  | expire hw hf hx hid _ ih => exact ih
  | done => exact le_rfl
  | short hw hl _ ih => exact ih
  | mute hw hl hsrc _ ih => exact ih
  | report hw hl hsrc hq hnid _ _ ih₁ ih₂ =>
      exact ((report_nextId_le hw hsrc hq).trans ih₁).trans ih₂

/-- A destroyed request does not come back. -/
lemma Tidy.findReq_of_none (h : Tidy A c s s') (ha : a < s.nextId) (hr : s.findReq a = none) :
    s'.findReq a = none := by
  induction h with
  | idle => exact hr
  | @retry A s id req hw hf ht hn hid =>
      rw [retryArp_findReq, if_neg, hr]
      rintro rfl
      rw [id_of_findReq hf] at hr
      exact absurd (hf.symm.trans hr) (by simp)
  | @expire A s s' id req hw hf hx hid _ ih =>
      rw [findReq_srArpreqDestroy]
      split_ifs
      · rfl
      · exact ih ha hr
  | done => exact hr
  | short hw hl _ ih => exact ih ha hr
  | mute hw hl hsrc _ ih => exact ih ha (by rw [findReq_of_core noted_core, hr])
  | @report A s s₁ s₂ s' id nid pkt rest hw hl hsrc hq hnid hcall hrest ih₁ ih₂ =>
      have ha₁ := ha.trans_le (report_nextId_le hw hsrc hq)
      refine ih₂ (ha₁.trans_le hcall.nextId_le) (ih₁ ha₁ ?_)
      rw [report_findReq_of_ne hw hsrc hq, hr]
      -- the error is queued on a live request, or on one with a fresh identity
      rintro rfl
      obtain ⟨rt, i, -, -, hqs⟩ := report_queues hw hsrc hq
      obtain ⟨r₀, -, -, -, hold | ⟨hnew, -⟩⟩ := hqs.findReq_self
      · rw [findReq_of_core announced_core, hr] at hold
        exact absurd hold (by simp)
      · exact absurd ha (not_lt.2 hnew.ge)

lemma WF.lt_nextId (hw : WF s) (hr : s.findReq a = some r) : a < s.nextId :=
  id_of_findReq hr ▸ hw.ids_lt r (mem_of_findReq hr)

/-- An expired request that is still there has not been renewed. -/
lemma Tidy.stays_expired (h : Tidy A c s s') (hr : s.findReq a = some r) (hx : Expired s.now r)
    (hr' : s'.findReq a = some r') : Expired s'.now r' := by
  induction h generalizing r r' with
  | idle =>
      obtain rfl : r = r' := Option.some_injective _ (hr.symm.trans hr')
      exact hx
  | @retry A s id req hw hf ht hn hid =>
      rw [retryArp_findReq] at hr'
      split_ifs at hr' with ha
      · rw [id_of_findReq hf] at ha
        subst ha
        obtain rfl : req = r := Option.some_injective _ (hf.symm.trans hr)
        have := hx.2
        omega
      · obtain rfl : r = r' := Option.some_injective _ (hr.symm.trans hr')
        exact (SameEnv.retry s req).expired_iff.2 hx
  | @expire A s s' id req hw hf hx₀ hid _ ih =>
      rw [findReq_srArpreqDestroy] at hr'
      split_ifs at hr'
      exact ih hr hx hr'
  | done =>
      obtain rfl : r = r' := Option.some_injective _ (hr.symm.trans hr')
      exact hx
  | short hw hl _ ih => exact ih hr hx hr'
  | mute hw hl hsrc _ ih => exact ih (by rw [findReq_of_core noted_core, hr]) hx hr'
  | @report A s s₁ s₂ s' id nid pkt rest hw hl hsrc hq hnid hcall hrest ih₁ ih₂ =>
      obtain ⟨r₁, hr₁, -, hsent, htimes, -⟩ := report_keeps hw hsrc hq a r hr
      have hx₁ : Expired s₁.now r₁ := by
        rw [(report_sameEnv hw hsrc hq).1.expired_iff, Expired, hsent, htimes]
        exact hx
      cases hr₂ : s₂.findReq a with
      | none =>
          have ha : a < s₂.nextId :=
            ((report_sameEnv hw hsrc hq).2.lt_nextId hr₁).trans_le hcall.nextId_le
          rw [hrest.findReq_of_none ha hr₂] at hr'
          exact absurd hr' (by simp)
      | some r₂ => exact ih₂ hr₂ (ih₁ hr₁ hx₁ hr₂) hr'

/-- A call leaves an expired request as it is or destroys it. -/
lemma Tidy.keeps_or_destroys (h : Tidy A c s s') (hr : s.findReq a = some r)
    (hx : Expired s.now r) : s'.findReq a = some r ∨ s'.findReq a = none := by
  cases hr' : s'.findReq a with
  | none => exact Or.inr rfl
  | some r' => exact Or.inl (by rw [← h.findReq_of_expired hr' (h.stays_expired hr hx hr'), hr])

/-- The call on an expired request destroys it. -/
lemma Tidy.destroys_self (h : Tidy A (.handle id) s s') (hr : s.findReq id = some r)
    (hx : Expired s.now r) : s'.findReq id = none := by
  cases hr' : s'.findReq id with
  | none => rfl
  | some r' => exact absurd (h.stays_expired hr hx hr') (h.not_expired_self hr')

/-- An expired request on which the error for a packet is queued does not survive
the report. -/
lemma Tidy.destroys_hop (h : Tidy A (.giveUp id pkts) s s') (hp : pkt ∈ pkts)
    (hhop : HopsTo s pkt b) (hr : s.findReq b = some r) (hx : Expired s.now r) :
    s'.findReq b = none := by
  generalize hc : Call.giveUp id pkts = c at h
  induction h generalizing pkts r with
  | idle => exact absurd hc (by simp)
  | retry => exact absurd hc (by simp)
  | expire => exact absurd hc (by simp)
  | done =>
      obtain ⟨-, rfl⟩ := Call.giveUp.inj hc
      exact absurd hp (by simp)
  | @short A s s' id' p rest hw hl _ ih =>
      obtain ⟨rfl, rfl⟩ := Call.giveUp.inj hc
      rcases List.mem_cons.1 hp with rfl | hp
      · exact absurd hhop.1 (by omega)
      · exact ih hp hhop hr hx rfl
  | @mute A s s' id' p rest hw hl hsrc _ ih =>
      obtain ⟨rfl, rfl⟩ := Call.giveUp.inj hc
      rcases List.mem_cons.1 hp with rfl | hp
      · obtain ⟨-, r', -, hret⟩ := hhop
        rw [returnHop_eq_none_iff.2 hsrc] at hret
        exact absurd hret (by simp)
      · have hf : (noted s id p).findReq b = s.findReq b := findReq_of_core noted_core b
        exact ih hp (hhop.keeps (.of_core noted_core) (.of_findReq_eq hf)) (hf.trans hr) hx rfl
  | @report A s s₁ s₂ s' id' nid p rest hw hl hsrc hq hnid hcall hrest ih₁ ih₂ =>
      obtain ⟨rfl, rfl⟩ := Call.giveUp.inj hc
      obtain ⟨he, hw₁⟩ := report_sameEnv hw hsrc hq
      obtain ⟨r₁, hr₁, hip, hsent, htimes, -⟩ := report_keeps hw hsrc hq b r hr
      have hx₁ : Expired s₁.now r₁ := by
        rw [he.expired_iff, Expired, hsent, htimes]
        exact hx
      have ha : b < s₂.nextId := (hw₁.lt_nextId hr₁).trans_le hcall.nextId_le
      rcases List.mem_cons.1 hp with rfl | hp
      · obtain rfl := report_id_of_hopsTo hw hsrc hq hhop
        exact hrest.findReq_of_none ha (hcall.destroys_self hr₁ hx₁)
      · rcases hcall.keeps_or_destroys hr₁ hx₁ with hr₂ | hr₂
        · obtain ⟨hl', r', hr', hret⟩ := hhop
          obtain rfl : r = r' := Option.some_injective _ (hr.symm.trans hr')
          have he₂ := he.trans hcall.sameEnv
          refine ih₂ hp ⟨hl', r₁, hr₂, ?_⟩ hr₂ (hcall.sameEnv.expired_iff.2 hx₁) rfl
          rw [he₂.returnHop, hret, hip]
        · exact hrest.findReq_of_none ha hr₂

/-- The call on a request that has not expired touches no other, and keeps that one
too. -/
lemma Tidy.findReq_of_not_expired (h : Tidy A (.handle id) s s')
    (hx : ∀ r, s.findReq id = some r → ¬ Expired s.now r) :
    (∀ a, a ≠ id → s'.findReq a = s.findReq a) ∧ (s'.findReq id).isSome := by
  cases h with
  | idle hw hf ht => exact ⟨fun _ _ => rfl, by rw [hf]; rfl⟩
  | retry hw hf ht hn hid =>
      have hid' := id_of_findReq hf
      refine ⟨fun a ha => ?_, ?_⟩
      · rw [retryArp_findReq, if_neg (by rw [hid']; exact ha)]
      · rw [retryArp_findReq, if_pos hid'.symm, hid', hf]
        rfl
  | expire hw hf hx' hid hloop => exact absurd hx' (hx _ hf)

/-- Nobody is given up besides, if no packet has a way back to an expired request
other than those of the stack. -/
lemma Tidy.survives_of_no_hop (h : Tidy A (.giveUp id pkts) s s')
    (hno : ∀ p ∈ pkts, ∀ b r, b ∉ A → HopsTo s p b → s.findReq b = some r → ¬ Expired s.now r)
    (ha : (s.findReq a).isSome) : (s'.findReq a).isSome := by
  generalize hc : Call.giveUp id pkts = c at h
  induction h generalizing pkts with
  | idle => exact absurd hc (by simp)
  | retry => exact absurd hc (by simp)
  | expire => exact absurd hc (by simp)
  | done => exact ha
  | @short A s s' id' p rest hw hl _ ih =>
      obtain ⟨rfl, rfl⟩ := Call.giveUp.inj hc
      exact ih (fun q hq => hno q (List.mem_cons_of_mem _ hq)) ha rfl
  | @mute A s s' id' p rest hw hl hsrc _ ih =>
      obtain ⟨rfl, rfl⟩ := Call.giveUp.inj hc
      have hf : ∀ b, (noted s id p).findReq b = s.findReq b := findReq_of_core noted_core
      refine ih (fun q hq b r hb hhop hr => ?_) (by rw [hf]; exact ha) rfl
      refine hno q (List.mem_cons_of_mem _ hq) b r hb ?_ (by rw [← hf, hr])
      exact hhop.keeps ⟨rfl, rfl, rfl⟩ (.of_findReq_eq (hf b).symm)
  | @report A s s₁ s₂ s' id' nid p rest hw hl hsrc hq hnid hcall hrest ih₁ ih₂ =>
      obtain ⟨rfl, rfl⟩ := Call.giveUp.inj hc
      obtain ⟨he, hw₁⟩ := report_sameEnv hw hsrc hq
      have he₂ := he.trans hcall.sameEnv
      -- the request the error is queued on has not expired
      have hnew : ∀ r, s₁.findReq nid = some r → ¬ Expired s₁.now r := by
        intro r hr hx
        obtain ⟨r₀, i, hr₀, hx₀, -, hret⟩ := report_expired hw hsrc hq hr hx
        exact hno p (by simp) nid r₀ hnid ⟨hl, r₀, hr₀, hret⟩ hr₀ hx₀
      obtain ⟨hother, hself⟩ := hcall.findReq_of_not_expired hnew
      refine ih₂ (fun q hmem b r hbA hhop hr hx => ?_) ?_ rfl
      · have hb : b ≠ nid := by
          rintro rfl
          exact hcall.not_expired_self hr hx
        have hsame : s₂.findReq b = s.findReq b := by
          rw [hother b hb, report_findReq_of_ne hw hsrc hq hb]
        exact hno q (List.mem_cons_of_mem _ hmem) b r hbA
          (hhop.keeps he₂.symm (.of_findReq_eq hsame.symm)) (hsame ▸ hr) (he₂.expired_iff.1 hx)
      · by_cases hb : a = nid
        · rw [hb]
          exact hself
        · rw [hother a hb, report_findReq_of_ne hw hsrc hq hb]
          exact ha

/-! ### The order of the queue -/

/-- Afterwards the queue holds new requests and behind them old ones, in the old
order. -/
def Reorders (s s' : Router) : Prop :=
  ∃ new old, s'.requests.map (·.id) = new ++ old ∧ List.Sublist old (s.requests.map (·.id)) ∧
    ∀ a ∈ new, s.nextId ≤ a

/-- A request from before is not among the new ones. -/
lemma WF.mem_old {new old : List ReqId} (hw : WF s) (ha : a ∈ s.requests.map (·.id))
    (hnew : ∀ b ∈ new, s.nextId ≤ b) (h : a ∈ new ++ old) : a ∈ old := by
  refine (List.mem_append.1 h).resolve_left fun hmem => ?_
  obtain ⟨r, hr, rfl⟩ := List.mem_map.1 ha
  exact absurd (hw.ids_lt r hr) (not_lt.2 (hnew _ hmem))

namespace Reorders

lemma of_ids_eq (h : s'.requests.map (·.id) = s.requests.map (·.id)) : Reorders s s' :=
  ⟨[], _, rfl, h ▸ List.Sublist.refl _, by simp⟩

lemma trans (h : Reorders s s₁) (h' : Reorders s₁ s₂) (hle : s.nextId ≤ s₁.nextId) :
    Reorders s s₂ := by
  obtain ⟨new, old, hids, hsub, hnew⟩ := h
  obtain ⟨new', old', hids', hsub', hnew'⟩ := h'
  rw [hids] at hsub'
  obtain ⟨l₁, l₂, rfl, hl₁, hl₂⟩ := List.sublist_append_iff.1 hsub'
  refine ⟨new' ++ l₁, l₂, by rw [hids', List.append_assoc], hl₂.trans hsub, ?_⟩
  intro a ha
  rcases List.mem_append.1 ha with ha | ha
  · exact hle.trans (hnew' a ha)
  · exact hnew a (hl₁.subset ha)

lemma destroy (s : Router) (id : ReqId) : Reorders s (srArpreqDestroy s id) :=
  ⟨[], _, rfl, List.filter_sublist.map _, by simp⟩

end Reorders

lemma ids_modifyReq {f : SrArpreq → SrArpreq} (hf : ∀ r, (f r).id = r.id) :
    (s.modifyReq id f).requests.map (·.id) = s.requests.map (·.id) :=
  @KeyedList.map_key_map_update _ _ _ SrArpreq.id _ _ _ hf

lemma Queues.reorders {ip : Ip} (h : Queues s ip pkt s' nid) : Reorders s s' := by
  cases h with
  | old hf hip => exact .of_ids_eq (ids_modifyReq (f := SrArpreq.push pkt) fun _ => rfl)
  | new hnone => exact ⟨[s.nextId], s.requests.map (·.id), rfl, List.Sublist.refl _, by simp⟩

lemma Tidy.reorders (h : Tidy A c s s') : Reorders s s' := by
  induction h with
  | idle => exact .of_ids_eq rfl
  | @retry A s id req hw hf ht hn hid =>
      refine .of_ids_eq ?_
      rw [requests_of_core (retryArp_core s req)]
      exact ids_modifyReq (f := bump s.now) fun _ => rfl
  | @expire A s s' id req hw hf hx hid hloop ih => exact ih.trans (.destroy s' id) hloop.nextId_le
  | done => exact .of_ids_eq rfl
  | short hw hl _ ih => exact ih
  | mute hw hl hsrc _ ih => exact ih
  | @report A s s₁ s₂ s' id nid pkt rest hw hl hsrc hq hnid hcall hrest ih₁ ih₂ =>
      have hle := report_nextId_le hw hsrc hq
      have hre : Reorders s s₁ := by
        obtain ⟨rt, i, -, -, hqs⟩ := report_queues hw hsrc hq
        exact hqs.reorders
      exact (hre.trans ih₁ hle).trans ih₂ (hle.trans hcall.nextId_le)

end SimpleRouter
