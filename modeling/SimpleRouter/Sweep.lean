/-
The sweep of the pending requests.

`sr_arpcache_sweepreqs` saves the next request before it handles the current
one.  The call on the current one may give up others, and among them the one
that was saved: then the walk goes on with a request that is gone.  It may also
give up one further down the list, which the walk then never gets to.

Both happen exactly if of two expired requests the one in front holds a frame
whose error is queued on the other.  An error that goes to a request in front
does no harm, since the walk has been there: the request has been given up or
renewed.
-/
import SimpleRouter.Expired
import SimpleRouter.Changes

namespace SimpleRouter

open Bytes CString Runs

variable {s s' s₀ s₁ : Router} {id a b : ReqId} {r r' : SrArpreq} {pkt : SrPacket}
  {A ids : List ReqId} {c : Call} {cur next : Option ReqId} {fuel n : ℕ} {rs : List SrArpreq}

/-! ### The requests a sweep gets to -/

/-- The requests that sweeps have passed to `handle_arpreq`. -/
def sweptIds (tr : List (ℕ × Obs)) : List ReqId :=
  tr.filterMap fun x => match x.2 with
    | .swept id => some id
    | _ => none

lemma sweptIds_append (l l' : List (ℕ × Obs)) : sweptIds (l ++ l') = sweptIds l ++ sweptIds l' :=
  List.filterMap_append

lemma sweptIds_retryObs (s : Router) (req : SrArpreq) : sweptIds (retryObs s req) = [] := by
  rw [sweptIds, List.filterMap_eq_nil_iff]
  intro o ho
  obtain ⟨p, rest, i, -, -, rfl⟩ := of_mem_retryObs ho
  rfl

/-- Calls of `handle_arpreq` are no sweeps. -/
lemma Tidy.sweptIds_eq (h : Tidy A c s s') : sweptIds s'.trace = sweptIds s.trace := by
  induction h with
  | idle => rfl
  | @retry A s id req hw hf ht hn hid =>
      rw [retryArp_trace, sweptIds_append, sweptIds_retryObs, List.append_nil]
  | expire hw hf hx hid _ ih => exact ih
  | done => rfl
  | short hw hl _ ih => exact ih
  | @mute A s s' id pkt rest hw hl hsrc _ ih =>
      rw [ih, noted, Router.noteRead_trace, Router.emit_trace, sweptIds_append]
      exact List.append_nil _
  | @report A s s₁ s₂ s' id nid pkt rest hw hl hsrc hq hnid hcall hrest ih₁ ih₂ =>
      obtain ⟨rt, i, -, -, hqs⟩ := report_queues hw hsrc hq
      rw [ih₂, ih₁, hqs.trace, announced_trace, sweptIds_append]
      exact List.append_nil _

/-- The walk from `cur` on gets to the requests `ids`, each of them pending at
that moment. -/
inductive Walk : Router → Option ReqId → List ReqId → Router → Prop
  | stop {s : Router} : Walk s none [] s
  | visit {s s₁ s' : Router} {id : ReqId} {next : Option ReqId} {ids : List ReqId}
      (hnext : nextReq s.requests id = some next)
      (hcall : Tidy [] (.handle id) (s.emit (.swept id)) s₁) (hrest : Walk s₁ next ids s') :
      Walk s (some id) (id :: ids) s'

lemma walk_of_sweepFrom (hw : WF s) (h : sweepFrom (handleArpreq fuel) n s cur = .ok s') :
    ∃ ids, Walk s cur ids s' ∧ sweptIds s'.trace = sweptIds s.trace ++ ids := by
  induction n generalizing s cur with
  | zero =>
      rcases sweepFrom_cases h with ⟨rfl, rfl⟩ | ⟨m, id, next, s₁, hn, -⟩
      · exact ⟨[], .stop, (List.append_nil _).symm⟩
      · omega
  | succ n ih =>
      rcases sweepFrom_cases h with ⟨rfl, rfl⟩ | ⟨m, id, next, s₁, hn, rfl, hnext, hcall, hrest⟩
      · exact ⟨[], .stop, (List.append_nil _).symm⟩
      · obtain rfl : n = m := by omega
        have htidy := tidy_of_handleArpreq (hw.emit _) hcall
        obtain ⟨ids, hwalk, hids⟩ := ih htidy.wf hrest
        refine ⟨id :: ids, .visit hnext htidy hwalk, ?_⟩
        rw [hids, htidy.sweptIds_eq, Router.emit_trace, sweptIds_append, List.append_assoc]
        rfl

/-! ### A request that the walk misses -/

lemma Walk.not_mem_of_none (h : Walk s cur ids s') (ha : a < s.nextId) (hr : s.findReq a = none) :
    a ∉ ids := by
  induction h with
  | stop => simp
  | @visit s s₁ s' id next ids hnext hcall _ ih =>
      have hid : a ≠ id := by
        rintro rfl
        have := findReq_isSome_of_nextReq hnext
        simp [hr] at this
      have hrest := ih (ha.trans_le hcall.nextId_le) (hcall.findReq_of_none ha hr)
      simp [hid, hrest]

/-- The call on an expired request destroys the expired requests that errors for
its packets are queued on. -/
lemma Tidy.handle_destroys_hop (h : Tidy A (.handle id) s s') (hr : s.findReq id = some r)
    (hx : Expired s.now r) (hp : pkt ∈ r.packets) (hhop : HopsTo s pkt b)
    (hr' : s.findReq b = some r') (hx' : Expired s.now r') : s'.findReq b = none := by
  cases h with
  | @idle _ _ _ req hw hf ht =>
      obtain rfl : req = r := Option.some_injective _ (hf.symm.trans hr)
      have := hx.1
      omega
  | @retry _ _ _ req hw hf ht hn hid =>
      obtain rfl : req = r := Option.some_injective _ (hf.symm.trans hr)
      have := hx.2
      omega
  | @expire _ _ s₁ _ req hw hf hx₀ hid hloop =>
      obtain rfl : req = r := Option.some_injective _ (hf.symm.trans hr)
      rw [findReq_srArpreqDestroy]
      split_ifs
      · rfl
      · exact hloop.destroys_hop hp hhop hr' hx'

/-- If the error for a packet of one expired request is queued on another, the walk
does not get to the other after the one. -/
lemma Walk.not_sublist_of_hop (h : Walk s cur ids s') (hw : WF s) (hr : s.findReq a = some r)
    (hx : Expired s.now r) (hp : pkt ∈ r.packets) (hhop : HopsTo s pkt b)
    (hr' : s.findReq b = some r') (hx' : Expired s.now r') : ¬ List.Sublist [a, b] ids := by
  induction h with
  | stop => simp
  | @visit s s₁ s' id next ids hnext hcall hrest ih =>
      have he : SameEnv s s₁ := (SameEnv.of_core (core_emit s _)).trans hcall.sameEnv
      have ha := (hw.lt_nextId hr).trans_le hcall.nextId_le
      have hb := (hw.lt_nextId hr').trans_le hcall.nextId_le
      intro hsub
      cases hsub with
      | cons _ hsub =>
          -- the walk is at a third request; either of the two may be gone afterwards
          rcases hcall.keeps_or_destroys hr hx with hr₁ | hr₁
          · rcases hcall.keeps_or_destroys hr' hx' with hr₁' | hr₁'
            · refine ih hcall.wf hr₁ (he.expired_iff.2 hx) ?_ hr₁' (he.expired_iff.2 hx') hsub
              exact hhop.keeps he (.of_findReq_eq (hr₁'.trans hr'.symm))
            · exact hrest.not_mem_of_none hb hr₁' (hsub.subset (by simp))
          · exact hrest.not_mem_of_none ha hr₁ (hsub.subset (by simp))
      | cons_cons _ hsub =>
          have hnone := hcall.handle_destroys_hop hr hx hp hhop hr' hx'
          exact hrest.not_mem_of_none hb hnone (hsub.subset (by simp))

/-! ### What a walk does to the requests -/

lemma Walk.survives (h : Walk s cur ids s') (hr : s.findReq a = some r) (hx : ¬ Expired s.now r) :
    (s'.findReq a).isSome := by
  induction h generalizing r with
  | stop =>
      rw [hr]
      rfl
  | visit hnext hcall _ ih =>
      obtain ⟨r₁, hr₁, hx₁⟩ := hcall.survives hr hx
      exact ih hr₁ hx₁

lemma Walk.findReq_of_none (h : Walk s cur ids s') (ha : a < s.nextId) (hr : s.findReq a = none) :
    s'.findReq a = none := by
  induction h with
  | stop => exact hr
  | visit hnext hcall _ ih => exact ih (ha.trans_le hcall.nextId_le) (hcall.findReq_of_none ha hr)

lemma nextReq_of_suffix {l : List SrArpreq} (hn : (l.map (·.id)).Nodup)
    (h : List.IsSuffix (id :: ids) (l.map (·.id))) : nextReq l id = some ids.head? := by
  induction l with
  | nil => simp at h
  | cons r l ih =>
      rw [List.map_cons, List.nodup_cons] at hn
      rw [List.map_cons, List.suffix_cons_iff] at h
      rw [nextReq]
      rcases h with h | h
      · obtain ⟨rfl, rfl⟩ := List.cons.inj h
        rw [if_pos rfl, List.head?_map]
      · rw [if_neg, ih hn.2 h]
        rintro rfl
        exact hn.1 (h.subset (by simp))

/-- Of a list two elements of which are left, the one that was behind the other
still is. -/
lemma exists_append_of_sublist {l pre : List ReqId} (hn : (pre ++ id :: ids).Nodup)
    (hsub : List.Sublist l (pre ++ id :: ids)) (hid : id ∈ l) (ha : a ∈ l)
    (hmem : a ∈ id :: ids) : ∃ pre' ids', l = pre' ++ id :: ids' ∧ a ∈ id :: ids' := by
  obtain ⟨l₁, l₂, rfl, h₁, h₂⟩ := List.sublist_append_iff.1 hsub
  rw [List.nodup_append] at hn
  obtain ⟨-, hn₂, hdisj⟩ := hn
  have hright : ∀ b ∈ id :: ids, b ∈ l₁ ++ l₂ → b ∈ l₂ := by
    intro b hb hmem
    refine (List.mem_append.1 hmem).resolve_left fun hl => ?_
    exact hdisj b (h₁.subset hl) b hb rfl
  have hid₂ := hright id (by simp) hid
  have ha₂ := hright a hmem ha
  cases h₂ with
  | cons _ h₂ => exact absurd (h₂.subset hid₂) (List.nodup_cons.1 hn₂).1
  | @cons_cons l₃ _ _ h₂ => exact ⟨l₁, l₃, rfl, ha₂⟩

/-- A walk that ends has left no expired request behind it. -/
lemma Walk.destroys_expired (h : Walk s cur ids s') (hw : WF s) {pre tail : List ReqId}
    (hids : s.requests.map (·.id) = pre ++ tail) (hcur : cur = tail.head?) (ha : a ∈ tail)
    (hr : s.findReq a = some r) (hx : Expired s.now r) : s'.findReq a = none := by
  induction h generalizing pre tail with
  | stop =>
      rw [List.head?_eq_none_iff.1 hcur.symm] at ha
      exact absurd ha (by simp)
  | @visit s s₁ s' id next ids hnext hcall hrest ih =>
      obtain ⟨tail, rfl⟩ : ∃ tail', tail = id :: tail' := by
        obtain ⟨b, tail', rfl⟩ := List.exists_cons_of_ne_nil (List.ne_nil_of_mem ha)
        rw [List.head?_cons, Option.some.injEq] at hcur
        exact ⟨tail', by rw [hcur]⟩
      have hn : (pre ++ id :: tail).Nodup := hids ▸ hw.ids_nodup
      have hlt : a < s₁.nextId := (hw.lt_nextId hr).trans_le hcall.nextId_le
      have hnext' : next = tail.head? := by
        have h := nextReq_of_suffix hw.ids_nodup (hids ▸ List.suffix_append pre (id :: tail))
        rw [hnext, Option.some.injEq] at h
        exact h
      rcases hcall.keeps_or_destroys hr hx with hr₁ | hr₁
      · have he : SameEnv s s₁ := (SameEnv.of_core (core_emit s _)).trans hcall.sameEnv
        have hne : a ≠ id := by
          rintro rfl
          exact hcall.not_expired_self hr₁ (he.expired_iff.2 hx)
        have hmem : a ∈ tail := (List.mem_cons.1 ha).resolve_left hne
        obtain ⟨b, tail, rfl⟩ := List.exists_cons_of_ne_nil (List.ne_nil_of_mem hmem)
        -- the next request has survived the call, since the walk goes on
        obtain ⟨new, old, hids₁, hsub, hnew⟩ := hcall.reorders
        have hsplit : (s.emit (.swept id)).requests.map (·.id) = (pre ++ [id]) ++ b :: tail := by
          rw [List.append_assoc]
          exact hids
        have hold : ∀ c ∈ b :: tail, (s₁.findReq c).isSome → c ∈ old := by
          intro c hc hlive
          rw [findReq_isSome_iff, hids₁] at hlive
          refine hw.mem_old ?_ hnew hlive
          rw [hids]
          exact List.mem_append_right _ (List.mem_cons_of_mem _ hc)
        have hb : (s₁.findReq b).isSome := by
          rw [hnext', List.head?_cons] at hrest
          cases hrest with
          | visit hnext₁ _ _ => exact findReq_isSome_of_nextReq hnext₁
        rw [hsplit] at hsub
        obtain ⟨pre', tail', rfl, hmem'⟩ := exists_append_of_sublist
          (by rw [← hsplit]; exact hw.ids_nodup) hsub (hold b (by simp) hb)
          (hold a hmem (by rw [hr₁]; rfl)) hmem
        have hids' : s₁.requests.map (·.id) = (new ++ pre') ++ b :: tail' := by
          rw [hids₁, List.append_assoc]
        have hcur' : next = (b :: tail').head? := by
          rw [hnext']
          rfl
        exact ih hcall.wf hids' hcur' hmem' hr₁ (he.expired_iff.2 hx)
      · exact hrest.findReq_of_none hlt hr₁

/-! ### A walk that misses no request -/

/-- Of two requests the first is given up and takes the second along. -/
def TakesAlong (s : Router) (r r' : SrArpreq) : Prop :=
  Expired s.now r ∧ Expired s.now r' ∧
    ∃ p ∈ r.packets, 34 ≤ p.buf.length ∧ returnHop s p.src = some r'.ip

instance (s : Router) (r r' : SrArpreq) : Decidable (TakesAlong s r r') :=
  inferInstanceAs (Decidable (_ ∧ _ ∧ _))

/-- What holds in the course of a walk that began in `s₀`: the requests `rs` are
still ahead, at the end of the queue, and every request that is expired is one of
them, unchanged. -/
structure Ahead (s₀ s : Router) (rs : List SrArpreq) : Prop where
  wf : WF s
  env : SameEnv s₀ s
  suffix : List.IsSuffix (rs.map (·.id)) (s.requests.map (·.id))
  expired : ∀ a r, s.findReq a = some r → Expired s.now r → r ∈ rs

/-- What is left of a list and still has its end. -/
lemma suffix_of_sublist {l pre : List ReqId} (hn : (pre ++ id :: ids).Nodup)
    (hsub : List.Sublist l (pre ++ id :: ids)) (hmem : ∀ a ∈ ids, a ∈ l) : List.IsSuffix ids l := by
  obtain ⟨l₁, l₂, rfl, h₁, h₂⟩ := List.sublist_append_iff.1 hsub
  rw [List.nodup_append] at hn
  obtain ⟨-, hn₂, hdisj⟩ := hn
  have hmem₂ : ∀ a ∈ ids, a ∈ l₂ := by
    intro a ha
    rcases List.mem_append.1 (hmem a ha) with hl | hl
    · exact absurd rfl (hdisj a (h₁.subset hl) a (List.mem_cons_of_mem _ ha))
    · exact hl
  obtain ⟨hid, hn₂⟩ := List.nodup_cons.1 hn₂
  cases h₂ with
  | cons _ h₂ =>
      rw [h₂.eq_of_length_le (hn₂.subperm hmem₂).length_le]
      exact List.suffix_append l₁ ids
  | @cons_cons l₃ _ _ h₂ =>
      have hmem₃ : ids ⊆ l₃ := by
        intro a ha
        refine (List.mem_cons.1 (hmem₂ a ha)).resolve_left ?_
        rintro rfl
        exact hid ha
      rw [h₂.eq_of_length_le (hn₂.subperm hmem₃).length_le]
      exact (List.suffix_cons id ids).trans (List.suffix_append l₁ _)

namespace Ahead

variable (h : Ahead s₀ s (r :: rs))

include h

lemma nodup : ((r :: rs).map (·.id)).Nodup := h.wf.ids_nodup.sublist h.suffix.sublist

lemma not_mem_tail : r.id ∉ rs.map (·.id) := (List.nodup_cons.1 h.nodup).1

/-- The expired requests other than the current one are ahead of it. -/
lemma mem_tail_of_expired (hr : s.findReq a = some r') (hx : Expired s.now r') (ha : a ≠ r.id) :
    r' ∈ rs := by
  refine (List.mem_cons.1 (h.expired a r' hr hx)).resolve_left ?_
  rintro rfl
  exact ha (id_of_findReq hr).symm

/-- The current request, if it is expired, is the one from the start. -/
lemma eq_of_expired (hr : s.findReq r.id = some r') (hx : Expired s.now r') : r' = r := by
  refine (List.mem_cons.1 (h.expired r.id r' hr hx)).resolve_right ?_
  intro hmem
  exact h.not_mem_tail (List.mem_map.2 ⟨r', hmem, id_of_findReq hr⟩)

/-- A call that takes none of the requests ahead along lets them live. -/
lemma survives (hno : ∀ r' ∈ rs, ¬ TakesAlong s₀ r r')
    (hcall : Tidy [] (.handle r.id) (s.emit (.swept r.id)) s₁) (ha : a ∈ rs.map (·.id))
    (hlive : (s.findReq a).isSome) : (s₁.findReq a).isSome := by
  have hne : a ≠ r.id := by
    rintro rfl
    exact h.not_mem_tail ha
  cases hcall with
  | idle => exact hlive
  | retry hw hf ht hnt hid =>
      rw [retryArp_findReq, if_neg (by rw [id_of_findReq hf]; exact hne)]
      exact hlive
  | @expire _ _ s₂ _ req hw hf hx hid hloop =>
      obtain rfl := h.eq_of_expired hf hx
      rw [findReq_srArpreqDestroy, if_neg hne]
      refine hloop.survives_of_no_hop (fun p hp b r' hb hhop hr' hx' => ?_) hlive
      obtain ⟨hl, r'', hr'', hret⟩ := hhop
      obtain rfl : r' = r'' := Option.some_injective _ (hr'.symm.trans hr'')
      have hmem : r' ∈ rs := h.mem_tail_of_expired hr' hx' (by simpa using hb)
      exact hno r' hmem ⟨h.env.expired_iff.1 hx, h.env.expired_iff.1 hx', p, hp, hl,
        (h.env.returnHop _).symm.trans hret⟩

/-- And leaves them where they are. -/
lemma visit (hno : ∀ r' ∈ rs, ¬ TakesAlong s₀ r r')
    (hcall : Tidy [] (.handle r.id) (s.emit (.swept r.id)) s₁) : Ahead s₀ s₁ rs := by
  have he : SameEnv s s₁ := (SameEnv.of_core (core_emit s _)).trans hcall.sameEnv
  refine ⟨hcall.wf, h.env.trans he, ?_, ?_⟩
  · obtain ⟨pre, hpre⟩ := h.suffix
    rw [List.map_cons] at hpre
    have hids₀ : (s.emit (.swept r.id)).requests.map (·.id) = pre ++ r.id :: rs.map (·.id) :=
      hpre.symm
    obtain ⟨new, old, hids, hsub, hnew⟩ := hcall.reorders
    rw [hids₀] at hsub
    rw [hids]
    refine (suffix_of_sublist ?_ hsub ?_).trans (List.suffix_append new old)
    · rw [hpre]
      exact h.wf.ids_nodup
    · intro a ha
      have hold : a ∈ s.requests.map (·.id) := by
        rw [← hpre]
        simp only [List.mem_append, List.mem_cons, ha, or_true]
      have hlive := h.survives hno hcall ha (findReq_isSome_iff.2 hold)
      rw [findReq_isSome_iff, hids] at hlive
      exact h.wf.mem_old hold hnew hlive
  · intro a r' hr' hx'
    refine h.mem_tail_of_expired (hcall.findReq_of_expired hr' hx') (he.expired_iff.1 hx') ?_
    rintro rfl
    exact hcall.not_expired_self hr' hx'

end Ahead

/-- A walk over requests none of which takes another along gets to all of them. -/
lemma Ahead.sweepFrom_ok (h : Ahead s₀ s rs) (hno : rs.Pairwise fun r r' => ¬ TakesAlong s₀ r r')
    (hret : sweepFrom (handleArpreq fuel) n s (rs.head?.map (·.id)) ≠ .error .outOfFuel) :
    ∃ s', sweepFrom (handleArpreq fuel) n s (rs.head?.map (·.id)) = .ok s' ∧
      sweptIds s'.trace = sweptIds s.trace ++ rs.map (·.id) := by
  induction rs generalizing s n with
  | nil => exact ⟨s, by cases n <;> rfl, (List.append_nil _).symm⟩
  | cons r rs ih =>
      cases n with
      | zero => exact absurd rfl hret
      | succ n =>
          obtain ⟨hnow, hlater⟩ := List.pairwise_cons.1 hno
          have hnext : nextReq s.requests r.id = some (rs.head?.map (·.id)) := by
            rw [← List.head?_map]
            exact nextReq_of_suffix h.wf.ids_nodup h.suffix
          simp only [List.head?_cons, Option.map_some, sweepFrom, hnext] at hret ⊢
          cases hcall : handleArpreq fuel (s.emit (.swept r.id)) r.id with
          | error f =>
              have hlive := findReq_isSome_of_nextReq hnext
              obtain rfl := fault_of_handleArpreq (A := []) (h.wf.emit _) hlive trivial hcall
              rw [hcall] at hret
              exact absurd rfl hret
          | ok s₁ =>
              rw [hcall] at hret
              have htidy := tidy_of_handleArpreq (h.wf.emit _) hcall
              obtain ⟨s', hs', hids⟩ := ih (h.visit hnow htidy) hlater hret
              refine ⟨s', hs', ?_⟩
              rw [hids, htidy.sweptIds_eq, Router.emit_trace, sweptIds_append, List.append_assoc]
              rfl

/-! ### The sweep -/

/-- The sweep ends, without having used a destroyed request, and has passed to
`handle_arpreq` every request that was pending at its start. -/
def SweepsAll (s : Router) : Prop :=
  ∃ fuel s', srArpcacheSweepreqs fuel s = .ok s' ∧
    sweptIds s'.trace = sweptIds s.trace ++ s.requests.map (·.id)

theorem sweepsAll_iff (hw : WF s)
    (hret : ∃ fuel, srArpcacheSweepreqs fuel s ≠ .error .outOfFuel) :
    SweepsAll s ↔ s.requests.Pairwise fun r r' => ¬ TakesAlong s r r' := by
  constructor
  · rintro ⟨fuel, s', hs', hids⟩
    obtain ⟨ids, hwalk, hids'⟩ := walk_of_sweepFrom hw hs'
    obtain rfl : ids = s.requests.map (·.id) := List.append_cancel_left (hids'.symm.trans hids)
    rw [List.pairwise_iff_forall_sublist]
    rintro r r' hsub ⟨hx, hx', p, hp, hl, hret⟩
    have hr := hw.findReq_of_mem (hsub.subset (by simp : r ∈ [r, r']))
    have hr' := hw.findReq_of_mem (hsub.subset (by simp : r' ∈ [r, r']))
    exact hwalk.not_sublist_of_hop hw hr hx hp ⟨hl, r', hr', hret⟩ hr' hx'
      (hsub.map SrArpreq.id)
  · intro hno
    obtain ⟨fuel, hret⟩ := hret
    have hahead : Ahead s s s.requests :=
      ⟨hw, .refl s, List.suffix_refl _, fun _ _ hr _ => mem_of_findReq hr⟩
    obtain ⟨s', hs', hids⟩ := hahead.sweepFrom_ok hno hret
    exact ⟨fuel, s', hs', hids⟩

variable {ifs : List SrIf} {rt : List SrRt} {now : ℕ} {junk : ℕ → ℕ → UInt8} {es : List Event}

/-- The sweep only touches live requests, and all of those that are pending at its
start, exactly if none of two expired requests takes along the one behind it. -/
theorem sweep_touches_live_iff (h : Run Step (Router.init ifs rt now junk) es s)
    (hret : ∃ fuel, srArpcacheSweepreqs fuel s ≠ .error .outOfFuel) :
    SweepsAll s ↔ s.requests.Pairwise fun r r' => ¬ TakesAlong s r r' :=
  sweepsAll_iff (run_wf h (wf_init ..)) hret

/-- Two hosts do not answer, the sender of the frame for one of them is a third
host, and the sweep gets to both requests. -/
theorem sweep_touches_live_sample :
    ∃ es s, Run Step sampleRouter es s ∧ (∀ r ∈ s.requests, Expired s.now r) ∧
      s.requests.map (·.id) = [1, 0] ∧ SweepsAll s := by
  obtain ⟨s, hrun, hs⟩ := exists_run_of_leadsTo step_of_ok
    (show leadsTo (step 9) sampleRouter
      [.recv (sampleFrame (sampleIp 1 3) (sampleIp 1 2) 64 20) (sampleName 1),
        .recv (sampleFrame (sampleIp 1 3) (sampleIp 0 2) 64 20) (sampleName 1), .tick 1, .sweep,
        .tick 1, .sweep, .tick 1, .sweep, .tick 1, .sweep, .tick 1]
      (fun s => (∀ r ∈ s.requests, Expired s.now r) ∧ s.requests.map (·.id) = [1, 0] ∧
        faultOf (srArpcacheSweepreqs 9 s) = none ∧
        s.requests.Pairwise fun r r' => ¬ TakesAlong s r r')
      by decide +kernel)
  obtain ⟨hexp, hids, hret, hno⟩ := of_decide_eq_true hs
  refine ⟨_, s, hrun, hexp, hids, (sweep_touches_live_iff hrun ⟨9, ?_⟩).2 hno⟩
  intro h
  rw [h] at hret
  exact absurd hret (by simp [faultOf])

/-- The frame for `10.0.1.2` comes from `10.0.0.2`, which does not answer either:
giving the first request up takes the second along, and the walk goes on with it. -/
theorem sweep_uses_destroyed_request :
    ∃ es s, Run Step sampleRouter es s ∧ srArpcacheSweepreqs 9 s = .error .useAfterFree ∧
      ¬ SweepsAll s := by
  obtain ⟨s, hrun, hs⟩ := exists_run_of_leadsTo step_of_ok
    (show leadsTo (step 9) sampleRouter
      [.recv (sampleFrame (sampleIp 1 3) (sampleIp 0 2) 64 20) (sampleName 1),
        .recv (sampleFrame (sampleIp 0 2) (sampleIp 1 2) 64 20) (sampleName 0), .tick 1, .sweep,
        .tick 1, .sweep, .tick 1, .sweep, .tick 1, .sweep, .tick 1]
      (fun s => faultOf (srArpcacheSweepreqs 9 s) = some .useAfterFree ∧
        ¬ s.requests.Pairwise fun r r' => ¬ TakesAlong s r r')
      by decide +kernel)
  obtain ⟨hfault, htakes⟩ := of_decide_eq_true hs
  have herr := eq_error_of_faultOf hfault
  have hret : ∃ fuel, srArpcacheSweepreqs fuel s ≠ .error .outOfFuel := ⟨9, by simp [herr]⟩
  exact ⟨_, s, hrun, herr, (sweepsAll_iff (run_wf hrun (wf_init ..)) hret).not.2 htakes⟩

end SimpleRouter
