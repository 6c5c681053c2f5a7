/-
Lookups in the ARP cache (`sr_arpcache_lookup`).

`sr_arpcache_insert` takes the first free slot, and `sr_arpcache_lookup` returns the
last slot with the address.  A new mapping is found if no older one for its address
stands behind the first free slot; one that does shadows it.
-/
import SimpleRouter.Events

namespace SimpleRouter

open Bytes Runs

variable {s : Router} {mac : Mac} {ip : Ip} {e : SrArpentry} {a b entries : List SrArpentry}

/-- `sr_arpcache_lookup`: the last valid entry for the address. -/
def srArpcacheLookup (entries : List SrArpentry) (ip : Ip) : Option SrArpentry :=
  entries.foldl (fun entry e => if e.valid ∧ e.ip = ip then some e else entry) none

/-- The entries behind the first free slot. -/
def behindFree (entries : List SrArpentry) : List SrArpentry :=
  (entries.dropWhile (·.valid)).tail

/-! ### Lookups by parts -/

lemma foldl_lookup (entries : List SrArpentry) (ip : Ip) (found : Option SrArpentry) :
    entries.foldl (fun entry e => if e.valid ∧ e.ip = ip then some e else entry) found
      = (srArpcacheLookup entries ip).or found := by
  induction entries generalizing found with
  | nil => rfl
  | cons e entries ih =>
      rw [srArpcacheLookup, List.foldl_cons, List.foldl_cons, ih,
        ih (if e.valid ∧ e.ip = ip then some e else none)]
      by_cases he : e.valid ∧ e.ip = ip
      · rw [if_pos he, if_pos he]
        cases srArpcacheLookup entries ip with
        | none => rfl
        | some e' => rfl
      · rw [if_neg he, if_neg he, Option.or_none]

lemma srArpcacheLookup_append (a b : List SrArpentry) (ip : Ip) :
    srArpcacheLookup (a ++ b) ip = (srArpcacheLookup b ip).or (srArpcacheLookup a ip) := by
  rw [srArpcacheLookup, List.foldl_append, foldl_lookup]
  rfl

lemma srArpcacheLookup_cons (e : SrArpentry) (b : List SrArpentry) (ip : Ip) :
    srArpcacheLookup (e :: b) ip
      = (srArpcacheLookup b ip).or (if e.valid ∧ e.ip = ip then some e else none) := by
  rw [srArpcacheLookup, List.foldl_cons, foldl_lookup]

/-! ### Insertion -/

/-- A cache with a free slot, cut at the first one. -/
lemma exists_split_of_free (h : ∃ e ∈ entries, e.valid = false) :
    ∃ pre x, entries = pre ++ x :: behindFree entries ∧ x.valid = false ∧
      ∀ e, insertEntry e entries = pre ++ e :: behindFree entries := by
  induction entries with
  | nil => simp at h
  | cons y entries ih =>
      cases hy : y.valid with
      | false =>
          have hbehind : behindFree (y :: entries) = entries := by
            rw [behindFree, List.dropWhile_cons_of_neg (by simp [hy]), List.tail_cons]
          rw [hbehind]
          exact ⟨[], y, rfl, hy, fun e => by simp [insertEntry, hy]⟩
      | true =>
          have hbehind : behindFree (y :: entries) = behindFree entries := by
            rw [behindFree, List.dropWhile_cons_of_pos (by simp [hy])]
            rfl
          have hfree : ∃ e ∈ entries, e.valid = false := by
            obtain ⟨e, he, hv⟩ := h
            rcases List.mem_cons.1 he with rfl | he
            · rw [hy] at hv
              exact absurd hv (by simp)
            · exact ⟨e, he, hv⟩
          obtain ⟨pre, x, hsplit, hx, hins⟩ := ih hfree
          rw [hbehind]
          refine ⟨y :: pre, x, by rw [List.cons_append, ← hsplit], hx, fun e => ?_⟩
          rw [insertEntry, if_pos hy, hins, List.cons_append]

/-- Right after the insertion the mapping is found, and the other addresses are found
as before. -/
structure SeesLatest (s : Router) (mac : Mac) (ip : Ip) : Prop where
  latest : ∃ e, srArpcacheLookup (srArpcacheInsert s mac ip).2.entries ip = some e ∧ e.mac = mac
  others : ∀ other, other ≠ ip →
    srArpcacheLookup (srArpcacheInsert s mac ip).2.entries other = srArpcacheLookup s.entries other

/-- As long as a slot is free, a new mapping is seen if and only if the last valid entry
for its address behind the first free slot, if there is one, has the same hardware
address. -/
theorem sees_latest_iff (s : Router) (mac : Mac) (ip : Ip)
    (hfree : ∃ e ∈ s.entries, e.valid = false) :
    SeesLatest s mac ip ↔
      ∀ e, srArpcacheLookup (behindFree s.entries) ip = some e → e.mac = mac := by
  obtain ⟨pre, x, hsplit, hx, hins⟩ := exists_split_of_free hfree
  have hentries : (srArpcacheInsert s mac ip).2.entries
      = pre ++ ⟨mac, ip, s.now, true⟩ :: behindFree s.entries := hins _
  have hself : srArpcacheLookup (srArpcacheInsert s mac ip).2.entries ip
      = (srArpcacheLookup (behindFree s.entries) ip).or (some ⟨mac, ip, s.now, true⟩) := by
    rw [hentries, srArpcacheLookup_append, srArpcacheLookup_cons, if_pos ⟨rfl, rfl⟩]
    cases srArpcacheLookup (behindFree s.entries) ip with
    | none => rfl
    | some e => rfl
  have hothers : ∀ other, other ≠ ip → srArpcacheLookup (srArpcacheInsert s mac ip).2.entries other
      = srArpcacheLookup s.entries other := by
    intro other hne
    -- the free slot matched no address, and the new entry matches only its own
    conv_rhs => rw [hsplit]
    rw [hentries, srArpcacheLookup_append, srArpcacheLookup_append, srArpcacheLookup_cons,
      srArpcacheLookup_cons, if_neg fun h => hne h.2.symm, if_neg (by simp [hx])]
  constructor
  · rintro ⟨⟨e, hfound, hmac⟩, -⟩ e' he'
    rw [hself, he', Option.some_or, Option.some.injEq] at hfound
    rw [hfound, hmac]
  · intro h
    refine ⟨?_, hothers⟩
    rw [hself]
    cases hbehind : srArpcacheLookup (behindFree s.entries) ip with
    | none => exact ⟨_, rfl, rfl⟩
    | some e => exact ⟨e, rfl, h e hbehind⟩

/-- A second address in a cache with one entry. -/
theorem sees_latest_iff_sample :
    SeesLatest (srArpcacheInsert sampleRouter ⟨2, 0, 0, 0, 9, 9⟩ (sampleIp 0 2)).2
      ⟨2, 0, 0, 0, 9, 8⟩ (sampleIp 0 3) := by
  have hnone : srArpcacheLookup (behindFree
      (srArpcacheInsert sampleRouter ⟨2, 0, 0, 0, 9, 9⟩ (sampleIp 0 2)).2.entries) (sampleIp 0 3)
      = none := by
    decide +kernel
  refine (sees_latest_iff _ _ _ (by decide +kernel)).2 ?_
  intro e he
  rw [hnone] at he
  simp at he

/-- `10.0.0.2` and, ten seconds later, `10.0.0.3` give their hardware addresses; when the
first entry has expired, a new hardware address of `10.0.0.3` is put in its place, and
the old one is still found. -/
theorem stale_mapping_found :
    ∃ s es, Run Step sampleRouter es s ∧ (∃ e ∈ s.entries, e.valid = false) ∧
      srArpcacheLookup (srArpcacheInsert s ⟨2, 0, 0, 0, 9, 7⟩ (sampleIp 0 3)).2.entries
        (sampleIp 0 3) = some ⟨⟨2, 0, 0, 0, 9, 8⟩, sampleIp 0 3, 11, true⟩ ∧
      ¬ SeesLatest s ⟨2, 0, 0, 0, 9, 7⟩ (sampleIp 0 3) := by
  obtain ⟨s, hrun, hs⟩ := exists_run_of_leadsTo step_of_ok
    (show leadsTo (step 5) sampleRouter
      [.recv (sampleReply (sampleIp 0 2) ⟨2, 0, 0, 0, 9, 9⟩) (sampleName 0), .tick 10,
        .recv (sampleReply (sampleIp 0 3) ⟨2, 0, 0, 0, 9, 8⟩) (sampleName 0), .tick 6, .sweep]
      (fun s => (∃ e ∈ s.entries, e.valid = false) ∧
        srArpcacheLookup (srArpcacheInsert s ⟨2, 0, 0, 0, 9, 7⟩ (sampleIp 0 3)).2.entries
          (sampleIp 0 3) = some ⟨⟨2, 0, 0, 0, 9, 8⟩, sampleIp 0 3, 11, true⟩) by decide +kernel)
  obtain ⟨hfree, hfound⟩ := of_decide_eq_true hs
  refine ⟨s, _, hrun, hfree, hfound, ?_⟩
  rintro ⟨⟨e, he, hmac⟩, -⟩
  rw [hfound, Option.some.injEq] at he
  rw [← he] at hmac
  exact absurd hmac (by decide)

end SimpleRouter
