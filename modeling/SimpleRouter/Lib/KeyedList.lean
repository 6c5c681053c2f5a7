/-
Lists of records that are looked up by a key.

A linked list of records with pairwise distinct keys is a finite map.  This
file has the map laws for the three list operations that play its updates:
rewriting the record of a key in place, removing the record of a key, and
adding a record in front.
-/
import Mathlib

namespace KeyedList

variable {α κ : Type*} [DecidableEq κ] {key : α → κ} {l : List α} {k k' : κ} {a : α}

/-- With distinct keys, the record found under a key is *the* record with that
key. -/
lemma find?_eq_some_iff (hn : (l.map key).Nodup) :
    l.find? (fun a => key a = k) = some a ↔ a ∈ l ∧ key a = k := by
  constructor
  · intro h
    exact ⟨List.mem_of_find?_eq_some h, by simpa using List.find?_some h⟩
  · rintro ⟨hmem, rfl⟩
    have hsome : (l.find? (fun b => key b = key a)).isSome := by
      rw [List.find?_isSome]
      exact ⟨a, hmem, by simp⟩
    obtain ⟨b, hb⟩ := Option.isSome_iff_exists.1 hsome
    have hkey : key b = key a := by simpa using List.find?_some hb
    rw [hb, List.inj_on_of_nodup_map hn (List.mem_of_find?_eq_some hb) hmem hkey]

lemma find?_eq_none_iff : l.find? (fun a => key a = k) = none ↔ ∀ a ∈ l, key a ≠ k := by
  simp

/-- Rewriting the record of one key in place. -/
lemma find?_map_update {f : α → α} (hf : ∀ a, key (f a) = key a) :
    (l.map fun a => if key a = k then f a else a).find? (fun a => key a = k')
      = if k' = k then (l.find? fun a => key a = k).map f else l.find? fun a => key a = k' := by
  induction l with
  | nil => simp
  | cons a l ih =>
      rw [List.map_cons]
      by_cases hak : key a = k
      · rw [if_pos hak]
        by_cases hk : k' = k
        · rw [if_pos hk, List.find?_cons_of_pos (by simp [hf, hak, hk]),
            List.find?_cons_of_pos (by simp [hak])]
          rfl
        · rw [if_neg hk] at ih ⊢
          rw [List.find?_cons_of_neg (by simp [hf, hak, Ne.symm hk]),
            List.find?_cons_of_neg (by simp [hak, Ne.symm hk]), ih]
      · rw [if_neg hak]
        by_cases hk : k' = k
        · rw [if_pos hk] at ih ⊢
          rw [List.find?_cons_of_neg (by simp [hak, hk]), List.find?_cons_of_neg (by simp [hak]), ih]
        · rw [if_neg hk] at ih ⊢
          by_cases hak' : key a = k'
          · rw [List.find?_cons_of_pos (by simp [hak']), List.find?_cons_of_pos (by simp [hak'])]
          · rw [List.find?_cons_of_neg (by simp [hak']), List.find?_cons_of_neg (by simp [hak']), ih]

lemma map_key_map_update {f : α → α} (hf : ∀ a, key (f a) = key a) :
    (l.map fun a => if key a = k then f a else a).map key = l.map key := by
  rw [List.map_map]
  apply List.map_congr_left
  intro a _
  simp only [Function.comp_apply]
  split_ifs
  · exact hf a
  · rfl

/-- Removing the record of one key. -/
lemma find?_filter_ne :
    (l.filter fun a => key a ≠ k).find? (fun a => key a = k')
      = if k' = k then none else l.find? fun a => key a = k' := by
  by_cases hk : k' = k
  · rw [if_pos hk, find?_eq_none_iff]
    intro a ha
    have hne : key a ≠ k := by simpa using (List.mem_filter.1 ha).2
    rwa [hk]
  · rw [if_neg hk, List.find?_filter]
    congr 1
    funext a
    by_cases ha : key a = k' <;> simp [ha, hk]

/-- Erasing an element that a filter drops anyway does not matter to the filter. -/
lemma filter_eraseP {p q : α → Bool} {l : List α} (h : ∀ a ∈ l, p a → q a = false) :
    (l.eraseP p).filter q = l.filter q := by
  induction l with
  | nil => rfl
  | cons a l ih =>
      by_cases hp : p a
      · rw [List.eraseP_cons_of_pos hp, List.filter_cons_of_neg]
        simp [h a (by simp) hp]
      · rw [List.eraseP_cons_of_neg hp, List.filter_cons, List.filter_cons,
          ih fun b hb => h b (List.mem_cons_of_mem _ hb)]

/-- If a predicate holds at most once, what it holds of is determined. -/
lemma eq_of_countP_le_one {p : α → Bool} {l : List α} {a b : α} (h : l.countP p ≤ 1) (ha : a ∈ l)
    (hb : b ∈ l) (hpa : p a) (hpb : p b) : a = b := by
  induction l with
  | nil => simp at ha
  | cons c l ih =>
      have hpos : ∀ {d}, d ∈ l → p d → 0 < l.countP p := fun hd hpd =>
        List.countP_pos_iff.2 ⟨_, hd, hpd⟩
      rw [List.countP_cons] at h
      rcases List.mem_cons.1 ha with rfl | ha'
      · rcases List.mem_cons.1 hb with rfl | hb'
        · rfl
        · have := hpos hb' hpb
          simp only [hpa, if_true] at h
          omega
      · rcases List.mem_cons.1 hb with rfl | hb'
        · have := hpos ha' hpa
          simp only [hpb, if_true] at h
          omega
        · exact ih (by omega) ha' hb'

/-! ### Sums over the records -/

section Sum

variable {g : α → ℕ}

lemma filter_ne_of_not_mem (h : k ∉ l.map key) : (l.filter fun b => key b ≠ k) = l := by
  rw [List.filter_eq_self]
  intro b hb
  have hne : key b ≠ k := fun hk => h (hk ▸ List.mem_map_of_mem hb)
  simpa using hne

/-- Removing a record takes its share off the sum. -/
lemma sum_filter_ne (hn : (l.map key).Nodup) (ha : a ∈ l) :
    ((l.filter fun b => key b ≠ key a).map g).sum + g a = (l.map g).sum := by
  induction l with
  | nil => simp at ha
  | cons b l ih =>
      rw [List.map_cons, List.nodup_cons] at hn
      rcases List.mem_cons.1 ha with rfl | ha
      · rw [List.filter_cons_of_neg (by simp), filter_ne_of_not_mem hn.1, List.map_cons,
          List.sum_cons, Nat.add_comm]
      · have hne : key b ≠ key a := fun hk => hn.1 (hk ▸ List.mem_map_of_mem ha)
        rw [List.filter_cons_of_pos (by simpa using hne), List.map_cons, List.map_cons,
          List.sum_cons, List.sum_cons, ← ih hn.2 ha, Nat.add_assoc]

/-- Rewriting a record changes its share of the sum. -/
lemma sum_map_update {f : α → α} (hn : (l.map key).Nodup) (ha : a ∈ l) :
    ((l.map fun b => if key b = key a then f b else b).map g).sum + g a
      = (l.map g).sum + g (f a) := by
  induction l with
  | nil => simp at ha
  | cons b l ih =>
      rw [List.map_cons, List.nodup_cons] at hn
      rcases List.mem_cons.1 ha with rfl | ha
      · have hrest : (l.map fun b => if key b = key a then f b else b) = l := by
          conv_rhs => rw [← List.map_id l]
          refine List.map_congr_left fun b hb => if_neg fun hk => hn.1 ?_
          exact hk ▸ List.mem_map_of_mem hb
        simp only [List.map_cons, if_true, List.sum_cons, hrest]
        omega
      · have hne : key b ≠ key a := fun hk => hn.1 (hk ▸ List.mem_map_of_mem ha)
        have := ih hn.2 ha
        simp only [List.map_cons, if_neg hne, List.sum_cons]
        omega

end Sum

end KeyedList
