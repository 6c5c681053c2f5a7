/-
Hash functions that work block by block.

A message is padded to a whole number of blocks, and the blocks are folded into a
state, one after the other.  A program that is given the message in pieces does not
see the blocks: it keeps a buffer, puts one element after the other into it and works
off the buffer when it is full.  `foldl_feed` says that the two are the same.

Such a function is as good as the compression of one block: `collision_or_suffix`
follows two computations that end in the same state backwards, until their calls
differ or one of them is at its beginning.
-/
import SimpleRouter.Lib.Bytes

namespace BlockHash

open Bytes

variable {α σ β : Type*} {n : ℕ} {f : σ → List α → σ} {s : σ} {l : List α}

/-! ### Blocks -/

/-- The complete blocks of `n` elements. -/
def blocks (n : ℕ) (l : List α) : List (List α) :=
  (List.range (l.length / n)).map fun i => slice l (n * i) n

/-- What is left behind the last complete block. -/
def residue (n : ℕ) (l : List α) : List α := l.drop (n * (l.length / n))

lemma length_residue (n : ℕ) (l : List α) : (residue n l).length = l.length % n := by
  rw [residue, List.length_drop, Nat.mod_eq_sub_mul_div]

@[simp] lemma blocks_nil (n : ℕ) : blocks n ([] : List α) = [] := by simp [blocks]

@[simp] lemma residue_nil (n : ℕ) : residue n ([] : List α) = [] := by simp [residue]

/-- What follows does not change the complete blocks. -/
lemma map_slice_append (l l' : List α) :
    (List.range (l.length / n)).map (fun i => slice (l ++ l') (n * i) n) = blocks n l := by
  refine List.map_congr_left ?_
  intro i hi
  rw [List.mem_range] at hi
  have hend : n * i + n ≤ l.length := by
    calc n * i + n = n * (i + 1) := by ring
      _ ≤ n * (l.length / n) := Nat.mul_le_mul_left n hi
      _ ≤ l.length := Nat.mul_div_le l.length n
  rw [slice, slice, List.drop_append_of_le_length (by omega),
    List.take_append_of_le_length (by rw [List.length_drop]; omega)]

/-- Before a block is complete, one more element goes to the residue. -/
lemma blocks_concat_of_lt (hn : 0 < n) (a : α) (h : (residue n l).length + 1 < n) :
    blocks n (l ++ [a]) = blocks n l ∧ residue n (l ++ [a]) = residue n l ++ [a] := by
  have hle := Nat.mul_div_le l.length n
  rw [length_residue] at h
  have hdiv : (l ++ [a]).length / n = l.length / n := by
    rw [List.length_append, List.length_singleton, Nat.succ_div_of_not_dvd]
    intro hdvd
    have hmod := Nat.mod_add_div l.length n
    have hzero := Nat.mod_eq_zero_of_dvd hdvd
    rw [Nat.add_mod, Nat.mod_eq_of_lt (show 1 < n by omega), Nat.mod_eq_of_lt h] at hzero
    omega
  constructor
  · rw [blocks, hdiv, map_slice_append]
  · rw [residue, residue, hdiv, List.drop_append_of_le_length hle]

/-- The element that completes a block. -/
lemma blocks_concat_of_eq (a : α) (h : (residue n l).length + 1 = n) :
    blocks n (l ++ [a]) = blocks n l ++ [residue n l ++ [a]] ∧ residue n (l ++ [a]) = [] := by
  have hn : 0 < n := by omega
  have hle := Nat.mul_div_le l.length n
  have hlen := length_residue n l
  have hmod := Nat.mod_add_div l.length n
  have hfull : (l ++ [a]).length = n * (l.length / n + 1) := by
    rw [List.length_append, List.length_singleton, Nat.mul_add, Nat.mul_one]
    omega
  have hdiv : (l ++ [a]).length / n = l.length / n + 1 := by
    rw [hfull, Nat.mul_div_cancel_left _ hn]
  constructor
  · rw [blocks, hdiv, List.range_succ, List.map_append, List.map_singleton, map_slice_append, slice,
      List.drop_append_of_le_length hle, List.take_of_length_le]
    · rfl
    · rw [List.length_append, List.length_singleton]
      exact h.le
  · rw [residue, hdiv, ← hfull, List.drop_length]

/-- A list of complete blocks is made up of them. -/
lemma flatten_blocks (hn : 0 < n) (h : n ∣ l.length) : (blocks n l).flatten = l := by
  obtain ⟨k, hk⟩ := h
  have hprefix : ∀ j ≤ k, ((List.range j).map fun i => slice l (n * i) n).flatten = l.take (n * j) := by
    intro j hj
    induction j with
    | zero => simp
    | succ j ih =>
        rw [List.range_succ, List.map_append, List.flatten_append, ih (by omega),
          List.map_singleton, List.flatten_singleton, slice, Nat.mul_succ, List.take_add]
  rw [blocks, hk, Nat.mul_div_cancel_left _ hn, hprefix k le_rfl, ← hk, List.take_length]

/-! ### One element at a time -/

/-- Put an element into the buffer and work the buffer off when it is full. -/
def feed (n : ℕ) (f : σ → List α → σ) (p : σ × List α) (a : α) : σ × List α :=
  if (p.2 ++ [a]).length = n then (f p.1 (p.2 ++ [a]), []) else (p.1, p.2 ++ [a])

/-- The state is that after the complete blocks, and the rest is in the buffer. -/
theorem foldl_feed (hn : 0 < n) (f : σ → List α → σ) (s : σ) (l : List α) :
    l.foldl (feed n f) (s, []) = ((blocks n l).foldl f s, residue n l) := by
  induction l using List.reverseRecOn with
  | nil => simp
  | append_singleton l a ih =>
      rw [List.foldl_append, ih, List.foldl_cons, List.foldl_nil, feed]
      have hlt : (residue n l).length < n := by
        rw [length_residue]
        exact Nat.mod_lt _ hn
      simp only [List.length_append, List.length_singleton]
      split_ifs with hfull
      · obtain ⟨hblocks, hres⟩ := blocks_concat_of_eq a hfull
        rw [hblocks, hres, List.foldl_append, List.foldl_cons, List.foldl_nil]
      · obtain ⟨hblocks, hres⟩ := blocks_concat_of_lt hn a (show (residue n l).length + 1 < n by omega)
        rw [hblocks, hres]

/-- Elements that do not fill the buffer. -/
lemma foldl_feed_of_lt {buf : List α} (h : buf.length + l.length < n) :
    l.foldl (feed n f) (s, buf) = (s, buf ++ l) := by
  induction l generalizing buf with
  | nil => simp
  | cons a l ih =>
      rw [List.length_cons] at h
      rw [List.foldl_cons, feed, if_neg (by simp; omega), ih (by simp; omega), List.append_assoc]
      rfl

/-- Elements that fill the buffer. -/
lemma foldl_feed_of_eq {buf : List α} (hl : l ≠ []) (h : buf.length + l.length = n) :
    l.foldl (feed n f) (s, buf) = (f s (buf ++ l), []) := by
  obtain ⟨l, a, rfl⟩ := List.eq_nil_or_concat l |>.resolve_left hl
  rw [List.concat_eq_append, List.length_append, List.length_singleton] at h
  have hlt : buf.length + l.length < n := by omega
  rw [List.concat_eq_append, List.foldl_append, foldl_feed_of_lt hlt, List.foldl_cons,
    List.foldl_nil, feed, if_pos (by simp; omega), List.append_assoc]

/-! ### Schemes -/

/-- A hash function: the compression of a block, the state at the beginning, and the
padding, which depends on the length of the message alone. -/
structure Scheme (α σ : Type*) where
  size : ℕ
  compress : σ → List α → σ
  init : σ
  pad : ℕ → List α
  size_pos : 0 < size
  aligned : ∀ k, size ∣ k + (pad k).length

namespace Scheme

variable (h : Scheme α σ)

/-- The message with its padding. -/
def padded (m : List α) : List α := m ++ h.pad m.length

/-- The value of the hash function. -/
def digest (m : List α) : σ := (blocks h.size (h.padded m)).foldl h.compress h.init

lemma dvd_length_padded (m : List α) : h.size ∣ (h.padded m).length := by
  rw [padded, List.length_append]
  exact h.aligned m.length

/-- The padding, put into the buffer behind the message, empties it. -/
lemma foldl_feed_pad (m : List α) :
    (h.pad m.length).foldl (feed h.size h.compress)
        ((blocks h.size m).foldl h.compress h.init, residue h.size m)
      = (h.digest m, []) := by
  have hempty : residue h.size (h.padded m) = [] := by
    rw [← List.length_eq_zero_iff, length_residue]
    exact Nat.mod_eq_zero_of_dvd (h.dvd_length_padded m)
  rw [← foldl_feed h.size_pos, ← List.foldl_append]
  change (h.padded m).foldl _ _ = _
  rw [foldl_feed h.size_pos, hempty, digest]

end Scheme

/-! ### Collisions -/

/-- The arguments of the calls of `f` in a computation. -/
def calls (f : σ → β → σ) : σ → List β → List (σ × β)
  | _, [] => []
  | s, b :: bs => (s, b) :: calls f (f s b) bs

lemma calls_concat (f : σ → β → σ) (s : σ) (bs : List β) (b : β) :
    calls f s (bs ++ [b]) = calls f s bs ++ [(bs.foldl f s, b)] := by
  induction bs generalizing s with
  | nil => rfl
  | cons b' bs ih => rw [List.cons_append, calls, ih, calls, List.foldl_cons, List.cons_append]

/-- Two calls with different arguments and the same result. -/
def Collide (f : σ → β → σ) (c c' : σ × β) : Prop := c ≠ c' ∧ f c.1 c.2 = f c'.1 c'.2

/-- Two computations with the same result make two calls that collide, or one of them
does what the other one does at its end. -/
theorem collision_or_suffix (f : σ → β → σ) (s : σ) (bs cs : List β)
    (h : bs.foldl f s = cs.foldl f s) :
    (∃ c ∈ calls f s bs, ∃ c' ∈ calls f s cs, Collide f c c') ∨ bs <:+ cs ∨ cs <:+ bs := by
  induction bs using List.reverseRecOn generalizing cs with
  | nil => exact Or.inr (Or.inl (List.nil_suffix))
  | append_singleton bs b ih =>
      rcases List.eq_nil_or_concat cs with rfl | ⟨cs, c, rfl⟩
      · exact Or.inr (Or.inr List.nil_suffix)
      · rw [List.concat_eq_append] at h ⊢
        rw [List.foldl_append, List.foldl_append] at h
        rw [calls_concat, calls_concat]
        by_cases hlast : (bs.foldl f s, b) = (cs.foldl f s, c)
        · rw [Prod.mk.injEq] at hlast
          obtain ⟨hstate, rfl⟩ := hlast
          rcases ih cs hstate with ⟨d, hd, d', hd', hcol⟩ | hsuf | hsuf
          · exact Or.inl ⟨d, List.mem_append_left _ hd, d', List.mem_append_left _ hd', hcol⟩
          · exact Or.inr (Or.inl ((List.suffix_append_inj_of_length_eq rfl).2 ⟨hsuf, rfl⟩))
          · exact Or.inr (Or.inr ((List.suffix_append_inj_of_length_eq rfl).2 ⟨hsuf, rfl⟩))
        · exact Or.inl ⟨(bs.foldl f s, b), by simp, (cs.foldl f s, c), by simp, hlast, h⟩

/-- If no padded message ends like another one, then two messages with the same value
lead to calls that collide. -/
theorem Scheme.exists_collide (h : Scheme α σ) {m m' : List α}
    (hfree : h.padded m <:+ h.padded m' ∨ h.padded m' <:+ h.padded m → m = m')
    (hne : m ≠ m') (hdigest : h.digest m = h.digest m') :
    ∃ c ∈ calls h.compress h.init (blocks h.size (h.padded m)),
      ∃ c' ∈ calls h.compress h.init (blocks h.size (h.padded m')), Collide h.compress c c' := by
  have hflat : ∀ m, (blocks h.size (h.padded m)).flatten = h.padded m := fun m =>
    flatten_blocks h.size_pos (h.dvd_length_padded m)
  have hsuffix : ∀ {bs cs : List (List α)}, bs <:+ cs → bs.flatten <:+ cs.flatten := by
    rintro bs cs ⟨ds, rfl⟩
    exact ⟨ds.flatten, by rw [List.flatten_append]⟩
  rcases collision_or_suffix h.compress h.init _ _ hdigest with hcol | hsuf | hsuf
  · exact hcol
  · have hs := hsuffix hsuf
    rw [hflat, hflat] at hs
    exact absurd (hfree (Or.inl hs)) hne
  · have hs := hsuffix hsuf
    rw [hflat, hflat] at hs
    exact absurd (hfree (Or.inr hs)) hne

end BlockHash
