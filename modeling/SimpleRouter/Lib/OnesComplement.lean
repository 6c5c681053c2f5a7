/-
One's complement sums of 16-bit words.

`wordSum` adds the big-endian words of a byte string as integers, an odd last
byte counting as the upper half of a word; `fold` brings the carries back until
16 bits are left, and `onesSum` is the folded sum.  The arithmetic is that of
the residues modulo 65535 with *two* representatives of zero: `fold` keeps 0
only for 0 itself and uses 65535 for every other multiple (`fold_eq`), which is
what makes `negate`, the complement that avoids 0, a right inverse
(`fold_add_negate`).
-/
import SimpleRouter.Lib.Bytes

namespace OnesComplement

open Bytes

/-- The sum of the big-endian 16-bit words of a byte string. -/
def wordSum : List UInt8 → ℕ
  | [] => 0
  | [a] => a.toNat * 256
  | a :: b :: rest => a.toNat * 256 + b.toNat + wordSum rest

/-- Add the carries back in until the sum fits into 16 bits. -/
def fold (n : ℕ) : ℕ :=
  if 65535 < n then fold (n / 65536 + n % 65536) else n
termination_by n
decreasing_by omega

/-- The one's complement sum of a byte string. -/
def onesSum (l : List UInt8) : ℕ := fold (wordSum l)

/-- The complement of a folded sum, with 65535 in place of 0. -/
def negate (n : ℕ) : ℕ := if n = 65535 then 65535 else 65535 - n

/-! ### Folding -/

/-- Folding keeps the residue modulo 65535 and picks its representative in
`1 … 65535`; only 0 folds to 0. -/
lemma fold_eq (n : ℕ) : fold n = if n = 0 then 0 else (n - 1) % 65535 + 1 := by
  induction n using Nat.strong_induction_on with
  | _ n ih =>
      rw [fold]
      split_ifs with h hz hz
      · omega
      · rw [ih _ (by omega), if_neg (by omega)]
        congr 1
        have hn : n - 1 = 65535 * (n / 65536) + (n / 65536 + n % 65536 - 1) := by omega
        rw [hn, Nat.mul_add_mod]
      · exact hz
      · omega

lemma fold_le (n : ℕ) : fold n ≤ 65535 := by
  rw [fold_eq]
  split_ifs <;> omega

lemma fold_eq_max_iff (n : ℕ) : fold n = 65535 ↔ n ≠ 0 ∧ n % 65535 = 0 := by
  rw [fold_eq]
  by_cases hn : n = 0
  · simp [hn]
  · rw [if_neg hn]
    omega

/-- Adding the complement of the folded sum gives all ones. -/
lemma fold_add_negate (n : ℕ) : fold (n + negate (fold n)) = 65535 := by
  rw [fold_eq_max_iff, negate, fold_eq n]
  split_ifs <;> omega

lemma negate_lt {n : ℕ} : negate n < 65536 := by
  rw [negate]
  split_ifs <;> omega

/-- A word is the complement of a sum exactly if it completes the sum to all ones,
except for the word 0, which completes a sum that is all ones already. -/
lemma eq_negate_fold_iff {n r : ℕ} (hn : n ≠ 0) (hr : r < 65536) :
    r = negate (fold n) ↔ r ≠ 0 ∧ fold (n + r) = 65535 := by
  rw [fold_eq_max_iff, negate, fold_eq n, if_neg hn]
  split_ifs <;> omega

/-- The complement depends on the residue only. -/
lemma negate_fold_congr {m n : ℕ} (h : m % 65535 = n % 65535) :
    negate (fold m) = negate (fold n) := by
  rw [negate, negate, fold_eq m, fold_eq n]
  split_ifs <;> omega

/-! ### Sums of blocks -/

lemma wordSum_append {a : List UInt8} (b : List UInt8) (ha : a.length % 2 = 0) :
    wordSum (a ++ b) = wordSum a + wordSum b := by
  induction a using wordSum.induct with
  | case1 => simp [wordSum]
  | case2 x => simp at ha
  | case3 x y rest ih =>
      have hrest : rest.length % 2 = 0 := by
        simp only [List.length_cons] at ha
        omega
      simp only [List.cons_append, wordSum, ih hrest]
      omega

/-- A string that follows `n` bytes, brought to a word boundary. -/
def aligned (n : ℕ) (l : List UInt8) : List UInt8 := if n % 2 = 0 then l else 0 :: l

lemma aligned_congr {m n : ℕ} (l : List UInt8) (h : m % 2 = n % 2) : aligned m l = aligned n l := by
  simp only [aligned, h]

/-- The words of a string that is cut anywhere. -/
lemma wordSum_append_aligned (a b : List UInt8) :
    wordSum (a ++ b) = wordSum a + wordSum (aligned a.length b) := by
  induction a using wordSum.induct with
  | case1 => simp [wordSum, aligned]
  | case2 x =>
      cases b with
      | nil => simp [wordSum, aligned]
      | cons y b =>
          simp only [aligned, List.length_singleton, List.singleton_append, wordSum]
          rw [if_neg (by omega), wordSum]
          simp only [UInt8.toNat_zero]
          omega
  | case3 x y rest ih =>
      have hpar : aligned (x :: y :: rest).length b = aligned rest.length b :=
        aligned_congr b (by simp only [List.length_cons]; omega)
      rw [List.cons_append, List.cons_append, wordSum, wordSum, ih, hpar]
      omega

lemma wordSum_le (l : List UInt8) : wordSum l ≤ 65535 * ((l.length + 1) / 2) := by
  induction l using wordSum.induct with
  | case1 => simp [wordSum]
  | case2 a =>
      have := a.toNat_lt
      simp only [wordSum, List.length_cons, List.length_nil]
      omega
  | case3 a b rest ih =>
      have h₁ := a.toNat_lt
      have h₂ := b.toNat_lt
      simp only [wordSum, List.length_cons]
      omega

lemma wordSum_be16 {c : ℕ} (hc : c < 65536) : wordSum (be16 c) = c := by
  have h := u16_be16 hc
  simp only [u16, u8, be16, List.getD_cons_zero, List.getD_cons_succ] at h
  simpa [wordSum, be16] using h

/-- The words of a string, split at a word of even offset. -/
lemma wordSum_split {l : List UInt8} {off : ℕ} (hoff : off % 2 = 0) (h : off + 2 ≤ l.length) :
    wordSum l = wordSum (l.take off) + u16 l off + wordSum (l.drop (off + 2)) := by
  have hsplit : l = l.take off ++ (be16 (u16 l off) ++ l.drop (off + 2)) := by
    rw [be16_u16 h, slice]
    conv_lhs => rw [← List.take_append_drop off l]
    congr 1
    conv_lhs => rw [← List.take_append_drop 2 (l.drop off)]
    rw [List.drop_drop]
  conv_lhs => rw [hsplit]
  rw [wordSum_append _ (by simp; omega), wordSum_append _ (by simp),
    wordSum_be16 (u16_lt l off)]
  omega

/-- Overwriting one word changes the sum by the difference. -/
lemma wordSum_patch {l : List UInt8} {off c : ℕ} (hoff : off % 2 = 0) (h : off + 2 ≤ l.length)
    (hc : c < 65536) : wordSum (patch l off (be16 c)) + u16 l off = wordSum l + c := by
  have hp : wordSum (patch l off (be16 c))
      = wordSum (l.take off) + c + wordSum (l.drop (off + 2)) := by
    rw [patch, List.append_assoc, wordSum_append _ (by simp; omega), wordSum_append _ (by simp),
      wordSum_be16 hc, length_be16]
    omega
  rw [hp, wordSum_split hoff h]
  omega

/-- Storing the complement of the sum in a zero word makes the sum all ones. -/
lemma onesSum_patch_negate {l : List UInt8} {off : ℕ} (hoff : off % 2 = 0)
    (h : off + 2 ≤ l.length) (hz : u16 l off = 0) :
    onesSum (patch l off (be16 (negate (onesSum l)))) = 65535 := by
  have hp := wordSum_patch hoff h (negate_lt (n := onesSum l))
  rw [hz, Nat.add_zero] at hp
  rw [onesSum, hp]
  exact fold_add_negate (wordSum l)

/-- A string that does not start with 0 has a sum that is not 0. -/
lemma wordSum_ne_zero {l : List UInt8} (h : u8 l 0 ≠ 0) : wordSum l ≠ 0 := by
  have hpos : 0 < (u8 l 0).toNat := by
    rw [Nat.pos_iff_ne_zero]
    intro hz
    exact h (UInt8.toNat_inj.1 hz)
  cases l with
  | nil => exact absurd rfl h
  | cons a l =>
      change 0 < a.toNat at hpos
      cases l with
      | nil =>
          rw [wordSum]
          omega
      | cons b l =>
          rw [wordSum]
          omega

/-- Less than two words, of which the first is zero, do not add up to all ones. -/
lemma onesSum_ne_of_short {l : List UInt8} (hlen : l.length < 4)
    (h : ∀ i, i < l.length → i < 2 → u8 l i = 0) : onesSum l ≠ 65535 := by
  rw [Ne, onesSum, fold_eq_max_iff]
  rcases l with _ | ⟨a, _ | ⟨b, l⟩⟩
  · simp [wordSum]
  · have ha : a = 0 := h 0 (by simp) (by omega)
    simp [wordSum, ha]
  · have ha : a = 0 := h 0 (by simp) (by omega)
    have hb : b = 0 := h 1 (by simp) (by omega)
    have hle := wordSum_le l
    have hodd : wordSum l < 65535 := by
      rcases l with _ | ⟨c, _ | ⟨d, l⟩⟩
      · simp [wordSum]
      · have hc := c.toNat_lt
        simp only [wordSum]
        omega
      · simp only [List.length_cons] at hlen
        omega
    simp only [wordSum, ha, hb, UInt8.toNat_zero]
    omega

/-- Recomputing the checksum of a string and comparing it with the stored word accepts
the strings whose sum is all ones, except for those where the word is 0. -/
lemma u16_eq_negate_iff {l : List UInt8} {off : ℕ} (hoff : off % 2 = 0) (h : off + 2 ≤ l.length)
    (hne : wordSum (patch l off (be16 0)) ≠ 0) :
    u16 l off = negate (onesSum (patch l off (be16 0))) ↔ u16 l off ≠ 0 ∧ onesSum l = 65535 := by
  have hp := wordSum_patch hoff h (show 0 < 65536 by omega)
  rw [onesSum, eq_negate_fold_iff hne (u16_lt l off), hp, Nat.add_zero, ← onesSum]

end OnesComplement
