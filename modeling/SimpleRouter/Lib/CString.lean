/-
Bounded C strings.

A `char` buffer is a list of bytes; the string in it ends at the first NUL, or
at the bound of the library call that looks at it.  `strncpy` and `strncmp`
follow the documented behaviour of the C library: the copy stops at the first
NUL and fills up with NULs, and it leaves no terminator when the source is at
least as long as the bound.  A list that ends before its NUL stands for a
buffer that continues with one.

The result that carries all reasoning about names is `strncmp_eq_zero_iff`:
comparing with bound `n` is equality of `cstr n`, hence an equivalence.
-/
import Mathlib

namespace CString

/-- The string that a call bounded by `n` sees in the buffer `a`. -/
def cstr (n : ℕ) (a : List UInt8) : List UInt8 := (a.take n).takeWhile (· ≠ 0)

/-- `strncpy(dst, a, n)`: the `n` bytes written to `dst`. -/
def strncpy (n : ℕ) (a : List UInt8) : List UInt8 :=
  cstr n a ++ List.replicate (n - (cstr n a).length) 0

/-- `strncmp(a, b, n)`: the difference of the first two bytes that differ. -/
def strncmp : ℕ → List UInt8 → List UInt8 → ℤ
  | 0, _, _ => 0
  | n + 1, a, b =>
      if a.headD 0 ≠ b.headD 0 then ((a.headD 0).toNat : ℤ) - (b.headD 0).toNat
      else if a.headD 0 = 0 then 0
      else strncmp n a.tail b.tail

@[simp] lemma cstr_zero (a : List UInt8) : cstr 0 a = [] := by simp [cstr]

@[simp] lemma cstr_nil (n : ℕ) : cstr n [] = [] := by simp [cstr]

lemma cstr_cons (n : ℕ) (x : UInt8) (a : List UInt8) :
    cstr (n + 1) (x :: a) = if x = 0 then [] else x :: cstr n a := by
  by_cases hx : x = 0 <;> simp [cstr, hx]

lemma length_cstr_le (n : ℕ) (a : List UInt8) : (cstr n a).length ≤ n := by
  calc (cstr n a).length ≤ (a.take n).length := (List.takeWhile_prefix _).length_le
    _ ≤ n := by simp

lemma ne_zero_of_mem_cstr {n : ℕ} {a : List UInt8} {x : UInt8} (h : x ∈ cstr n a) : x ≠ 0 := by
  simpa using List.mem_takeWhile_imp h

lemma length_strncpy (n : ℕ) (a : List UInt8) : (strncpy n a).length = n := by
  have h := length_cstr_le n a
  simp only [strncpy, List.length_append, List.length_replicate]
  omega

lemma cstr_append_replicate (n k : ℕ) (a : List UInt8) (ha : ∀ x ∈ a, x ≠ 0)
    (hlen : a.length ≤ n) : cstr n (a ++ List.replicate k 0) = a := by
  induction a generalizing n with
  | nil =>
      cases n with
      | zero => simp
      | succ n =>
          cases k with
          | zero => simp
          | succ k => simp [List.replicate_succ, cstr_cons]
  | cons x a ih =>
      cases n with
      | zero => simp at hlen
      | succ n =>
          rw [List.cons_append, cstr_cons, if_neg (ha x (by simp)),
            ih n (fun y hy => ha y (by simp [hy])) (by simpa using hlen)]

/-- A smaller bound sees the beginning of the string. -/
lemma cstr_eq_take {m n : ℕ} (h : m ≤ n) (a : List UInt8) : cstr m a = (cstr n a).take m := by
  induction m generalizing n a with
  | zero => simp
  | succ m ih =>
      obtain ⟨k, rfl⟩ : ∃ k, n = k + 1 := ⟨n - 1, by omega⟩
      cases a with
      | nil => simp
      | cons x a =>
          rw [cstr_cons, cstr_cons]
          split_ifs with hx
          · rfl
          · rw [List.take_succ_cons, ih (show m ≤ k by omega)]

/-- A string without NUL that fits into the bound continues with what is behind it. -/
lemma cstr_append {n : ℕ} {a : List UInt8} (b : List UInt8) (ha : ∀ x ∈ a, x ≠ 0)
    (hlen : a.length ≤ n) : cstr n (a ++ b) = a ++ cstr (n - a.length) b := by
  induction a generalizing n with
  | nil => simp
  | cons x a ih =>
      cases n with
      | zero => simp at hlen
      | succ n =>
          have hrest := ih (n := n) (fun y hy => ha y (by simp [hy])) (by simpa using hlen)
          rw [List.cons_append, cstr_cons, if_neg (ha x (by simp)), hrest, List.length_cons,
            Nat.add_sub_add_right, List.cons_append]

/-- Behind its NUL a string does not go on. -/
lemma cstr_append_of_mem (n : ℕ) {a : List UInt8} (b : List UInt8) (h : 0 ∈ a) :
    cstr n (a ++ b) = cstr n a := by
  induction a generalizing n with
  | nil => simp at h
  | cons x a ih =>
      cases n with
      | zero => simp
      | succ n =>
          rw [List.cons_append, cstr_cons, cstr_cons]
          split_ifs with hx
          · rfl
          · rw [ih n ((List.mem_cons.1 h).resolve_left (Ne.symm hx))]

/-- A bounded copy holds the same string. -/
@[simp] lemma cstr_strncpy (n : ℕ) (a : List UInt8) : cstr n (strncpy n a) = cstr n a :=
  cstr_append_replicate n _ _ (fun _ h => ne_zero_of_mem_cstr h) (length_cstr_le n a)

/-- A bounded comparison is equality of the bounded strings. -/
lemma strncmp_eq_zero_iff (n : ℕ) (a b : List UInt8) :
    strncmp n a b = 0 ↔ cstr n a = cstr n b := by
  induction n generalizing a b with
  | zero => simp [strncmp]
  | succ n ih =>
      have hsub : ∀ x y : UInt8, ((x.toNat : ℤ) - y.toNat = 0) ↔ x = y := by
        intro x y
        rw [sub_eq_zero, Nat.cast_inj, UInt8.toNat_inj]
      cases a with
      | nil =>
          cases b with
          | nil => simp [strncmp]
          | cons y b =>
              by_cases hy : y = 0
              · simp [strncmp, cstr_cons, hy]
              · have hy' : ¬ (0 : UInt8) = y := fun h => hy h.symm
                have hz := hsub 0 y
                simp only [strncmp, cstr_cons, hy, cstr_nil, List.headD_nil, List.headD_cons,
                  ne_eq, hy', not_false_eq_true, if_true, hz]
                simp
      | cons x a =>
          cases b with
          | nil =>
              by_cases hx : x = 0
              · simp [strncmp, cstr_cons, hx]
              · have hz := hsub x 0
                simp only [strncmp, cstr_cons, hx, cstr_nil, List.headD_nil, List.headD_cons,
                  ne_eq, not_false_eq_true, if_true, hz]
                simp
          | cons y b =>
              by_cases hxy : x = y
              · subst hxy
                by_cases hx : x = 0
                · simp [strncmp, cstr_cons, hx]
                · simp [strncmp, cstr_cons, hx, ih]
              · have hz := hsub x y
                simp only [strncmp, cstr_cons, List.headD_cons, ne_eq, hxy, not_false_eq_true,
                  if_true, hz]
                by_cases hx : x = 0
                · have hy : ¬ y = 0 := fun h => hxy (hx.trans h.symm)
                  simp [hx, hy]
                · by_cases hy : y = 0
                  · simp [hx, hy]
                  · simp [hx, hy, hxy]

end CString
