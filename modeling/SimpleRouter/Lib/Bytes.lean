/-
Byte strings, as a program sees them that reads fields of a buffer at fixed
offsets and overwrites them in place.

* `slice l off n` is the block of `n` elements at `off`;
* `patch l off bs` is `l` with the block at `off` overwritten by `bs`;
* `u8`, `u16`, `u32` read a byte and a big-endian word, `be16`, `be32` write one.

The two block operations are stated over an arbitrary type.  All the later
reasoning about headers goes through `getElem?_patch`, which says for each
position whether a write reached it.
-/
import Mathlib

namespace Bytes

section Blocks

variable {α : Type*} {l bs : List α} {off n i : ℕ}

/-- The block of `n` elements of `l` that starts at `off`. -/
def slice (l : List α) (off n : ℕ) : List α := (l.drop off).take n

/-- `l` with the block that starts at `off` overwritten by `bs`. -/
def patch (l : List α) (off : ℕ) (bs : List α) : List α :=
  l.take off ++ bs ++ l.drop (off + bs.length)

lemma length_slice (h : off + n ≤ l.length) : (slice l off n).length = n := by
  simp only [slice, List.length_take, List.length_drop]
  omega

lemma getElem?_slice (l : List α) (off n i : ℕ) :
    (slice l off n)[i]? = if i < n then l[off + i]? else none := by
  by_cases hi : i < n <;> simp [slice, hi]

lemma length_patch (h : off + bs.length ≤ l.length) : (patch l off bs).length = l.length := by
  simp only [patch, List.length_append, List.length_take, List.length_drop]
  omega

/-- A write is seen at the positions it covers and nowhere else. -/
lemma getElem?_patch (h : off + bs.length ≤ l.length) (i : ℕ) :
    (patch l off bs)[i]? =
      if i < off then l[i]? else if i < off + bs.length then bs[i - off]? else l[i]? := by
  have htake : (l.take off).length = off := by simp; omega
  by_cases h₁ : i < off
  · rw [if_pos h₁, patch, List.append_assoc,
      List.getElem?_append_left (by rw [htake]; exact h₁), List.getElem?_take, if_pos h₁]
  · rw [if_neg h₁, patch, List.append_assoc,
      List.getElem?_append_right (by rw [htake]; omega), htake]
    by_cases h₂ : i < off + bs.length
    · rw [if_pos h₂, List.getElem?_append_left (by omega)]
    · rw [if_neg h₂, List.getElem?_append_right (by omega), List.getElem?_drop]
      congr 1
      omega

lemma getElem?_patch_of_lt (h : off + bs.length ≤ l.length) (hi : i < off) :
    (patch l off bs)[i]? = l[i]? := by
  rw [getElem?_patch h, if_pos hi]

lemma getElem?_patch_of_ge (h : off + bs.length ≤ l.length) (hi : off + bs.length ≤ i) :
    (patch l off bs)[i]? = l[i]? := by
  rw [getElem?_patch h, if_neg (by omega), if_neg (by omega)]

lemma getElem?_patch_of_disjoint (h : off + bs.length ≤ l.length)
    (hi : i < off ∨ off + bs.length ≤ i) : (patch l off bs)[i]? = l[i]? := by
  rcases hi with hi | hi
  · exact getElem?_patch_of_lt h hi
  · exact getElem?_patch_of_ge h hi

/-- A block disjoint from the write is unchanged. -/
lemma slice_patch_of_disjoint (h : off + bs.length ≤ l.length) {off' : ℕ}
    (hd : off' + n ≤ off ∨ off + bs.length ≤ off') :
    slice (patch l off bs) off' n = slice l off' n := by
  ext i : 1
  rw [getElem?_slice, getElem?_slice]
  by_cases hi : i < n
  · rw [if_pos hi, if_pos hi]
    rcases hd with hd | hd
    · exact getElem?_patch_of_lt h (by omega)
    · exact getElem?_patch_of_ge h (by omega)
  · rw [if_neg hi, if_neg hi]

/-- A write inside a block is a write to the block. -/
lemma slice_patch_inside {off' : ℕ} (h : off' + n ≤ l.length) (h₁ : off' ≤ off)
    (h₂ : off + bs.length ≤ off' + n) :
    slice (patch l off bs) off' n = patch (slice l off' n) (off - off') bs := by
  have hlen := length_slice h
  ext i : 1
  rw [getElem?_slice, getElem?_patch (by omega), getElem?_patch (by omega), getElem?_slice]
  by_cases hi : i < n
  · have hlt : off' + i < off ↔ i < off - off' := by omega
    have hmem : off' + i < off + bs.length ↔ i < off - off' + bs.length := by omega
    have hidx : off' + i - off = i - (off - off') := by omega
    simp only [if_pos hi, hlt, hmem, hidx]
  · rw [if_neg hi, if_neg (by omega), if_neg (by omega), if_neg hi]

/-- Writing back what stands there changes nothing. -/
lemma patch_slice (h : off + n ≤ l.length) : patch l off (slice l off n) = l := by
  have hlen := length_slice h
  ext i : 1
  rw [getElem?_patch (by rw [hlen]; exact h), hlen, getElem?_slice]
  split_ifs with h₁ h₂ h₃
  · rfl
  · congr 1
    omega
  · omega
  · rfl

/-- Of two writes to one block the second counts. -/
lemma patch_patch_self {cs : List α} (h : off + bs.length ≤ l.length)
    (hlen : cs.length = bs.length) : patch (patch l off bs) off cs = patch l off cs := by
  have hl := length_patch h
  ext i : 1
  rw [getElem?_patch (by omega), getElem?_patch h, getElem?_patch (by omega), hlen]
  split_ifs <;> rfl

/-- A block does not see what follows it. -/
lemma slice_take {k : ℕ} (h : off + n ≤ k) : slice (l.take k) off n = slice l off n := by
  ext i : 1
  rw [getElem?_slice, getElem?_slice]
  split_ifs with hi
  · rw [List.getElem?_take, if_pos (by omega)]
  · rfl

/-- The end of a string, cut behind a block. -/
lemma slice_append_drop (l : List α) (off n : ℕ) :
    slice l off (l.length - off) = slice l off n ++ l.drop (off + n) := by
  rw [slice, slice, List.take_of_length_le (by simp), ← List.drop_drop, List.take_append_drop]

/-- A block inside a block. -/
lemma slice_slice {off' n' : ℕ} (h : off' + n' ≤ n) :
    slice (slice l off n) off' n' = slice l (off + off') n' := by
  ext i : 1
  rw [getElem?_slice, getElem?_slice, getElem?_slice]
  by_cases hi : i < n'
  · rw [if_pos hi, if_pos hi, if_pos (by omega), Nat.add_assoc]
  · rw [if_neg hi, if_neg hi]

/-- A block between two others. -/
lemma slice_append_append (a b c : List α) : slice (a ++ b ++ c) a.length b.length = b := by
  rw [slice, List.append_assoc, List.drop_left, List.take_left]

/-- A write does not see what follows it. -/
lemma take_patch {k : ℕ} (h : off + bs.length ≤ k) (hk : k ≤ l.length) :
    (patch l off bs).take k = patch (l.take k) off bs := by
  have hlen : (l.take k).length = k := by
    rw [List.length_take]
    omega
  ext i : 1
  rw [List.getElem?_take, getElem?_patch (by omega), getElem?_patch (by omega)]
  by_cases hi : i < k
  · rw [if_pos hi, List.getElem?_take, if_pos hi]
  · rw [if_neg hi, if_neg (by omega), if_neg (by omega), List.getElem?_take, if_neg hi]

end Blocks

/-! ### Bytes and big-endian words -/

/-- The byte at offset `i`. -/
def u8 (l : List UInt8) (i : ℕ) : UInt8 := l.getD i 0

/-- The big-endian 16-bit word at offset `i`. -/
def u16 (l : List UInt8) (i : ℕ) : ℕ := (u8 l i).toNat * 256 + (u8 l (i + 1)).toNat

/-- The two bytes of a 16-bit word, most significant first. -/
def be16 (n : ℕ) : List UInt8 := [UInt8.ofNat (n / 256), UInt8.ofNat n]

@[simp] lemma length_be16 (n : ℕ) : (be16 n).length = 2 := rfl

lemma u8_eq_of_getElem?_eq {l l' : List UInt8} {i j : ℕ} (h : l[i]? = l'[j]?) :
    u8 l i = u8 l' j := by
  simp only [u8, List.getD_eq_getElem?_getD, h]

lemma u8_patch_of_lt {l bs : List UInt8} {off i : ℕ} (h : off + bs.length ≤ l.length)
    (hi : i < off) : u8 (patch l off bs) i = u8 l i :=
  u8_eq_of_getElem?_eq (getElem?_patch_of_lt h hi)

lemma u8_patch_of_ge {l bs : List UInt8} {off i : ℕ} (h : off + bs.length ≤ l.length)
    (hi : off + bs.length ≤ i) : u8 (patch l off bs) i = u8 l i :=
  u8_eq_of_getElem?_eq (getElem?_patch_of_ge h hi)

lemma u8_patch_of_mem {l bs : List UInt8} {off i : ℕ} (h : off + bs.length ≤ l.length)
    (h₁ : off ≤ i) (h₂ : i < off + bs.length) : u8 (patch l off bs) i = u8 bs (i - off) :=
  u8_eq_of_getElem?_eq (by rw [getElem?_patch h, if_neg (by omega), if_pos h₂])

lemma u8_slice {l : List UInt8} {off n i : ℕ} (hi : i < n) :
    u8 (slice l off n) i = u8 l (off + i) :=
  u8_eq_of_getElem?_eq (by rw [getElem?_slice, if_pos hi])

lemma u16_slice {l : List UInt8} {off n i : ℕ} (hi : i + 1 < n) :
    u16 (slice l off n) i = u16 l (off + i) := by
  simp only [u16]
  rw [u8_slice (by omega), u8_slice hi, Nat.add_assoc]

lemma u16_lt (l : List UInt8) (i : ℕ) : u16 l i < 65536 := by
  have h₁ := (u8 l i).toNat_lt
  have h₂ := (u8 l (i + 1)).toNat_lt
  simp only [u16]
  omega

lemma u16_be16 {n : ℕ} (h : n < 65536) : u16 (be16 n) 0 = n := by
  simp only [u16, u8, be16, List.getD_cons_zero, List.getD_cons_succ, UInt8.toNat_ofNat']
  omega

/-- A word is determined by its value. -/
lemma be16_u16 {l : List UInt8} {i : ℕ} (h : i + 2 ≤ l.length) : be16 (u16 l i) = slice l i 2 := by
  have hslice : slice l i 2 = [u8 l i, u8 l (i + 1)] := by
    have h₁ : i < l.length := by omega
    have h₂ : i + 1 < l.length := by omega
    rw [slice, List.drop_eq_getElem_cons h₁, List.drop_eq_getElem_cons h₂]
    simp only [List.take_succ_cons, List.take_zero, u8, List.getD_eq_getElem _ _ h₁,
      List.getD_eq_getElem _ _ h₂]
  have hdiv : u16 l i / 256 = (u8 l i).toNat := by
    have h₂ := (u8 l (i + 1)).toNat_lt
    simp only [u16]
    omega
  rw [hslice, be16, hdiv]
  congr 1
  · exact UInt8.ofNat_toNat
  · congr 1
    apply UInt8.toNat_inj.1
    have h₂ := (u8 l (i + 1)).toNat_lt
    rw [UInt8.toNat_ofNat']
    simp only [u16]
    omega

/-- The big-endian 32-bit word at offset `i`. -/
def u32 (l : List UInt8) (i : ℕ) : ℕ := u16 l i * 65536 + u16 l (i + 2)

lemma u32_lt (l : List UInt8) (i : ℕ) : u32 l i < 4294967296 := by
  have h₁ := u16_lt l i
  have h₂ := u16_lt l (i + 2)
  rw [u32]
  omega

/-- The four bytes of a 32-bit word, most significant first. -/
def be32 (n : ℕ) : List UInt8 := be16 (n / 65536) ++ be16 n

@[simp] lemma length_be32 (n : ℕ) : (be32 n).length = 4 := rfl

lemma u8_append_left {l l' : List UInt8} {i : ℕ} (h : i < l.length) : u8 (l ++ l') i = u8 l i :=
  u8_eq_of_getElem?_eq (List.getElem?_append_left h)

lemma u32_append_left {l l' : List UInt8} {i : ℕ} (h : i + 4 ≤ l.length) :
    u32 (l ++ l') i = u32 l i := by
  simp only [u32, u16]
  rw [u8_append_left (by omega), u8_append_left (by omega), u8_append_left (by omega),
    u8_append_left (by omega)]

lemma u32_append_right {l l' : List UInt8} (i : ℕ) : u32 (l ++ l') (l.length + i) = u32 l' i := by
  have hbyte : ∀ k, u8 (l ++ l') (l.length + k) = u8 l' k := fun k =>
    u8_eq_of_getElem?_eq (by rw [List.getElem?_append_right (by omega), Nat.add_sub_cancel_left])
  simp only [u32, u16, Nat.add_assoc, hbyte]

lemma u32_be32 {n : ℕ} (h : n < 4294967296) : u32 (be32 n) 0 = n := by
  simp only [u32, u16, u8, be32, be16, List.cons_append, List.nil_append, List.getD_cons_zero,
    List.getD_cons_succ, UInt8.toNat_ofNat']
  omega

lemma be32_inj {m n : ℕ} (hm : m < 4294967296) (hn : n < 4294967296) (h : be32 m = be32 n) :
    m = n := by
  rw [← u32_be32 hm, ← u32_be32 hn, h]

lemma be32_mod (n : ℕ) : be32 (n % 4294967296) = be32 n := by
  have hbyte : ∀ a b : ℕ, a % 256 = b % 256 → UInt8.ofNat a = UInt8.ofNat b := by
    intro a b h
    apply UInt8.toNat_inj.1
    rw [UInt8.toNat_ofNat', UInt8.toNat_ofNat']
    exact h
  simp only [be32, be16, List.cons_append, List.nil_append, List.cons.injEq, and_true]
  exact ⟨hbyte _ _ (by omega), hbyte _ _ (by omega), hbyte _ _ (by omega), hbyte _ _ (by omega)⟩

/-! ### Words in a row -/

/-- The bytes of several 32-bit words. -/
def be32s (ws : List ℕ) : List UInt8 := ws.flatMap be32

@[simp] lemma length_be32s (ws : List ℕ) : (be32s ws).length = 4 * ws.length := by
  induction ws with
  | nil => rfl
  | cons n ws ih =>
      rw [be32s, List.flatMap_cons, List.length_append, ← be32s, ih, length_be32, List.length_cons]
      omega

/-- The word with the number `i` behind `pre`. -/
lemma u32_be32s (pre post : List UInt8) (ws : List ℕ) (h : ∀ n ∈ ws, n < 4294967296) {i : ℕ}
    (hi : i < ws.length) : u32 (pre ++ (be32s ws ++ post)) (pre.length + 4 * i) = ws[i] := by
  induction ws generalizing pre i with
  | nil => simp at hi
  | cons n ws ih =>
      rw [be32s, List.flatMap_cons, ← be32s, List.append_assoc]
      cases i with
      | zero =>
          rw [Nat.mul_zero, u32_append_right, u32_append_left (by simp), u32_be32 (h n (by simp))]
          rfl
      | succ i =>
          have hoff : pre.length + 4 * (i + 1) = (pre ++ be32 n).length + 4 * i := by
            rw [List.length_append, length_be32]
            omega
          rw [← List.append_assoc, hoff, ih _ (fun n' hn' => h n' (List.mem_cons_of_mem _ hn'))
            (by simpa using hi)]
          rfl

end Bytes
