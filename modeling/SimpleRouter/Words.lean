/-
The words of `sha1.c`, in variables of any width from 32 bits on.

A variable of type `unsigned` that holds a word of the standard holds the word with
zeros in front of it, `widen`.  The operations of the code keep this up: what a shift,
a sum or a complement leaves in front is masked, or meets a zero.  So a block is
worked off in the same way whatever the width is, and as the standard has it.
-/
import SimpleRouter.Sha1

namespace SimpleRouter

open SecureHash Bytes

variable {w : ℕ}

/-- A word in a variable of `w` bits. -/
def widen (w : ℕ) (x : Word) : BitVec w := x.setWidth w

lemma widen_and (x y : Word) : widen w (x &&& y) = widen w x &&& widen w y :=
  BitVec.setWidth_and

lemma widen_or (x y : Word) : widen w (x ||| y) = widen w x ||| widen w y := BitVec.setWidth_or

lemma widen_xor (x y : Word) : widen w (x ^^^ y) = widen w x ^^^ widen w y := BitVec.setWidth_xor

/-- What a complement has in front meets zeros. -/
lemma widen_not_and (x y : Word) : widen w (~~~x &&& y) = ~~~widen w x &&& widen w y := by
  ext i hi
  simp only [widen, BitVec.getElem_and, BitVec.getElem_not, BitVec.getElem_setWidth]
  by_cases h : i < 32
  · simp [h]
  · simp [BitVec.getLsbD_of_ge _ _ (not_lt.1 h)]

section Width

variable (hw : 32 ≤ w)

include hw

lemma lt_two_pow {n k : ℕ} (h : n < 2 ^ k) (hk : k ≤ 32) : n < 2 ^ w :=
  h.trans_le (Nat.pow_le_pow_right (by decide) (hk.trans hw))

lemma toNat_widen (x : Word) : (widen w x).toNat = x.toNat := by
  rw [widen, BitVec.toNat_setWidth, Nat.mod_eq_of_lt (lt_two_pow hw x.isLt le_rfl)]

lemma widen_inj {x y : Word} (h : widen w x = widen w y) : x = y := by
  apply BitVec.eq_of_toNat_eq
  rw [← toNat_widen hw, h, toNat_widen hw]

lemma map_widen_inj {x y : Five Word} (h : x.map (widen w) = y.map (widen w)) : x = y := by
  simp only [Five.map, Five.mk.injEq] at h
  obtain ⟨ha, hb, hc, hd, he⟩ := h
  ext1
  · exact widen_inj hw ha
  · exact widen_inj hw hb
  · exact widen_inj hw hc
  · exact widen_inj hw hd
  · exact widen_inj hw he

lemma setWidth_widen (x : Word) : (widen w x).setWidth 32 = x := by
  apply BitVec.eq_of_toNat_eq
  rw [BitVec.toNat_setWidth, toNat_widen hw, Nat.mod_eq_of_lt x.isLt]

/-- A constant of the code. -/
lemma widen_ofNat {n : ℕ} (h : n < 2 ^ 32) : widen w (BitVec.ofNat 32 n) = BitVec.ofNat w n := by
  apply BitVec.eq_of_toNat_eq
  rw [toNat_widen hw, BitVec.toNat_ofNat, BitVec.toNat_ofNat, Nat.mod_eq_of_lt h,
    Nat.mod_eq_of_lt (lt_two_pow hw h le_rfl)]

/-- The mask keeps the lower 32 bits. -/
lemma and_mask (x : BitVec w) : x &&& 0xFFFFFFFF#w = widen w (x.setWidth 32) := by
  have hlt : (0xFFFFFFFF : ℕ) < 2 ^ w := lt_two_pow hw (show _ < 2 ^ 32 by decide) le_rfl
  apply BitVec.eq_of_toNat_eq
  rw [BitVec.toNat_and, toNat_widen hw, BitVec.toNat_setWidth, BitVec.toNat_ofNat,
    Nat.mod_eq_of_lt hlt]
  exact Nat.and_two_pow_sub_one_eq_mod _ 32

lemma add_and_mask (x y : BitVec w) :
    (x + y) &&& 0xFFFFFFFF#w = widen w (x.setWidth 32 + y.setWidth 32) := by
  rw [and_mask hw, BitVec.setWidth_add _ _ hw]

lemma sha1CircularShift_widen {k : ℕ} (hk : k < 32) (x : Word) :
    sha1CircularShift k (widen w x) = widen w (x.rotateLeft k) := by
  have hleft : (widen w x <<< k) &&& 0xFFFFFFFF#w = widen w (x <<< k) := by
    rw [and_mask hw]
    congr 1
    apply BitVec.eq_of_toNat_eq
    rw [BitVec.toNat_setWidth, BitVec.toNat_shiftLeft, toNat_widen hw, BitVec.toNat_shiftLeft]
    exact Nat.mod_mod_of_dvd _ (Nat.pow_dvd_pow 2 hw)
  have hright : widen w x >>> (32 - k) = widen w (x >>> (32 - k)) := by
    apply BitVec.eq_of_toNat_eq
    rw [BitVec.toNat_ushiftRight, toNat_widen hw, toNat_widen hw, BitVec.toNat_ushiftRight]
  rw [sha1CircularShift, hleft, hright, ← widen_or, BitVec.rotateLeft_def, Nat.mod_eq_of_lt hk]

/-! ### The word sequence -/

lemma toNat_byteWord_shiftLeft (block : List UInt8) (i : ℕ) {n : ℕ} (hn : n ≤ 24) :
    (byteWord block i <<< n : BitVec w).toNat = (u8 block i).toNat <<< n := by
  have hlt := (u8 block i).toNat_lt
  have hbyte : (byteWord block i : BitVec w).toNat = (u8 block i).toNat := by
    rw [byteWord, BitVec.toNat_ofNat, ← u8]
    exact Nat.mod_eq_of_lt (lt_two_pow hw hlt (by decide))
  rw [BitVec.toNat_shiftLeft, hbyte, Nat.mod_eq_of_lt]
  refine lt_two_pow hw (k := 8 + n) ?_ (by omega)
  rw [Nat.shiftLeft_eq, Nat.pow_add]
  exact Nat.mul_lt_mul_of_pos_right hlt (by positivity)

omit hw in
/-- Four bytes, put together with shifts. -/
lemma or_shiftLeft_bytes {b₀ b₁ b₂ b₃ : ℕ} (h₁ : b₁ < 256) (h₂ : b₂ < 256) (h₃ : b₃ < 256) :
    b₀ <<< 24 ||| b₁ <<< 16 ||| b₂ <<< 8 ||| b₃ = (b₀ * 256 + b₁) * 65536 + (b₂ * 256 + b₃) := by
  have hor : ∀ {a b n : ℕ}, b < 2 ^ n → a <<< n ||| b = a * 2 ^ n + b := by
    intro a b n h
    rw [← Nat.shiftLeft_add_eq_or_of_lt h, Nat.shiftLeft_eq]
  have e₁ : b₀ <<< 24 ||| b₁ <<< 16 = (b₀ * 256 + b₁) <<< 16 := by
    rw [hor (by rw [Nat.shiftLeft_eq]; omega), Nat.shiftLeft_eq, Nat.shiftLeft_eq]
    ring
  have e₂ : (b₀ * 256 + b₁) <<< 16 ||| b₂ <<< 8 = ((b₀ * 256 + b₁) * 256 + b₂) <<< 8 := by
    rw [hor (by rw [Nat.shiftLeft_eq]; omega), Nat.shiftLeft_eq, Nat.shiftLeft_eq]
    ring
  rw [e₁, e₂, hor h₃]
  ring

lemma loadWord_eq (block : List UInt8) (t : ℕ) :
    loadWord block t = widen w (BitVec.ofNat 32 (u32 block (4 * t))) := by
  have hzero : (byteWord block (t * 4 + 3) : BitVec w) = byteWord block (t * 4 + 3) <<< 0 :=
    (BitVec.shiftLeft_zero _).symm
  have hlt : u32 block (4 * t) < 2 ^ 32 := u32_lt block (4 * t)
  apply BitVec.eq_of_toNat_eq
  rw [toNat_widen hw, BitVec.toNat_ofNat, Nat.mod_eq_of_lt hlt, loadWord, hzero, BitVec.toNat_or,
    BitVec.toNat_or, BitVec.toNat_or, toNat_byteWord_shiftLeft hw _ _ (by omega),
    toNat_byteWord_shiftLeft hw _ _ (by omega), toNat_byteWord_shiftLeft hw _ _ (by omega),
    toNat_byteWord_shiftLeft hw _ _ (by omega), Nat.shiftLeft_zero,
    or_shiftLeft_bytes (UInt8.toNat_lt _) (UInt8.toNat_lt _) (UInt8.toNat_lt _), Nat.mul_comm t 4]
  rfl

/-- After `k` passes the words up to `16 + k` are there. -/
lemma foldl_extend (block : List UInt8) (k : ℕ) :
    (List.range' 16 k).foldl extend ((List.range 16).map (loadWord block)) =
      (List.range (16 + k)).map fun t => widen w (wordAt block t) := by
  induction k with
  | zero =>
      refine List.map_congr_left ?_
      intro t ht
      rw [List.mem_range] at ht
      rw [loadWord_eq hw, wordAt, if_pos ht]
  | succ k ih =>
      have hword : ∀ t, t < 16 + k →
          ((List.range (16 + k)).map fun t => widen w (wordAt block t)).getD t 0
            = widen w (wordAt block t) := by
        intro t ht
        rw [List.getD_eq_getElem _ _ (by simpa using ht)]
        simp
      rw [List.range'_1_concat, List.foldl_append, ih, List.foldl_cons, List.foldl_nil, extend,
        hword _ (by omega), hword _ (by omega), hword _ (by omega), hword _ (by omega),
        ← widen_xor, ← widen_xor, ← widen_xor, sha1CircularShift_widen hw (by decide),
        ← Nat.add_assoc, List.range_succ, List.map_append, List.map_singleton]
      conv_rhs => rw [wordAt, if_neg (by omega)]

lemma wordSequence_eq (block : List UInt8) :
    wordSequence block = (List.range 80).map fun t => widen w (wordAt block t) :=
  foldl_extend hw block 64

/-! ### The rounds -/

/-- A pass of a loop is a round, if the loop has the function and the constant of the
round. -/
lemma pass_widen {f : BitVec w → BitVec w → BitVec w → BitVec w} {K : BitVec w} {t : ℕ}
    (block : List UInt8) (ht : t < 80) (r : Five Word)
    (hf : ∀ B C D : Word, f (widen w B) (widen w C) (widen w D) = widen w (logical t B C D))
    (hK : K = widen w (constant t)) :
    pass f K (wordSequence block) (r.map (widen w)) t
      = (roundStep (wordAt block) r t).map (widen w) := by
  have hword : (wordSequence block : List (BitVec w)).getD t 0 = widen w (wordAt block t) := by
    rw [wordSequence_eq hw, List.getD_eq_getElem _ _ (by simpa using ht)]
    simp
  simp only [pass, roundStep, Five.map, hword, hf, hK, sha1CircularShift_widen hw (show 5 < 32 by decide),
    sha1CircularShift_widen hw (show 30 < 32 by decide)]
  rw [add_and_mask hw]
  simp only [BitVec.setWidth_add _ _ hw, setWidth_widen hw]

/-- A loop does the rounds from `i` on. -/
lemma loop_widen {f : BitVec w → BitVec w → BitVec w → BitVec w} {K : BitVec w} {i n : ℕ}
    (block : List UInt8) (hn : i + n ≤ 80) (r : Five Word)
    (hf : ∀ t, i ≤ t → t < i + n → ∀ B C D : Word,
      f (widen w B) (widen w C) (widen w D) = widen w (logical t B C D))
    (hK : ∀ t, i ≤ t → t < i + n → K = widen w (constant t)) :
    (List.range' i n).foldl (pass f K (wordSequence block)) (r.map (widen w))
      = ((List.range' i n).foldl (roundStep (wordAt block)) r).map (widen w) := by
  induction n with
  | zero => rfl
  | succ n ih =>
      rw [List.range'_1_concat, List.foldl_append, List.foldl_append,
        ih (by omega) (fun t h₁ h₂ => hf t h₁ (by omega)) (fun t h₁ h₂ => hK t h₁ (by omega))]
      exact pass_widen hw block (by omega) _ (hf _ (by omega) (by omega)) (hK _ (by omega) (by omega))

/-- The four loops do the eighty rounds. -/
lemma loops_widen (block : List UInt8) (r : Five Word) :
    fourthLoop (wordSequence block) (thirdLoop (wordSequence block)
        (secondLoop (wordSequence block) (firstLoop (wordSequence block) (r.map (widen w)))))
      = ((List.range 80).foldl (roundStep (wordAt block)) r).map (widen w) := by
  have hsplit : List.range 80
      = List.range' 0 20 ++ List.range' 20 20 ++ List.range' 40 20 ++ List.range' 60 20 := by decide
  rw [hsplit, List.foldl_append, List.foldl_append, List.foldl_append, firstLoop,
    loop_widen hw block (by decide), secondLoop, loop_widen hw block (by decide), thirdLoop,
    loop_widen hw block (by decide), fourthLoop, loop_widen hw block (by decide)]
  · intro t h₁ h₂ B C D
    rw [logical, if_neg (by omega), if_neg (by omega), if_neg (by omega), widen_xor, widen_xor]
  · intro t h₁ h₂
    rw [constant, if_neg (by omega), if_neg (by omega), if_neg (by omega)]
    exact (widen_ofNat hw (by decide)).symm
  · intro t h₁ h₂ B C D
    rw [logical, if_neg (by omega), if_neg (by omega), if_pos (by omega), widen_or, widen_or,
      widen_and, widen_and, widen_and]
  · intro t h₁ h₂
    rw [constant, if_neg (by omega), if_neg (by omega), if_pos (by omega)]
    exact (widen_ofNat hw (by decide)).symm
  · intro t h₁ h₂ B C D
    rw [logical, if_neg (by omega), if_pos (by omega), widen_xor, widen_xor]
  · intro t h₁ h₂
    rw [constant, if_neg (by omega), if_pos (by omega)]
    exact (widen_ofNat hw (by decide)).symm
  · intro t h₁ h₂ B C D
    rw [logical, if_pos (by omega), widen_or, widen_and, widen_not_and]
  · intro t h₁ h₂
    rw [constant, if_pos (by omega)]
    exact (widen_ofNat hw (by decide)).symm

/-- A block is worked off as the standard has it. -/
lemma messageDigest_sha1ProcessMessageBlock {context : SHA1Context w} {h : Five Word}
    (hdigest : context.messageDigest = h.map (widen w)) :
    (sha1ProcessMessageBlock context).messageDigest
      = (compress h context.messageBlock.toList).map (widen w) := by
  rw [sha1ProcessMessageBlock]
  simp only [hdigest, loops_widen hw]
  simp only [compress, Five.map, add_and_mask hw, setWidth_widen hw]

end Width

end SimpleRouter
