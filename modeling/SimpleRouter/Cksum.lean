/-
The Internet checksum as the machine computes it (`cksum` of `sr_utils.c`).

`cksum` of `SimpleRouter.Protocol` is the value of the two bytes that are stored,
computed with numbers.  Here the function is followed word by word: a 32-bit
accumulator, the loop that folds its carries, the complement in 32 bits, the
truncation and the byte swap of `htons`, and the two bytes that a little-endian machine
stores.  The bytes are the same, and they complete the sum of the data to all ones.
-/
import SimpleRouter.Protocol

namespace SimpleRouter

open Bytes OnesComplement

variable {data : List UInt8} {sum : UInt32}

/-! ### The function -/

/-- The word `data[0] << 8 | data[1]`. -/
def wordOf (a b : UInt8) : UInt32 := a.toUInt32 <<< 8 ||| b.toUInt32

/-- The loop over the words, and the odd byte behind it. -/
def sumWords : UInt32 → List UInt8 → UInt32
  | sum, [] => sum
  | sum, [a] => sum + a.toUInt32 <<< 8
  | sum, a :: b :: rest => sumWords (sum + wordOf a b) rest

/-- The loop that folds the carries; `none` if it takes more rounds than the fuel. -/
def foldCarries : ℕ → UInt32 → Option UInt32
  | 0, _ => none
  | fuel + 1, sum =>
      if 0xffff < sum then foldCarries fuel ((sum >>> 16) + (sum &&& 0xffff)) else some sum

/-- `htons` on a little-endian machine. -/
def htons (x : UInt16) : UInt16 := x <<< 8 ||| x >>> 8

/-- `cksum`, as a value of type `uint16_t`. -/
def cksumHost (fuel : ℕ) (data : List UInt8) : Option UInt16 :=
  (foldCarries fuel (sumWords 0 data)).map fun sum =>
    -- the argument of `htons` is truncated to 16 bits
    let sum : UInt32 := (htons (~~~sum).toUInt16).toUInt32
    if sum ≠ 0 then sum.toUInt16 else 0xffff

/-- The two bytes of a `uint16_t` in memory. -/
def stored (x : UInt16) : List UInt8 := [x.toUInt8, (x >>> 8).toUInt8]

/-! ### The sum -/

lemma toNat_wordOf (a b : UInt8) : (wordOf a b).toNat = a.toNat * 256 + b.toNat := by
  have ha := a.toNat_lt
  have hb := b.toNat_lt
  have hshift : a.toNat <<< 8 % 4294967296 = a.toNat <<< 8 := by
    rw [Nat.shiftLeft_eq]
    omega
  have hor := Nat.shiftLeft_add_eq_or_of_lt (show b.toNat < 2 ^ 8 by omega) a.toNat
  simp only [wordOf, UInt32.toNat_or, UInt32.toNat_shiftLeft, UInt8.toNat_toUInt32]
  change (a.toNat <<< 8 % 4294967296) ||| b.toNat = _
  rw [hshift, ← hor, Nat.shiftLeft_eq]

/-- The accumulator holds the exact sum as long as that fits. -/
lemma toNat_sumWords (h : sum.toNat + wordSum data < 4294967296) :
    (sumWords sum data).toNat = sum.toNat + wordSum data := by
  induction sum, data using sumWords.induct with
  | case1 sum => simp [sumWords, wordSum]
  | case2 sum a =>
      have ha := a.toNat_lt
      simp only [wordSum] at h
      have hodd : a.toUInt32 <<< 8 = wordOf a 0 := by simp [wordOf]
      simp only [sumWords, wordSum]
      rw [hodd, UInt32.toNat_add, toNat_wordOf]
      simp only [UInt8.toNat_zero]
      omega
  | case3 sum a b rest ih =>
      simp only [wordSum] at h
      have hadd : (sum + wordOf a b).toNat = sum.toNat + (a.toNat * 256 + b.toNat) := by
        rw [UInt32.toNat_add, toNat_wordOf]
        omega
      rw [sumWords, ih (by omega), hadd, wordSum]
      omega

/-! ### The carries -/

lemma toNat_foldOnce (sum : UInt32) :
    ((sum >>> 16) + (sum &&& 0xffff)).toNat = sum.toNat / 65536 + sum.toNat % 65536 := by
  have hlt := sum.toNat_lt
  have hand : sum.toNat &&& 65535 = sum.toNat % 65536 := Nat.and_two_pow_sub_one_eq_mod sum.toNat 16
  simp only [UInt32.toNat_add, UInt32.toNat_shiftRight, UInt32.toNat_and, UInt32.reduceToNat,
    Nat.shiftRight_eq_div_pow, Nat.reduceMod, Nat.reducePow, hand]
  omega

/-- The loop ends, since the sum gets smaller in every round, with the folded sum. -/
lemma foldCarries_eq {fuel : ℕ} (h : sum.toNat < fuel) :
    foldCarries fuel sum = some (UInt32.ofNat (fold sum.toNat)) := by
  induction fuel generalizing sum with
  | zero => omega
  | succ fuel ih =>
      rw [foldCarries, fold]
      have hiff : 0xffff < sum ↔ 65535 < sum.toNat := UInt32.lt_iff_toNat_lt
      by_cases hbig : 65535 < sum.toNat
      · rw [if_pos (hiff.2 hbig), if_pos hbig, ← toNat_foldOnce]
        refine ih ?_
        rw [toNat_foldOnce]
        omega
      · rw [if_neg (fun hlt => hbig (hiff.1 hlt)), if_neg hbig, UInt32.ofNat_toNat]

/-! ### The result -/

/-- `htons` exchanges the two bytes. -/
lemma toNat_htons (x : UInt16) : (htons x).toNat = x.toNat % 256 * 256 + x.toNat / 256 := by
  have hlt := x.toNat_lt
  have hshift : x.toNat <<< 8 % 65536 = (x.toNat % 256) <<< 8 := by
    rw [Nat.shiftLeft_eq, Nat.shiftLeft_eq]
    omega
  have hor := Nat.shiftLeft_add_eq_or_of_lt (show x.toNat / 256 < 2 ^ 8 by omega) (x.toNat % 256)
  simp only [htons, UInt16.toNat_or, UInt16.toNat_shiftLeft, UInt16.toNat_shiftRight,
    UInt16.reduceToNat, Nat.reduceMod, Nat.reducePow, Nat.shiftRight_eq_div_pow]
  rw [hshift, ← hor, Nat.shiftLeft_eq]

/-- The bytes that are stored are those of the argument of `htons`, in network order. -/
lemma stored_htons (x : UInt16) : stored (htons x) = be16 x.toNat := by
  have hlt := x.toNat_lt
  have hlow : (htons x).toUInt8 = UInt8.ofNat (x.toNat / 256) := by
    rw [← UInt8.toNat_inj, UInt16.toNat_toUInt8, toNat_htons, UInt8.toNat_ofNat']
    omega
  have hhigh : (htons x >>> 8).toUInt8 = UInt8.ofNat x.toNat := by
    have hdiv : (x.toNat % 256 * 256 + x.toNat / 256) / 256 = x.toNat % 256 := by omega
    rw [← UInt8.toNat_inj, UInt16.toNat_toUInt8, UInt16.toNat_shiftRight, toNat_htons,
      UInt8.toNat_ofNat', Nat.shiftRight_eq_div_pow]
    simp only [UInt16.reduceToNat, Nat.reduceMod, Nat.reducePow, hdiv, Nat.mod_mod]
  rw [stored, be16, hlow, hhigh]

/-- The complement of a folded sum, truncated to 16 bits. -/
lemma toNat_complement (h : sum.toNat ≤ 65535) : (~~~sum).toUInt16.toNat = 65535 - sum.toNat := by
  rw [UInt32.toNat_toUInt16, UInt32.toNat_not]
  simp only [UInt32.size]
  omega

/-- If the accumulator does not wrap, the function returns, and the bytes that are
stored are those of the complement of the sum, or all ones if that is 0. -/
lemma cksumHost_eq (h : wordSum data < 4294967296) :
    ∃ r, (∀ fuel, wordSum data < fuel → cksumHost fuel data = some r) ∧
      stored r = be16 (cksum data) := by
  have hsum : (sumWords 0 data).toNat = wordSum data := by
    rw [toNat_sumWords (by simpa using h)]
    simp
  set sum := UInt32.ofNat (fold (wordSum data)) with hsumdef
  have hfold : ∀ fuel, wordSum data < fuel → foldCarries fuel (sumWords 0 data) = some sum := by
    intro fuel hfuel
    rw [foldCarries_eq (by omega), hsum]
  have hle := fold_le (wordSum data)
  have hval : sum.toNat = fold (wordSum data) := by
    rw [hsumdef, UInt32.toNat_ofNat']
    omega
  have hnot := toNat_complement (show sum.toNat ≤ 65535 by omega)
  refine ⟨_, fun fuel hfuel => by rw [cksumHost, hfold fuel hfuel, Option.map_some], ?_⟩
  rw [cksum_eq_negate h, onesSum, ← hval, negate]
  set x := (~~~sum).toUInt16 with hx
  have hwide : (htons x).toUInt32.toNat = x.toNat % 256 * 256 + x.toNat / 256 := by
    rw [UInt16.toNat_toUInt32, toNat_htons]
  have hback : (htons x).toUInt32.toUInt16 = htons x := by simp
  by_cases hones : sum.toNat = 65535
  · -- the complement is 0
    have hzero : (htons x).toUInt32 = 0 := by
      rw [← UInt32.toNat_inj, hwide, hnot, hones]
      rfl
    rw [if_pos hones, if_neg (not_not.2 hzero)]
    rfl
  · have hne : (htons x).toUInt32 ≠ 0 := by
      rw [Ne, ← UInt32.toNat_inj, hwide, hnot]
      simp only [UInt32.toNat_zero]
      omega
    rw [if_neg hones, if_pos hne, hback, stored_htons, hnot]

/-- `cksum` is the Internet checksum of every string that fits into a message: the
accumulator holds the exact sum after every word, the function returns, what is stored
is the complement of the one's complement sum in network order, with all ones in place
of 0, and a string with a zeroed field adds up to all ones once it is stored there. -/
theorem cksum_correct (h : data.length ≤ 10000) :
    (∀ n, (sumWords 0 (data.take n)).toNat = wordSum (data.take n)) ∧
    ∃ r, (∃ fuel₀, ∀ fuel ≥ fuel₀, cksumHost fuel data = some r) ∧
      stored r = be16 (if 65535 - onesSum data = 0 then 65535 else 65535 - onesSum data) ∧
      stored r = be16 (cksum data) ∧
      ∀ off, off % 2 = 0 → off + 2 ≤ data.length → u16 data off = 0 →
        onesSum (patch data off (stored r)) = 65535 := by
  have hlt : ∀ {l : List UInt8}, l.length ≤ 10000 → wordSum l < 4294967296 :=
    fun hl => wordSum_lt_of_length_le (by omega)
  obtain ⟨r, hret, hstored⟩ := cksumHost_eq (hlt h)
  have hneg := cksum_eq_negate (hlt h)
  refine ⟨?_, r, ⟨wordSum data + 1, fun fuel hfuel => hret fuel hfuel⟩, ?_, hstored, ?_⟩
  · intro n
    have hlen : (data.take n).length ≤ 10000 := (List.length_take_le' n data).trans h
    have hsum := hlt hlen
    rw [toNat_sumWords (by simpa using hsum)]
    simp
  · have hle : onesSum data ≤ 65535 := fold_le _
    rw [hstored, hneg, negate]
    congr 1
    split_ifs <;> omega
  · intro off hoff hlen hzero
    rw [hstored, hneg]
    exact onesSum_patch_negate hoff hlen hzero

/-- An ICMP message of odd length, with its checksum at offset 2. -/
theorem cksum_correct_sample :
    ∃ r, (∃ fuel₀, ∀ fuel ≥ fuel₀, cksumHost fuel [8, 0, 0, 0, 0x12, 0x34, 0, 1, 5] = some r) ∧
      stored r = [0xe0, 0xca] ∧
      onesSum (patch [8, 0, 0, 0, 0x12, 0x34, 0, 1, 5] 2 (stored r)) = 65535 := by
  obtain ⟨-, r, hret, -, hstored, hsum⟩ := cksum_correct
    (show [8, 0, 0, 0, 0x12, 0x34, 0, 1, 5].length ≤ 10000 by decide)
  refine ⟨r, hret, ?_, hsum 2 (by decide) (by decide) (by decide)⟩
  rw [hstored]
  decide +kernel

end SimpleRouter
