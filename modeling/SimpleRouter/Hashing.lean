/-
What a context of `sha1.c` stands for.

Whoever calls the three functions sees a message that grows, until its digest is asked
for, and a context that is of no more use once the message is too long or something is
put in behind the digest.  `Hashing` says this without blocks, counters or flags, and
`sha1_calls_refine` says that the code does it: for every sequence of calls, in whatever
pieces the message comes, and in words of any width from 32 bits on.  No call writes
outside `Message_Block`.
-/
import SimpleRouter.Words

namespace SimpleRouter

open SecureHash BlockHash Bytes

/-- A call. -/
inductive HashCall where
  | reset
  | input (bytes : List UInt8)
  | result
deriving DecidableEq, Repr

/-- What the caller sees. -/
inductive Hashing where
  /-- The message so far. -/
  | absorbing (m : List UInt8)
  /-- The digest of the message was asked for. -/
  | finished (m : List UInt8)
  | corrupted
deriving DecidableEq, Repr

namespace Hashing

/-- More of the message. -/
def input : Hashing → List UInt8 → Hashing
  | absorbing m, bytes =>
      if 8 * (m ++ bytes).length < 2 ^ 64 then absorbing (m ++ bytes) else corrupted
  | finished m, bytes => if bytes = [] then finished m else corrupted
  | corrupted, _ => corrupted

/-- The digest, if there is one. -/
def result : Hashing → Option (Five Word) × Hashing
  | absorbing m => (some (sha1.digest m), finished m)
  | finished m => (some (sha1.digest m), finished m)
  | corrupted => (none, corrupted)

/-- The digests that successive calls give. -/
def answers : Hashing → List HashCall → List (Option (Five Word))
  | _, [] => []
  | _, .reset :: calls => answers (absorbing []) calls
  | h, .input bytes :: calls => answers (h.input bytes) calls
  | h, .result :: calls => h.result.1 :: answers h.result.2 calls

end Hashing

variable {w : ℕ}

/-- The digests that successive calls give; `none` stands for 0. -/
def sha1Calls (context : SHA1Context w) : List HashCall → Option (List (Option (Five (BitVec w))))
  | [] => some []
  | .reset :: calls => sha1Calls (sha1Reset context) calls
  | .input bytes :: calls => do sha1Calls (← sha1Input context bytes) calls
  | .result :: calls => do
      let (ret, context) ← sha1Result context
      let digests ← sha1Calls context calls
      return (if ret = 1 then some context.messageDigest else none) :: digests

/-! ### The buffer -/

/-- The block holds these bytes up to the index. -/
structure Buffered (context : SHA1Context w) (buf : List UInt8) : Prop where
  index : context.messageBlockIndex = buf.length
  block : context.messageBlock.toList.take buf.length = buf

/-- Two contexts differ in the block and the index only. -/
structure SameButBlock (context context' : SHA1Context w) : Prop where
  messageDigest : context'.messageDigest = context.messageDigest
  lengthLow : context'.lengthLow = context.lengthLow
  lengthHigh : context'.lengthHigh = context.lengthHigh
  computed : context'.computed = context.computed
  corrupted : context'.corrupted = context.corrupted

lemma SameButBlock.trans {c₁ c₂ c₃ : SHA1Context w} (h₁ : SameButBlock c₁ c₂)
    (h₂ : SameButBlock c₂ c₃) : SameButBlock c₁ c₃ :=
  ⟨h₂.messageDigest.trans h₁.messageDigest, h₂.lengthLow.trans h₁.lengthLow,
    h₂.lengthHigh.trans h₁.lengthHigh, h₂.computed.trans h₁.computed,
    h₂.corrupted.trans h₁.corrupted⟩

namespace Buffered

variable {context : SHA1Context w} {buf : List UInt8}

lemma putByte (h : Buffered context buf) (hlt : buf.length < 64) (b : UInt8) :
    ∃ context', SimpleRouter.putByte context b = some context' ∧
      SameButBlock context context' ∧ Buffered context' (buf ++ [b]) := by
  have hidx := h.index
  have hlen : buf.length < context.messageBlock.toList.length := by
    rw [Vector.length_toList]
    exact hlt
  rw [SimpleRouter.putByte, dif_pos (by omega)]
  refine ⟨_, rfl, ⟨rfl, rfl, rfl, rfl, rfl⟩, ?_, ?_⟩
  · rw [List.length_append, ← hidx]
    rfl
  · rw [Vector.toList_set, List.length_append, List.length_singleton, hidx, List.take_add_one,
      List.take_set_of_le (le_refl _), h.block, List.getElem?_set_self hlen]
    rfl

/-- The loop fills the block with zeros. -/
lemma zeroFill (h : Buffered context buf) (k : ℕ) (hle : buf.length + k ≤ 64) :
    ∃ context', (List.replicate k 0).foldlM SimpleRouter.putByte context = some context' ∧
      SameButBlock context context' ∧ Buffered context' (buf ++ List.replicate k 0) := by
  induction k generalizing context buf with
  | zero => exact ⟨context, rfl, ⟨rfl, rfl, rfl, rfl, rfl⟩, by simpa using h⟩
  | succ k ih =>
      obtain ⟨context₁, hput, hsame₁, hbuf₁⟩ := h.putByte (by omega) 0
      obtain ⟨context₂, hloop, hsame₂, hbuf₂⟩ := ih hbuf₁
        (by rw [List.length_append, List.length_singleton]; omega)
      refine ⟨context₂, ?_, hsame₁.trans hsame₂, ?_⟩
      · rw [List.replicate_succ, List.foldlM_cons, hput]
        exact hloop
      · rwa [List.append_assoc, List.singleton_append, ← List.replicate_succ] at hbuf₂

lemma fillTo (h : Buffered context buf) (bound : ℕ) (hle : buf.length ≤ bound) (hb : bound ≤ 64) :
    ∃ context', SimpleRouter.fillTo bound context = some context' ∧
      SameButBlock context context' ∧
      Buffered context' (buf ++ List.replicate (bound - buf.length) 0) := by
  rw [SimpleRouter.fillTo, h.index]
  exact h.zeroFill (bound - buf.length) (by omega)

/-- A full block. -/
lemma toList_eq (h : Buffered context buf) (hfull : buf.length = 64) :
    context.messageBlock.toList = buf := by
  rw [← h.block, hfull, List.take_of_length_le (by rw [Vector.length_toList])]

lemma of_eq {context' : SHA1Context w} (h : Buffered context buf)
    (hidx : context'.messageBlockIndex = context.messageBlockIndex)
    (hblock : context'.messageBlock = context.messageBlock) : Buffered context' buf :=
  ⟨hidx.trans h.index, by rw [hblock, h.block]⟩

end Buffered

/-- A block that is worked off leaves nothing in the buffer. -/
lemma buffered_sha1ProcessMessageBlock (context : SHA1Context w) :
    Buffered (sha1ProcessMessageBlock context) [] := ⟨rfl, rfl⟩

/-! ### The length -/

/-- The two words hold the length of `k` bytes in bits. -/
structure Counts (context : SHA1Context w) (k : ℕ) : Prop where
  short : 8 * k < 2 ^ 64
  low : context.lengthLow.toNat = 8 * k % 2 ^ 32
  high : context.lengthHigh.toNat = 8 * k / 2 ^ 32

/-- Counting leaves the rest of the context alone. -/
lemma countByte_cases (context : SHA1Context w) :
    ∃ low high corrupted, countByte context
      = { context with lengthLow := low, lengthHigh := high, corrupted := corrupted } := by
  simp only [countByte]
  split_ifs
  · exact ⟨_, _, _, rfl⟩
  · exact ⟨_, _, _, rfl⟩
  · exact ⟨_, _, _, rfl⟩

section Width

variable (hw : 32 ≤ w)

include hw

lemma toNat_add_and_mask (x y : BitVec w) :
    ((x + y) &&& 0xFFFFFFFF#w).toNat = (x.toNat + y.toNat) % 2 ^ 32 := by
  rw [add_and_mask hw, toNat_widen hw, BitVec.toNat_add, BitVec.toNat_setWidth,
    BitVec.toNat_setWidth, ← Nat.add_mod]

lemma toNat_ofNat_small {n : ℕ} (h : n < 2 ^ 32) : (BitVec.ofNat w n).toNat = n := by
  rw [BitVec.toNat_ofNat, Nat.mod_eq_of_lt (lt_two_pow hw h le_rfl)]

/-- One more byte, unless the message becomes too long. -/
lemma Counts.countByte {context : SHA1Context w} {k : ℕ} (h : Counts context k) :
    (8 * (k + 1) < 2 ^ 64 ∧ Counts (SimpleRouter.countByte context) (k + 1) ∧
        (SimpleRouter.countByte context).corrupted = context.corrupted) ∨
      (2 ^ 64 ≤ 8 * (k + 1) ∧ (SimpleRouter.countByte context).corrupted = true) := by
  have hshort := h.short
  have hlow : ((context.lengthLow + 8#w) &&& 0xFFFFFFFF#w).toNat = 8 * (k + 1) % 2 ^ 32 := by
    rw [toNat_add_and_mask hw, h.low, toNat_ofNat_small hw (by decide)]
    omega
  have hhigh : ((context.lengthHigh + 1#w) &&& 0xFFFFFFFF#w).toNat
      = (8 * k / 2 ^ 32 + 1) % 2 ^ 32 := by
    rw [toNat_add_and_mask hw, h.high, toNat_ofNat_small hw (by decide)]
  have hzero : ∀ x : BitVec w, x = 0 ↔ x.toNat = 0 := fun x =>
    ⟨fun h => by rw [h]; rfl, fun h => BitVec.eq_of_toNat_eq (by rw [h]; rfl)⟩
  simp only [SimpleRouter.countByte, hzero, hlow, hhigh]
  by_cases hcarry : 8 * (k + 1) % 2 ^ 32 = 0
  · rw [if_pos hcarry]
    by_cases hlong : (8 * k / 2 ^ 32 + 1) % 2 ^ 32 = 0
    · rw [if_pos hlong]
      exact Or.inr ⟨by omega, rfl⟩
    · rw [if_neg hlong]
      refine Or.inl ⟨by omega, ⟨by omega, hlow, ?_⟩, rfl⟩
      rw [hhigh]
      omega
  · rw [if_neg hcarry]
    refine Or.inl ⟨by omega, ⟨by omega, hlow, ?_⟩, rfl⟩
    change context.lengthHigh.toNat = _
    rw [h.high]
    omega

/-! ### The message -/

omit hw in
/-- The context holds the message `m`. -/
structure Holds (context : SHA1Context w) (m : List UInt8) : Prop where
  computed : context.computed = false
  corrupted : context.corrupted = false
  counts : Counts context m.length
  digest : context.messageDigest = ((blocks 64 m).foldl compress initial).map (widen w)
  buffered : Buffered context (residue 64 m)

/-- One more byte, unless the message becomes too long. -/
lemma Holds.inputByte {context : SHA1Context w} {m : List UInt8} (h : Holds context m) (b : UInt8) :
    ∃ context', SimpleRouter.inputByte context b = some context' ∧
      (8 * (m ++ [b]).length < 2 ^ 64 → Holds context' (m ++ [b])) ∧
      (2 ^ 64 ≤ 8 * (m ++ [b]).length → context'.corrupted = true) := by
  have hres : (residue 64 m).length < 64 := by
    rw [length_residue]
    exact Nat.mod_lt _ (by decide)
  have hlen : (m ++ [b]).length = m.length + 1 := List.length_append
  have hbuf : (residue 64 m ++ [b]).length = (residue 64 m).length + 1 := List.length_append
  obtain ⟨context₁, hput, hsame, hbuf₁⟩ := h.buffered.putByte hres b
  have hcounts₁ : Counts context₁ m.length :=
    ⟨h.counts.short, by rw [hsame.lengthLow, h.counts.low], by rw [hsame.lengthHigh, h.counts.high]⟩
  obtain ⟨low, high, corrupted, hcount⟩ := countByte_cases context₁
  have hidx : (SimpleRouter.countByte context₁).messageBlockIndex = (residue 64 m ++ [b]).length := by
    rw [hcount]
    exact hbuf₁.index
  have hbuf₂ : Buffered (SimpleRouter.countByte context₁) (residue 64 m ++ [b]) :=
    hbuf₁.of_eq (by rw [hcount]) (by rw [hcount])
  have hcomputed : (SimpleRouter.countByte context₁).computed = false := by
    rw [hcount]
    exact hsame.computed.trans h.computed
  have hdigest : (SimpleRouter.countByte context₁).messageDigest
      = ((blocks 64 m).foldl compress initial).map (widen w) := by
    rw [hcount]
    exact hsame.messageDigest.trans h.digest
  rw [SimpleRouter.inputByte, hput]
  simp only [Option.bind_eq_bind, Option.bind_some, Option.pure_def, hidx, hlen]
  rcases hcounts₁.countByte hw with ⟨hshort, hcounts₂, hcorrupted⟩ | ⟨hlong, hcorrupted⟩
  · rw [hsame.corrupted, h.corrupted] at hcorrupted
    by_cases hfull : (residue 64 m ++ [b]).length = 64
    · obtain ⟨hblocks, hrest⟩ := blocks_concat_of_eq b (hbuf.symm.trans hfull)
      rw [if_pos hfull]
      refine ⟨_, rfl, fun _ => ⟨hcomputed, hcorrupted, ?_, ?_, ?_⟩, fun hlong => by omega⟩
      · rw [hlen]
        exact ⟨hcounts₂.short, hcounts₂.low, hcounts₂.high⟩
      · rw [messageDigest_sha1ProcessMessageBlock hw hdigest, hbuf₂.toList_eq hfull, hblocks,
          List.foldl_append]
        rfl
      · rw [hrest]
        exact buffered_sha1ProcessMessageBlock _
    · obtain ⟨hblocks, hrest⟩ := blocks_concat_of_lt (n := 64) (by decide) b
        (show (residue 64 m).length + 1 < 64 by omega)
      rw [if_neg hfull]
      refine ⟨_, rfl, fun _ => ⟨hcomputed, hcorrupted, ?_, ?_, ?_⟩, fun hlong => by omega⟩
      · rw [hlen]
        exact hcounts₂
      · rw [hblocks]
        exact hdigest
      · rw [hrest]
        exact hbuf₂
  · split_ifs with hfull
    · exact ⟨_, rfl, fun hshort => by omega, fun _ => hcorrupted⟩
    · exact ⟨_, rfl, fun hshort => by omega, fun _ => hcorrupted⟩

omit hw in
/-- A corrupted context takes nothing. -/
lemma inputLoop_corrupted {context : SHA1Context w} (h : context.corrupted = true)
    (bytes : List UInt8) : inputLoop context bytes = some context := by
  cases bytes with
  | nil => rfl
  | cons b bytes => rw [inputLoop, if_pos h]

lemma Holds.inputLoop {context : SHA1Context w} {m : List UInt8} (h : Holds context m)
    (bytes : List UInt8) :
    ∃ context', SimpleRouter.inputLoop context bytes = some context' ∧
      (8 * (m ++ bytes).length < 2 ^ 64 → Holds context' (m ++ bytes)) ∧
      (2 ^ 64 ≤ 8 * (m ++ bytes).length → context'.corrupted = true) := by
  induction bytes generalizing context m with
  | nil =>
      have hshort := h.counts.short
      rw [List.append_nil]
      exact ⟨context, rfl, fun _ => h, fun hlong => by omega⟩
  | cons b bytes ih =>
      obtain ⟨context₁, hbyte, hheld, hlong⟩ := h.inputByte hw b
      have happ : m ++ b :: bytes = m ++ [b] ++ bytes := by simp
      have hle : (m ++ [b]).length ≤ (m ++ b :: bytes).length := by
        rw [happ]
        exact (List.prefix_append _ _).length_le
      rw [SimpleRouter.inputLoop, h.corrupted, hbyte]
      by_cases hshort : 8 * (m ++ [b]).length < 2 ^ 64
      · rw [happ]
        exact ih (hheld hshort)
      · have hcorrupted := hlong (not_lt.1 hshort)
        exact ⟨context₁, inputLoop_corrupted hcorrupted bytes, fun hlt => by omega,
          fun _ => hcorrupted⟩

/-! ### Padding -/

omit hw in
/-- The last eight bytes of the block. -/
lemma toList_storeLength (context : SHA1Context w) :
    (storeLength context).messageBlock.toList = context.messageBlock.toList.take 56 ++
      [shiftedByte context.lengthHigh 24, shiftedByte context.lengthHigh 16,
        shiftedByte context.lengthHigh 8, shiftedByte context.lengthHigh 0,
        shiftedByte context.lengthLow 24, shiftedByte context.lengthLow 16,
        shiftedByte context.lengthLow 8, shiftedByte context.lengthLow 0] := by
  have hlen : (context.messageBlock.toList.take 56).length = 56 := by
    rw [List.length_take, Vector.length_toList]
    rfl
  simp only [storeLength, Vector.toList_set]
  refine List.ext_getElem (by simp) ?_
  intro i h₁ h₂
  by_cases hi : i < 56
  · rw [List.getElem_append_left (by rw [hlen]; exact hi), List.getElem_take]
    simp only [List.getElem_set]
    rw [if_neg (by omega), if_neg (by omega), if_neg (by omega), if_neg (by omega),
      if_neg (by omega), if_neg (by omega), if_neg (by omega), if_neg (by omega)]
  · have hlt : i < 64 := by simpa using h₁
    rw [List.getElem_append_right (by rw [hlen]; omega)]
    simp only [List.getElem_set, hlen]
    obtain rfl | rfl | rfl | rfl | rfl | rfl | rfl | rfl : i = 56 ∨ i = 57 ∨ i = 58 ∨ i = 59 ∨
      i = 60 ∨ i = 61 ∨ i = 62 ∨ i = 63 := by omega
    all_goals rfl

lemma shiftedByte_eq {x : BitVec w} {n : ℕ} (hx : x.toNat = n) (k : ℕ) :
    shiftedByte x k = UInt8.ofNat (n / 2 ^ k) := by
  apply UInt8.toNat_inj.1
  have hmask : (0xFF : ℕ) % 2 ^ w = 2 ^ 8 - 1 :=
    Nat.mod_eq_of_lt (lt_two_pow hw (show _ < 2 ^ 8 by decide) (by decide))
  rw [shiftedByte, BitVec.toNat_and, BitVec.toNat_ushiftRight, hx, Nat.shiftRight_eq_div_pow,
    BitVec.toNat_ofNat, hmask, Nat.and_two_pow_sub_one_eq_mod, UInt8.toNat_ofNat',
    UInt8.toNat_ofNat', Nat.mod_mod]

lemma Counts.storeLength {context : SHA1Context w} {k : ℕ} (h : Counts context k) :
    (SimpleRouter.storeLength context).messageBlock.toList
      = context.messageBlock.toList.take 56 ++ lengthBytes k := by
  have hshort := h.short
  have hlow : context.lengthLow.toNat = 8 * k % 4294967296 := h.low
  have hhigh : context.lengthHigh.toNat = 8 * k / 4294967296 := h.high
  rw [toList_storeLength, lengthBytes, ← be32_mod (8 * k)]
  simp only [shiftedByte_eq hw hlow, shiftedByte_eq hw hhigh, be32, be16, Nat.div_div_eq_div_mul]
  norm_num

/-- The last block: 56 bytes and the length. -/
lemma messageDigest_lastBlock {context : SHA1Context w} {buf : List UInt8} {k : ℕ} {h : Five Word}
    (hcounts : Counts context k) (hdigest : context.messageDigest = h.map (widen w))
    (hbuf : Buffered context buf) (hlen : buf.length = 56) :
    (sha1ProcessMessageBlock (SimpleRouter.storeLength context)).messageDigest
      = (compress h (buf ++ lengthBytes k)).map (widen w) := by
  rw [← storeLength_messageDigest] at hdigest
  rw [messageDigest_sha1ProcessMessageBlock hw hdigest, hcounts.storeLength hw, ← hlen, hbuf.block]

/-- The digest of the padded message. -/
lemma Holds.sha1PadMessage {context : SHA1Context w} {m : List UInt8} (h : Holds context m) :
    ∃ context', SimpleRouter.sha1PadMessage context = some context' ∧
      context'.corrupted = false ∧
      context'.messageDigest = (sha1.digest m).map (widen w) := by
  have hres : (residue 64 m).length < 64 := by
    rw [length_residue]
    exact Nat.mod_lt _ (by decide)
  have hlen : (residue 64 m ++ [0x80]).length = (residue 64 m).length + 1 := List.length_append
  obtain ⟨context₁, hput, hsame₁, hbuf₁⟩ := h.buffered.putByte hres 0x80
  rw [SimpleRouter.sha1PadMessage]
  by_cases hlast : 55 < (residue 64 m).length
  · obtain ⟨context₂, hfill₂, hsame₂, hbuf₂⟩ := hbuf₁.fillTo 64 (by omega) le_rfl
    have hsame := hsame₁.trans hsame₂
    obtain ⟨context₃, hfill₃, hsame₃, hbuf₃⟩ :=
      (buffered_sha1ProcessMessageBlock context₂).fillTo 56 (by simp) (by decide)
    rw [List.nil_append, List.length_nil] at hbuf₃
    have hcounts : Counts context₃ m.length := by
      refine ⟨h.counts.short, ?_, ?_⟩
      · rw [hsame₃.lengthLow, sha1ProcessMessageBlock_lengthLow, hsame.lengthLow, h.counts.low]
      · rw [hsame₃.lengthHigh, sha1ProcessMessageBlock_lengthHigh, hsame.lengthHigh, h.counts.high]
    have hdigest := hsame₃.messageDigest.trans
      (messageDigest_sha1ProcessMessageBlock hw (hsame.messageDigest.trans h.digest))
    have hpad : padBlock context = some context₃ := by
      rw [padBlock, h.buffered.index, if_pos hlast]
      exact Option.bind_eq_some_iff.2 ⟨context₁, hput,
        Option.bind_eq_some_iff.2 ⟨context₂, hfill₂, hfill₃⟩⟩
    rw [hpad, Option.map_some]
    refine ⟨_, rfl, ?_, ?_⟩
    · rw [sha1ProcessMessageBlock_corrupted, storeLength_corrupted, hsame₃.corrupted,
        sha1ProcessMessageBlock_corrupted, hsame.corrupted, h.corrupted]
    · rw [messageDigest_lastBlock hw hcounts hdigest hbuf₃ List.length_replicate,
        digest_of_gt hlast,
        hbuf₂.toList_eq (by rw [List.length_append, List.length_replicate]; omega)]
  · obtain ⟨context₂, hfill₂, hsame₂, hbuf₂⟩ := hbuf₁.fillTo 56 (by omega) (by decide)
    have hsame := hsame₁.trans hsame₂
    have hcounts : Counts context₂ m.length := by
      refine ⟨h.counts.short, ?_, ?_⟩
      · rw [hsame.lengthLow, h.counts.low]
      · rw [hsame.lengthHigh, h.counts.high]
    have hpad : padBlock context = some context₂ := by
      rw [padBlock, h.buffered.index, if_neg hlast]
      exact Option.bind_eq_some_iff.2 ⟨context₁, hput, hfill₂⟩
    rw [hpad, Option.map_some]
    refine ⟨_, rfl, ?_, ?_⟩
    · rw [sha1ProcessMessageBlock_corrupted, storeLength_corrupted, hsame.corrupted, h.corrupted]
    · rw [messageDigest_lastBlock hw hcounts (hsame.messageDigest.trans h.digest) hbuf₂
        (by rw [List.length_append, List.length_replicate]; omega), digest_of_le (not_lt.1 hlast)]

/-! ### Calls -/

omit hw in
/-- What the caller sees of the context. -/
def Represents (context : SHA1Context w) : Hashing → Prop
  | .absorbing m => Holds context m
  | .finished m => context.computed = true ∧ context.corrupted = false ∧
      context.messageDigest = (sha1.digest m).map (widen w)
  | .corrupted => context.corrupted = true

lemma represents_sha1Reset (context : SHA1Context w) :
    Represents (sha1Reset context) (.absorbing []) := by
  have hshort : 8 * ([] : List UInt8).length < 2 ^ 64 := by decide
  refine ⟨rfl, rfl, ⟨hshort, rfl, rfl⟩, ?_, ⟨rfl, rfl⟩⟩
  rw [blocks_nil, List.foldl_nil, initial, Five.map]
  simp only [sha1Reset, Five.mk.injEq]
  exact ⟨(widen_ofNat hw (by decide)).symm, (widen_ofNat hw (by decide)).symm,
    (widen_ofNat hw (by decide)).symm, (widen_ofNat hw (by decide)).symm,
    (widen_ofNat hw (by decide)).symm⟩

lemma Represents.input {context : SHA1Context w} {h : Hashing} (hrep : Represents context h)
    (bytes : List UInt8) :
    ∃ context', sha1Input context bytes = some context' ∧ Represents context' (h.input bytes) := by
  rw [sha1Input]
  by_cases hnil : bytes = []
  · subst hnil
    rw [List.length_nil, if_pos rfl]
    refine ⟨context, rfl, ?_⟩
    cases h with
    | absorbing m =>
        have hshort := (hrep : Holds context m).counts.short
        rwa [Hashing.input, List.append_nil, if_pos hshort]
    | finished m => exact hrep
    | corrupted => exact hrep
  · rw [if_neg (by rwa [List.length_eq_zero_iff])]
    cases h with
    | absorbing m =>
        have hheld : Holds context m := hrep
        obtain ⟨context', hloop, hshort, hlong⟩ := hheld.inputLoop hw bytes
        rw [if_neg (by rw [hheld.computed, hheld.corrupted]; decide), hloop]
        refine ⟨context', rfl, ?_⟩
        rw [Hashing.input]
        split_ifs with hlt
        · exact hshort hlt
        · exact hlong (not_lt.1 hlt)
    | finished m =>
        rw [if_pos (Or.inl hrep.1), Hashing.input, if_neg hnil]
        exact ⟨_, rfl, rfl⟩
    | corrupted =>
        have hcorrupted : context.corrupted = true := hrep
        rw [if_pos (Or.inr hcorrupted)]
        exact ⟨_, rfl, rfl⟩

lemma Represents.result {context : SHA1Context w} {h : Hashing} (hrep : Represents context h) :
    ∃ ret context', sha1Result context = some (ret, context') ∧
      Represents context' h.result.2 ∧
      (if ret = 1 then some context'.messageDigest else none)
        = h.result.1.map (Five.map (widen w)) := by
  rw [sha1Result]
  cases h with
  | absorbing m =>
      have hheld : Holds context m := hrep
      obtain ⟨context', hpad, hcorrupted, hdigest⟩ := hheld.sha1PadMessage hw
      rw [if_neg (by rw [hheld.corrupted]; decide), if_pos (by rw [hheld.computed]; decide)]
      refine ⟨1, { context' with computed := true },
        Option.bind_eq_some_iff.2 ⟨context', hpad, rfl⟩, ⟨rfl, hcorrupted, hdigest⟩, ?_⟩
      rw [if_pos rfl, hdigest]
      rfl
  | finished m =>
      obtain ⟨hcomputed, hcorrupted, hdigest⟩ := hrep
      rw [if_neg (by rw [hcorrupted]; decide), if_neg (by rw [hcomputed]; decide)]
      refine ⟨1, context, rfl, ⟨hcomputed, hcorrupted, hdigest⟩, ?_⟩
      rw [if_pos rfl, hdigest]
      rfl
  | corrupted =>
      have hcorrupted : context.corrupted = true := hrep
      rw [if_pos hcorrupted]
      exact ⟨0, context, rfl, hrep, rfl⟩

lemma Represents.sha1Calls {context : SHA1Context w} {h : Hashing} (hrep : Represents context h)
    (calls : List HashCall) :
    SimpleRouter.sha1Calls context calls
      = some ((h.answers calls).map (Option.map (Five.map (widen w)))) := by
  induction calls generalizing context h with
  | nil => rfl
  | cons call calls ih =>
      cases call with
      | reset => exact ih (represents_sha1Reset hw context)
      | input bytes =>
          obtain ⟨context', hinput, hrep'⟩ := hrep.input hw bytes
          exact Option.bind_eq_some_iff.2 ⟨context', hinput, ih hrep'⟩
      | result =>
          obtain ⟨ret, context', hresult, hrep', hdigest⟩ := hrep.result hw
          refine Option.bind_eq_some_iff.2 ⟨(ret, context'), hresult,
            Option.bind_eq_some_iff.2 ⟨_, ih hrep', ?_⟩⟩
          rw [Hashing.answers, List.map_cons, ← hdigest]
          rfl

/-- The code is the Secure Hash Standard, for every sequence of calls: after a reset it
gives the digests of the messages that were put in, in whatever pieces; it gives none for a
message of `2 ^ 64` bits or more, nor if something was put in behind a digest.  It never
writes outside its block, whatever the width of its words. -/
theorem sha1_calls_refine (context : SHA1Context w) (calls : List HashCall) :
    sha1Calls context (.reset :: calls)
      = some (((Hashing.absorbing []).answers calls).map (Option.map (Five.map (widen w)))) :=
  (represents_sha1Reset hw context).sha1Calls hw calls

end Width

/-- A context that nobody has written to. -/
def freshContext (w : ℕ) : SHA1Context w :=
  ⟨⟨3, 1, 4, 1, 5⟩, 9, 2, Vector.replicate 64 6, 5, true, true⟩

/-- The message `abc` in two pieces, with words of 40 bits. -/
theorem sha1_calls_refine_abc :
    sha1Calls (freshContext 40) [.reset, .input [97, 98], .input [99], .result]
        = some [some ⟨0xA9993E36, 0x4706816A, 0xBA3E2571, 0x7850C26C, 0x9CD0D89D⟩] ∧
      sha1.digest [97, 98, 99]
        = ⟨0xA9993E36, 0x4706816A, 0xBA3E2571, 0x7850C26C, 0x9CD0D89D⟩ := by
  have hcode : sha1Calls (freshContext 40) [.reset, .input [97, 98], .input [99], .result]
      = some [some ⟨0xA9993E36, 0x4706816A, 0xBA3E2571, 0x7850C26C, 0x9CD0D89D⟩] := by
    decide +kernel
  have hspec := sha1_calls_refine (by decide) (freshContext 40)
    [.input [97, 98], .input [99], .result]
  refine ⟨hcode, map_widen_inj (show 32 ≤ 40 by decide) ?_⟩
  rw [hcode] at hspec
  simp only [Hashing.answers, Hashing.input, Hashing.result, List.nil_append, List.length_cons,
    List.length_nil] at hspec
  norm_num at hspec
  exact hspec.symm

/-! ### Collisions -/

/-- The calls for the digest of a message that comes in pieces. -/
def digestCalls (pieces : List (List UInt8)) : List HashCall :=
  .reset :: (pieces.map .input ++ [.result])

lemma answers_pieces (m : List UInt8) (pieces : List (List UInt8))
    (h : 8 * (m ++ pieces.flatten).length < 2 ^ 64) :
    (Hashing.absorbing m).answers (pieces.map .input ++ [.result])
      = [some (sha1.digest (m ++ pieces.flatten))] := by
  induction pieces generalizing m with
  | nil => simp [Hashing.answers, Hashing.result]
  | cons piece pieces ih =>
      rw [List.flatten_cons, ← List.append_assoc] at h ⊢
      have hshort : 8 * (m ++ piece).length < 2 ^ 64 := by
        have hle : (m ++ piece).length ≤ (m ++ piece ++ pieces.flatten).length :=
          (List.prefix_append _ _).length_le
        omega
      rw [List.map_cons, List.cons_append, Hashing.answers, Hashing.input, if_pos hshort, ih _ h]

section Collisions

variable (hw : 32 ≤ w)

include hw

/-- The digest of a message does not depend on the pieces that it comes in. -/
lemma sha1Calls_digestCalls (context : SHA1Context w) (pieces : List (List UInt8))
    (h : 8 * pieces.flatten.length < 2 ^ 64) :
    sha1Calls context (digestCalls pieces)
      = some [some ((sha1.digest pieces.flatten).map (widen w))] := by
  have hrun : sha1Calls context (digestCalls pieces)
      = some (((Hashing.absorbing []).answers (pieces.map .input ++ [.result])).map
          (Option.map (Five.map (widen w)))) :=
    (represents_sha1Reset hw context).sha1Calls hw _
  rw [hrun, answers_pieces [] pieces (by simpa using h), List.nil_append]
  rfl

/-- Two calls of `SHA1ProcessMessageBlock` with different words or blocks that leave the
same words, one of them among those made for the message `m` and one among those made for
`m'`. -/
def BlocksCollide (w : ℕ) (m m' : List UInt8) : Prop :=
  ∃ c ∈ calls compress initial (blocks 64 (sha1.padded m)),
    ∃ c' ∈ calls compress initial (blocks 64 (sha1.padded m')), c ≠ c' ∧
      ∀ k k' : SHA1Context w,
        k.messageDigest = c.1.map (widen w) → k.messageBlock.toList = c.2 →
        k'.messageDigest = c'.1.map (widen w) → k'.messageBlock.toList = c'.2 →
        (sha1ProcessMessageBlock k).messageDigest = (sha1ProcessMessageBlock k').messageDigest

lemma blocksCollide_of_digest_eq {m m' : List UInt8} (h : 8 * m.length < 2 ^ 64)
    (h' : 8 * m'.length < 2 ^ 64) (hne : m ≠ m') (hdigest : sha1.digest m = sha1.digest m') :
    BlocksCollide w m m' := by
  obtain ⟨c, hc, c', hc', hcol⟩ := exists_collide h h' hne hdigest
  refine ⟨c, hc, c', hc', hcol.1, fun k k' hk hblock hk' hblock' => ?_⟩
  rw [messageDigest_sha1ProcessMessageBlock hw hk, messageDigest_sha1ProcessMessageBlock hw hk',
    hblock, hblock', hcol.2]

/-- The digests tell two messages apart, however they are cut into pieces, unless two calls
that are made for them collide. -/
theorem digests_separate (context context' : SHA1Context w) (pieces pieces' : List (List UInt8))
    (h : 8 * pieces.flatten.length < 2 ^ 64) (h' : 8 * pieces'.flatten.length < 2 ^ 64) :
    (sha1Calls context (digestCalls pieces) = sha1Calls context' (digestCalls pieces') ↔
        pieces.flatten = pieces'.flatten) ∨
      BlocksCollide w pieces.flatten pieces'.flatten := by
  rw [sha1Calls_digestCalls hw context pieces h, sha1Calls_digestCalls hw context' pieces' h']
  by_cases hsame : pieces.flatten = pieces'.flatten
  · exact Or.inl ⟨fun _ => hsame, fun _ => by rw [hsame]⟩
  by_cases hdigest : sha1.digest pieces.flatten = sha1.digest pieces'.flatten
  · exact Or.inr (blocksCollide_of_digest_eq hw h h' hsame hdigest)
  · refine Or.inl ⟨fun heq => ?_, fun h => absurd h hsame⟩
    rw [Option.some.injEq, List.cons.injEq, Option.some.injEq] at heq
    exact absurd (map_widen_inj hw heq.1) hdigest

end Collisions

/-- The messages `ab`, in two pieces, and `ba`. -/
theorem digests_separate_ab :
    (sha1Calls (freshContext 32) (digestCalls [[97], [98]])
        = sha1Calls (freshContext 32) (digestCalls [[98, 97]]) ↔ ([97, 98] : List UInt8) = [98, 97]) ∨
      BlocksCollide 32 [97, 98] [98, 97] :=
  digests_separate (by decide) _ _ [[97], [98]] [[98, 97]] (by decide) (by decide)

end SimpleRouter
