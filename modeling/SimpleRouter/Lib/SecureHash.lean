/-
The Secure Hash Standard (FIPS PUB 180-1), as a scheme of `BlockHash`.

The words have 32 bits, a block has 64 bytes, and the state consists of five words.
The definitions are those of the standard: the word sequence is a recurrence, the
logical function and the constant of a round depend on its number, and the padding is
the shortest one that leaves room for the length.

A message is less than `2 ^ 64` bits long.  Up to this length the padding determines
the length of the message, so that no padded message ends like another one.
-/
import SimpleRouter.Lib.BlockHash

namespace SecureHash

open Bytes BlockHash

/-- A word of the standard. -/
abbrev Word := BitVec 32

/-- Five words: the state, or the word buffers of a computation. -/
@[ext]
structure Five (α : Type*) where
  a : α
  b : α
  c : α
  d : α
  e : α
deriving DecidableEq, Repr

/-- The same function of each of the five. -/
def Five.map {α β : Type*} (f : α → β) (r : Five α) : Five β := ⟨f r.a, f r.b, f r.c, f r.d, f r.e⟩

/-- The state at the beginning. -/
def initial : Five Word := ⟨0x67452301, 0xEFCDAB89, 0x98BADCFE, 0x10325476, 0xC3D2E1F0⟩

/-- The logical function of round `t`. -/
def logical (t : ℕ) (B C D : Word) : Word :=
  if t < 20 then (B &&& C) ||| (~~~B &&& D)
  else if t < 40 then B ^^^ C ^^^ D
  else if t < 60 then (B &&& C) ||| (B &&& D) ||| (C &&& D)
  else B ^^^ C ^^^ D

/-- The constant of round `t`. -/
def constant (t : ℕ) : Word :=
  if t < 20 then 0x5A827999
  else if t < 40 then 0x6ED9EBA1
  else if t < 60 then 0x8F1BBCDC
  else 0xCA62C1D6

/-- The word sequence of a block. -/
def wordAt (block : List UInt8) (t : ℕ) : Word :=
  if t < 16 then BitVec.ofNat 32 (u32 block (4 * t))
  else (wordAt block (t - 3) ^^^ wordAt block (t - 8) ^^^ wordAt block (t - 14)
    ^^^ wordAt block (t - 16)).rotateLeft 1

/-- Round `t`. -/
def roundStep (W : ℕ → Word) (r : Five Word) (t : ℕ) : Five Word :=
  ⟨r.a.rotateLeft 5 + logical t r.b r.c r.d + r.e + W t + constant t, r.a, r.b.rotateLeft 30,
    r.c, r.d⟩

/-- The compression of a block. -/
def compress (h : Five Word) (block : List UInt8) : Five Word :=
  let r := (List.range 80).foldl (roundStep (wordAt block)) h
  ⟨h.a + r.a, h.b + r.b, h.c + r.c, h.d + r.d, h.e + r.e⟩

/-! ### Padding -/

/-- The number of zero bytes between the first byte of the padding and the length. -/
def zeros (k : ℕ) : ℕ := (119 - k % 64) % 64

/-- The length of a message of `k` bytes, in bits, as a word of 64 bits. -/
def lengthBytes (k : ℕ) : List UInt8 := be32 (8 * k / 4294967296) ++ be32 (8 * k)

/-- The padding of a message of `k` bytes. -/
def pad (k : ℕ) : List UInt8 := 0x80 :: List.replicate (zeros k) 0 ++ lengthBytes k

lemma length_pad (k : ℕ) : (pad k).length = zeros k + 9 := by
  simp only [pad, lengthBytes, List.length_cons, List.length_append, List.length_replicate,
    length_be32]

/-- The Secure Hash Algorithm. -/
def sha1 : Scheme UInt8 (Five Word) where
  size := 64
  compress := compress
  init := initial
  pad := pad
  size_pos := by decide
  aligned := by
    intro k
    rw [length_pad, zeros]
    omega

/-! ### The last blocks -/

section Last

variable {m : List UInt8}

/-- The padding fits into the block that the message leaves open. -/
lemma digest_of_le (h : (residue 64 m).length ≤ 55) :
    sha1.digest m = compress ((blocks 64 m).foldl compress initial)
      (residue 64 m ++ [0x80] ++ List.replicate (56 - (residue 64 m ++ [0x80]).length) 0
        ++ lengthBytes m.length) := by
  have hres := length_residue 64 m
  have hzeros : zeros m.length = 56 - (residue 64 m ++ [0x80]).length := by
    rw [zeros, List.length_append, List.length_singleton]
    omega
  have hlen : (residue 64 m).length + (pad m.length).length = 64 := by
    rw [length_pad, zeros]
    omega
  have hfeed := foldl_feed_of_eq (f := compress) (s := (blocks 64 m).foldl compress initial)
    (show pad m.length ≠ [] by simp [pad]) hlen
  have hdigest := sha1.foldl_feed_pad m
  rw [← hzeros, List.append_assoc, List.append_assoc]
  exact congrArg Prod.fst (hdigest.symm.trans hfeed)

/-- The length goes to a block of its own. -/
lemma digest_of_gt (h : 55 < (residue 64 m).length) :
    sha1.digest m = compress (compress ((blocks 64 m).foldl compress initial)
        (residue 64 m ++ [0x80] ++ List.replicate (64 - (residue 64 m ++ [0x80]).length) 0))
      (List.replicate 56 0 ++ lengthBytes m.length) := by
  have hres := length_residue 64 m
  have hlt := Nat.mod_lt m.length (show 0 < 64 by decide)
  have hlen : (residue 64 m ++ [0x80]).length = (residue 64 m).length + 1 := List.length_append
  have hzeros : zeros m.length = 64 - (residue 64 m ++ [0x80]).length + 56 := by
    rw [hlen, zeros]
    omega
  set first : List UInt8 := [0x80] ++ List.replicate (64 - (residue 64 m ++ [0x80]).length) 0
    with hfirst
  have hfill : (residue 64 m).length + first.length = 64 := by
    rw [hfirst, List.length_append, List.length_replicate, List.length_singleton, hlen]
    omega
  have hpad : pad m.length = first ++ (List.replicate 56 0 ++ lengthBytes m.length) := by
    rw [pad, hzeros, ← List.replicate_append_replicate]
    simp only [hfirst, List.cons_append, List.nil_append, List.append_assoc]
  have hdigest : (pad m.length).foldl (feed 64 compress)
      ((blocks 64 m).foldl compress initial, residue 64 m) = (sha1.digest m, []) :=
    sha1.foldl_feed_pad m
  rw [hpad, List.foldl_append, foldl_feed_of_eq (by simp [hfirst]) hfill,
    foldl_feed_of_eq (by simp [lengthBytes, be32, be16]) (by simp [lengthBytes])] at hdigest
  rw [List.append_assoc (residue 64 m)]
  exact (congrArg Prod.fst hdigest).symm

end Last

/-! ### The length at the end -/

/-- The bytes of a word determine it. -/
lemma lengthBytes_inj {k k' : ℕ} (hk : 8 * k < 2 ^ 64) (hk' : 8 * k' < 2 ^ 64)
    (h : lengthBytes k = lengthBytes k') : k = k' := by
  obtain ⟨hhigh, hlow⟩ := List.append_inj h (by simp)
  rw [← be32_mod (8 * k), ← be32_mod (8 * k')] at hlow
  have h₁ := be32_inj (by omega) (by omega) hhigh
  have h₂ := be32_inj (by omega) (by omega) hlow
  omega

/-- No padded message ends like another one. -/
theorem suffix_free {m m' : List UInt8} (hm : 8 * m.length < 2 ^ 64)
    (hm' : 8 * m'.length < 2 ^ 64) (h : sha1.padded m <:+ sha1.padded m') : m = m' := by
  have hsplit : ∀ m, sha1.padded m
      = (m ++ 0x80 :: List.replicate (zeros m.length) 0) ++ lengthBytes m.length := by
    intro m
    rw [Scheme.padded, List.append_assoc]
    rfl
  obtain ⟨l, hl⟩ := h
  have hlen : m.length = m'.length := by
    rw [hsplit, hsplit, ← List.append_assoc] at hl
    exact lengthBytes_inj hm hm' (List.append_inj' hl rfl).2
  have hpad : ∀ m, (sha1.padded m).length = m.length + (zeros m.length + 9) := by
    intro m
    rw [Scheme.padded, List.length_append]
    exact congrArg (m.length + ·) (length_pad m.length)
  have hnil : l = [] := by
    rw [← List.length_eq_zero_iff]
    have := congrArg List.length hl
    rw [List.length_append, hpad, hpad, hlen] at this
    omega
  rw [hnil, List.nil_append] at hl
  exact (List.append_inj hl hlen).1

/-- Different messages with the same digest lead to a collision of the compression, among
the calls that are made for them. -/
theorem exists_collide {m m' : List UInt8} (hm : 8 * m.length < 2 ^ 64)
    (hm' : 8 * m'.length < 2 ^ 64) (hne : m ≠ m') (hdigest : sha1.digest m = sha1.digest m') :
    ∃ c ∈ calls compress initial (blocks 64 (sha1.padded m)),
      ∃ c' ∈ calls compress initial (blocks 64 (sha1.padded m')), Collide compress c c' := by
  refine sha1.exists_collide ?_ hne hdigest
  rintro (h | h)
  · exact suffix_free hm hm' h
  · exact (suffix_free hm' hm h).symm

end SecureHash
