/-
The code of the Secure Hash Standard (`sha1.c`).

A context takes a message in pieces: `SHA1Input` puts one byte after the other into
`Message_Block` and works the block off when it is full, and `SHA1Result` pads the
message.  The code keeps its words in variables of type `unsigned` and masks the
results to 32 bits, so that it can do with wider ones; `w` is their width.

`Message_Block` is an array of 64 bytes, and a write to it is defined only inside the
array: `none` stands for a write outside.
-/
import SimpleRouter.Lib.SecureHash

namespace SimpleRouter

open SecureHash

variable {w : ℕ}

/-- `SHA1CircularShift`. -/
def sha1CircularShift (bits : ℕ) (word : BitVec w) : BitVec w :=
  ((word <<< bits) &&& 0xFFFFFFFF#w) ||| (word >>> (32 - bits))

/-- `SHA1Context`. -/
structure SHA1Context (w : ℕ) where
  messageDigest : Five (BitVec w)
  lengthLow : BitVec w
  lengthHigh : BitVec w
  messageBlock : Vector UInt8 64
  messageBlockIndex : ℕ
  computed : Bool
  corrupted : Bool
deriving DecidableEq, Repr

/-- `SHA1Reset`. -/
def sha1Reset (context : SHA1Context w) : SHA1Context w :=
  { context with
    lengthLow := 0
    lengthHigh := 0
    messageBlockIndex := 0
    messageDigest := ⟨0x67452301#w, 0xEFCDAB89#w, 0x98BADCFE#w, 0x10325476#w, 0xC3D2E1F0#w⟩
    computed := false
    corrupted := false }

/-! ### A block -/

/-- The byte at an index, as a word. -/
def byteWord (block : List UInt8) (i : ℕ) : BitVec w := BitVec.ofNat w (block.getD i 0).toNat

/-- `W[t]` for `t < 16`. -/
def loadWord (block : List UInt8) (t : ℕ) : BitVec w :=
  byteWord block (t * 4) <<< 24 ||| byteWord block (t * 4 + 1) <<< 16
    ||| byteWord block (t * 4 + 2) <<< 8 ||| byteWord block (t * 4 + 3)

/-- One pass of the loop for the other words; `W` holds those that are there. -/
def extend (W : List (BitVec w)) (t : ℕ) : List (BitVec w) :=
  W ++ [sha1CircularShift 1 (W.getD (t - 3) 0 ^^^ W.getD (t - 8) 0 ^^^ W.getD (t - 14) 0
    ^^^ W.getD (t - 16) 0)]

/-- The word sequence `W`. -/
def wordSequence (block : List UInt8) : List (BitVec w) :=
  (List.range' 16 64).foldl extend ((List.range 16).map (loadWord block))

/-- One pass of a loop with the function `f` and the constant `K`. -/
def pass (f : BitVec w → BitVec w → BitVec w → BitVec w) (K : BitVec w) (W : List (BitVec w))
    (r : Five (BitVec w)) (t : ℕ) : Five (BitVec w) :=
  let temp := sha1CircularShift 5 r.a + f r.b r.c r.d + r.e + W.getD t 0 + K
  ⟨temp &&& 0xFFFFFFFF#w, r.a, sha1CircularShift 30 r.b, r.c, r.d⟩

/-- The first loop. -/
def firstLoop (W : List (BitVec w)) (r : Five (BitVec w)) : Five (BitVec w) :=
  (List.range' 0 20).foldl (pass (fun B C D => (B &&& C) ||| (~~~B &&& D)) 0x5A827999#w W) r

/-- The second loop. -/
def secondLoop (W : List (BitVec w)) (r : Five (BitVec w)) : Five (BitVec w) :=
  (List.range' 20 20).foldl (pass (fun B C D => B ^^^ C ^^^ D) 0x6ED9EBA1#w W) r

/-- The third loop. -/
def thirdLoop (W : List (BitVec w)) (r : Five (BitVec w)) : Five (BitVec w) :=
  (List.range' 40 20).foldl (pass (fun B C D => (B &&& C) ||| (B &&& D) ||| (C &&& D)) 0x8F1BBCDC#w W)
    r

/-- The fourth loop. -/
def fourthLoop (W : List (BitVec w)) (r : Five (BitVec w)) : Five (BitVec w) :=
  (List.range' 60 20).foldl (pass (fun B C D => B ^^^ C ^^^ D) 0xCA62C1D6#w W) r

/-- `SHA1ProcessMessageBlock`. -/
def sha1ProcessMessageBlock (context : SHA1Context w) : SHA1Context w :=
  let W := wordSequence context.messageBlock.toList
  let h := context.messageDigest
  let r := fourthLoop W (thirdLoop W (secondLoop W (firstLoop W h)))
  { context with
    messageDigest := ⟨(h.a + r.a) &&& 0xFFFFFFFF#w, (h.b + r.b) &&& 0xFFFFFFFF#w,
      (h.c + r.c) &&& 0xFFFFFFFF#w, (h.d + r.d) &&& 0xFFFFFFFF#w, (h.e + r.e) &&& 0xFFFFFFFF#w⟩
    messageBlockIndex := 0 }

section Fields

variable (context : SHA1Context w)

@[simp] lemma sha1ProcessMessageBlock_lengthLow :
    (sha1ProcessMessageBlock context).lengthLow = context.lengthLow := rfl
@[simp] lemma sha1ProcessMessageBlock_lengthHigh :
    (sha1ProcessMessageBlock context).lengthHigh = context.lengthHigh := rfl
@[simp] lemma sha1ProcessMessageBlock_computed :
    (sha1ProcessMessageBlock context).computed = context.computed := rfl
@[simp] lemma sha1ProcessMessageBlock_corrupted :
    (sha1ProcessMessageBlock context).corrupted = context.corrupted := rfl

end Fields

/-! ### Input -/

/-- `Message_Block[Message_Block_Index++] = b`. -/
def putByte (context : SHA1Context w) (b : UInt8) : Option (SHA1Context w) :=
  if h : context.messageBlockIndex < 64 then
    some { context with
      messageBlock := context.messageBlock.set context.messageBlockIndex b
      messageBlockIndex := context.messageBlockIndex + 1 }
  else none

/-- The message is 8 bits longer. -/
def countByte (context : SHA1Context w) : SHA1Context w :=
  let context := { context with lengthLow := (context.lengthLow + 8#w) &&& 0xFFFFFFFF#w }
  if context.lengthLow = 0 then
    let context := { context with lengthHigh := (context.lengthHigh + 1#w) &&& 0xFFFFFFFF#w }
    -- the message is too long
    if context.lengthHigh = 0 then { context with corrupted := true } else context
  else context

/-- The body of the loop of `SHA1Input`. -/
def inputByte (context : SHA1Context w) (b : UInt8) : Option (SHA1Context w) := do
  let context ← putByte context b
  let context := countByte context
  if context.messageBlockIndex = 64 then return sha1ProcessMessageBlock context
  else return context

/-- The loop of `SHA1Input`. -/
def inputLoop (context : SHA1Context w) : List UInt8 → Option (SHA1Context w)
  | [] => some context
  | b :: message =>
      if context.corrupted then some context
      else do inputLoop (← inputByte context b) message

/-- `SHA1Input`. -/
def sha1Input (context : SHA1Context w) (message : List UInt8) : Option (SHA1Context w) :=
  if message.length = 0 then some context
  else if context.computed ∨ context.corrupted then some { context with corrupted := true }
  else inputLoop context message

/-! ### Result -/

/-- The loop that puts zeros until the index is `bound`. -/
def fillTo (bound : ℕ) (context : SHA1Context w) : Option (SHA1Context w) :=
  (List.replicate (bound - context.messageBlockIndex) 0).foldlM putByte context

/-- The byte of a word that is shifted right by `n`. -/
def shiftedByte (word : BitVec w) (n : ℕ) : UInt8 := UInt8.ofNat ((word >>> n) &&& 0xFF#w).toNat

/-- `Message_Block[56]` to `Message_Block[63]`: the length. -/
def storeLength (context : SHA1Context w) : SHA1Context w :=
  let block := context.messageBlock.set 56 (shiftedByte context.lengthHigh 24)
  let block := block.set 57 (shiftedByte context.lengthHigh 16)
  let block := block.set 58 (shiftedByte context.lengthHigh 8)
  let block := block.set 59 (shiftedByte context.lengthHigh 0)
  let block := block.set 60 (shiftedByte context.lengthLow 24)
  let block := block.set 61 (shiftedByte context.lengthLow 16)
  let block := block.set 62 (shiftedByte context.lengthLow 8)
  let block := block.set 63 (shiftedByte context.lengthLow 0)
  { context with messageBlock := block }

@[simp] lemma storeLength_messageDigest (context : SHA1Context w) :
    (storeLength context).messageDigest = context.messageDigest := rfl

@[simp] lemma storeLength_corrupted (context : SHA1Context w) :
    (storeLength context).corrupted = context.corrupted := rfl

/-- The first part of `SHA1PadMessage`: the block is filled up to the length. -/
def padBlock (context : SHA1Context w) : Option (SHA1Context w) :=
  -- is the block too small to hold the padding and the length?
  if 55 < context.messageBlockIndex then do
    let context ← putByte context 0x80
    let context ← fillTo 64 context
    fillTo 56 (sha1ProcessMessageBlock context)
  else do
    let context ← putByte context 0x80
    fillTo 56 context

/-- `SHA1PadMessage`. -/
def sha1PadMessage (context : SHA1Context w) : Option (SHA1Context w) :=
  (padBlock context).map fun context => sha1ProcessMessageBlock (storeLength context)

/-- `SHA1Result`. -/
def sha1Result (context : SHA1Context w) : Option (ℤ × SHA1Context w) :=
  if context.corrupted then some (0, context)
  else if ¬ context.computed then do
    let context ← sha1PadMessage context
    return (1, { context with computed := true })
  else some (1, context)

end SimpleRouter
