/-
Authentication (`sr_handle_auth_request` and `sr_handle_auth_status`).

The server sends a salt, and the client answers with the name of the user and with the
digest of the salt and the key, which it reads from a file.  `readAuthReply` takes such
an answer apart in the way the server has to.

Two strings are not what they seem.  The key is the line that `fgets` has read, but 64
bytes of the array are hashed whatever the length of the line is; behind a line of less
than 63 characters they have never been written to.  And the user has 32 bytes in
`struct sr_instance`, which a longer name fills without a terminator: what follows in the
structure, the name of the host, then belongs to it.
-/
import SimpleRouter.Hashing
import SimpleRouter.Stream
import SimpleRouter.LoadRt

namespace SimpleRouter

open Bytes CString CText SecureHash BlockHash

/-! ### Strings -/

/-- The strings of `struct sr_instance`, one behind the other, and the memory behind
them. -/
structure Strings where
  user : List UInt8
  host : List UInt8
  template : List UInt8
  behind : List UInt8
deriving DecidableEq, Repr

namespace Strings

/-- `sr->user`, as `strlen` and `strcpy` see it. -/
def userName (m : Strings) : List UInt8 :=
  (m.user ++ (m.host ++ (m.template ++ m.behind))).takeWhile (· ≠ 0)

/-- `sr->template`, as `strlen` sees it. -/
def templateName (m : Strings) : List UInt8 := (m.template ++ m.behind).takeWhile (· ≠ 0)

/-- The strings as `main` sets them; without a template only its first byte is written. -/
def init (user host : List UInt8) (template : Option (List UInt8)) (rest : Vector UInt8 29)
    (behind : List UInt8) : Strings where
  user := strncpy 32 user
  host := strncpy 32 host
  template := match template with
    | none => 0 :: rest.toList
    | some t => strncpy 30 t
  behind := behind

end Strings

/-! ### Replies -/

/-- `VNS_AUTH_REPLY`. -/
def vnsAuthReply : ℕ := 256

/-- `VNS_AUTH_STATUS`. -/
def vnsAuthStatus : ℕ := 512

/-- The words of a digest, in network byte order. -/
def digestBytes (d : Five (BitVec 32)) : List UInt8 :=
  be32s [d.a.toNat, d.b.toNat, d.c.toNat, d.d.toNat, d.e.toNat]

/-- The message `c_auth_reply`. -/
def authReply (user : List UInt8) (d : Five (BitVec 32)) : List UInt8 :=
  be32s [12 + user.length + 20, vnsAuthReply, user.length] ++ user ++ digestBytes d

/-- A reply, taken apart. -/
def readAuthReply (m : List UInt8) : Option (List UInt8 × Five Word) :=
  if u32 m 0 = m.length ∧ u32 m 4 = vnsAuthReply ∧ 12 + u32 m 8 + 20 = m.length then
    let word (i : ℕ) : Word := BitVec.ofNat 32 (u32 m (12 + u32 m 8 + 4 * i))
    some (slice m 12 (u32 m 8), ⟨word 0, word 1, word 2, word 3, word 4⟩)
  else none

lemma length_authReply (user : List UInt8) (d : Five (BitVec 32)) :
    (authReply user d).length = 12 + user.length + 20 := by
  simp only [authReply, digestBytes, List.length_append, length_be32s, List.length_cons,
    List.length_nil]

/-- Reading undoes writing. -/
lemma readAuthReply_authReply {user : List UInt8} {d : Five (BitVec 32)}
    (h : 12 + user.length + 20 < 4294967296) : readAuthReply (authReply user d) = some (user, d) := by
  have hlen := length_authReply user d
  have hhead : ∀ i (hi : i < 3), u32 (authReply user d) (4 * i)
      = [12 + user.length + 20, vnsAuthReply, user.length][i] := by
    intro i hi
    have hword := u32_be32s [] (user ++ digestBytes d)
      [12 + user.length + 20, vnsAuthReply, user.length] (by simp [vnsAuthReply]; omega) hi
    rwa [List.nil_append, ← List.append_assoc, List.length_nil, Nat.zero_add] at hword
  have hlast : ∀ i (hi : i < 5), u32 (authReply user d) (12 + user.length + 4 * i)
      = [d.a.toNat, d.b.toNat, d.c.toNat, d.d.toNat, d.e.toNat][i] := by
    intro i hi
    have hlt : ∀ x : BitVec 32, x.toNat < 4294967296 := fun x => x.isLt
    have hword := u32_be32s (be32s [12 + user.length + 20, vnsAuthReply, user.length] ++ user) []
      [d.a.toNat, d.b.toNat, d.c.toNat, d.d.toNat, d.e.toNat] (by simp [hlt]) hi
    rwa [List.append_nil, List.length_append, length_be32s] at hword
  have h₀ := hhead 0 (by decide)
  have h₁ := hhead 1 (by decide)
  have h₂ : u32 (authReply user d) 8 = user.length := hhead 2 (by decide)
  have huser : slice (authReply user d) 12 user.length = user := by
    have := slice_append_append (be32s [12 + user.length + 20, vnsAuthReply, user.length]) user
      (digestBytes d)
    rwa [length_be32s] at this
  rw [readAuthReply, if_pos ⟨h₀.trans hlen.symm, h₁, by rw [h₂, hlen]⟩]
  simp only [h₂, huser, hlast 0 (by decide), hlast 1 (by decide), hlast 2 (by decide),
    hlast 3 (by decide), hlast 4 (by decide), List.getElem_cons_zero, List.getElem_cons_succ,
    BitVec.ofNat_toNat, BitVec.setWidth_eq]

/-! ### The request -/

/-- What the handler finds. -/
structure AuthEnv where
  /-- The text of the file `auth_key`, if it can be opened. -/
  keyFile : Option (List UInt8)
  /-- The array `auth_key` before it is written to. -/
  stack : Vector UInt8 65
  /-- The context before it is reset. -/
  context : SHA1Context 32
  /-- There is memory for the reply. -/
  memory : Bool
  /-- What `send` returns. -/
  sent : Written

/-- A buffer is sent: whether `send` takes all of it, and what the server gets. -/
def sendBuffer (sent : Written) (buf : List UInt8) : Bool × List UInt8 :=
  match sent with
  | .failed => (false, [])
  | .count k => (k = buf.length, buf.take k)

/-- The array `auth_key` after `fgets` has put a line into it. -/
def keyArray (stack : Vector UInt8 65) (line : List UInt8) : List UInt8 :=
  patch stack.toList 0 (line ++ [0])

/-- The key that is hashed: `AUTH_KEY_LEN` bytes of the array. -/
def hashedKey (stack : Vector UInt8 65) (line : List UInt8) : List UInt8 :=
  (keyArray stack line).take 64

/-- `req->salt`; `junk` is the memory behind the buffer. -/
def saltOf (junk bytes : List UInt8) : List UInt8 :=
  ((bytes ++ junk).drop 8).take (saltLen (u32 bytes 0)).toNat

/-- `sr_handle_auth_request`: what it returns, and what the server gets. -/
def srHandleAuthRequest (env : AuthEnv) (user junk bytes : List UInt8) :
    Option (ℤ × List UInt8) :=
  match env.keyFile with
  | none => some (0, [])
  | some text =>
      match fgets 65 text with
      | none => some (0, [])
      | some (line, _) => do
          let context := sha1Reset env.context
          let context ← sha1Input context (saltOf junk bytes)
          let context ← sha1Input context (hashedKey env.stack line)
          let (ret, context) ← sha1Result context
          if ret = 0 then return (0, [])
          else if !env.memory then return (0, [])
          else
            let (all, got) := sendBuffer env.sent (authReply user context.messageDigest)
            return (if all then 1 else 0, got)

/-- `sr_handle_auth_status`: the byte `auth_ok`. -/
def srHandleAuthStatus (junk bytes : List UInt8) : ℤ := (u8 (bytes ++ junk) 8).toNat

variable {env : AuthEnv} {user junk m text line : List UInt8}

/-- The salt of a request is what stands behind its header. -/
lemma saltOf_eq (hm : WellFormed m) : saltOf junk m = m.drop 8 := by
  have hge := hm.ge
  have hle := hm.le
  have hlen : (saltLen (u32 m 0)).toNat = (m.drop 8).length := by
    rw [hm.word, saltLen_eq hle hge, List.length_drop]
    omega
  rw [saltOf, hlen, List.drop_append_of_le_length hge, List.take_left]

lemma length_hashedKey_le (stack : Vector UInt8 65) (line : List UInt8) :
    (hashedKey stack line).length ≤ 64 := by
  rw [hashedKey, List.length_take]
  exact Nat.min_le_left _ _

/-- What is hashed: the line and its terminator, and what was in the array. -/
lemma hashedKey_eq (stack : Vector UInt8 65) (line : List UInt8) :
    hashedKey stack line = (line ++ 0 :: stack.toList.drop (line.length + 1)).take 64 := by
  rw [hashedKey, keyArray, patch, List.take_zero, List.nil_append, Nat.zero_add, List.length_append,
    List.append_assoc]
  rfl

/-- A line of 63 characters leaves nothing of the array. -/
lemma hashedKey_of_le (stack : Vector UInt8 65) (h : 63 ≤ line.length) :
    hashedKey stack line = (line ++ [0]).take 64 := by
  rw [hashedKey_eq, ← List.singleton_append, ← List.append_assoc, List.take_append_of_le_length]
  rw [List.length_append]
  exact Nat.succ_le_succ h

/-- The reply to a request. -/
def replyTo (user salt key : List UInt8) : List UInt8 := authReply user (sha1.digest (salt ++ key))

lemma widen_self (d : Five Word) : d.map (widen 32) = d := by
  simp [Five.map, widen]

/-- The line of the key file, if there is one. -/
def AuthEnv.keyLine (env : AuthEnv) : Option (List UInt8) := do
  let text ← env.keyFile
  let (line, _) ← fgets 65 text
  return line

/-- Without a key there is no answer. -/
lemma srHandleAuthRequest_of_none (h : env.keyLine = none) :
    srHandleAuthRequest env user junk m = some (0, []) := by
  rw [srHandleAuthRequest]
  cases hfile : env.keyFile with
  | none => rfl
  | some text =>
      cases hline : fgets 65 text with
      | none => simp only [hline]
      | some p => simp [AuthEnv.keyLine, hfile, hline] at h

/-- What is hashed is the salt and the key. -/
lemma srHandleAuthRequest_of_some (h : env.keyLine = some line) (hm : WellFormed m) :
    srHandleAuthRequest env user junk m
      = some (if env.memory then
          (if (sendBuffer env.sent (replyTo user (m.drop 8) (hashedKey env.stack line))).1
            then 1 else 0,
          (sendBuffer env.sent (replyTo user (m.drop 8) (hashedKey env.stack line))).2)
        else (0, [])) := by
  have hw : 32 ≤ 32 := le_rfl
  have hshort : 8 * (m.drop 8 ++ hashedKey env.stack line).length < 2 ^ 64 := by
    have hkey := length_hashedKey_le env.stack line
    have hle := hm.le
    rw [List.length_append, List.length_drop]
    omega
  obtain ⟨context₁, hinput₁, hrep₁⟩ := (represents_sha1Reset hw env.context).input hw (m.drop 8)
  obtain ⟨context₂, hinput₂, hrep₂⟩ := hrep₁.input hw (hashedKey env.stack line)
  obtain ⟨ret, context₃, hresult, -, hdigest⟩ := hrep₂.result hw
  have hmessage : ((Hashing.absorbing []).input (m.drop 8)).input (hashedKey env.stack line)
      = .absorbing (m.drop 8 ++ hashedKey env.stack line) := by
    have hsalt : 8 * (m.drop 8).length < 2 ^ 64 := by
      rw [List.length_append] at hshort
      omega
    rw [Hashing.input, List.nil_append, if_pos hsalt, Hashing.input, if_pos hshort]
  rw [hmessage, Hashing.result, Option.map_some, widen_self] at hdigest
  split_ifs at hdigest with hret
  have hdigest : context₃.messageDigest = sha1.digest (m.drop 8 ++ hashedKey env.stack line) :=
    Option.some.inj hdigest
  rw [srHandleAuthRequest]
  cases hfile : env.keyFile with
  | none => simp [AuthEnv.keyLine, hfile] at h
  | some text =>
      cases hline : fgets 65 text with
      | none => simp [AuthEnv.keyLine, hfile, hline] at h
      | some p =>
          obtain rfl : p.1 = line := by simpa [AuthEnv.keyLine, hfile, hline] using h
          simp only [hline, saltOf_eq hm]
          refine Option.bind_eq_some_iff.2 ⟨context₁, hinput₁, Option.bind_eq_some_iff.2
            ⟨context₂, hinput₂, Option.bind_eq_some_iff.2 ⟨(ret, context₃), hresult, ?_⟩⟩⟩
          rw [hret, hdigest]
          cases env.memory with
          | false => rfl
          | true => rfl

lemma sendBuffer_fst (sent : Written) (buf : List UInt8) :
    (sendBuffer sent buf).1 = true ↔ sent = .count buf.length := by
  cases sent with
  | failed => simp [sendBuffer]
  | count k => simp [sendBuffer]

lemma sendBuffer_of_eq {sent : Written} {buf : List UInt8} (h : sent = .count buf.length) :
    sendBuffer sent buf = (true, buf) := by
  rw [h, sendBuffer, List.take_length]
  simp

lemma length_replyTo (user salt key : List UInt8) :
    (replyTo user salt key).length = 12 + user.length + 20 :=
  length_authReply user _

/-- The salt `1, 2, 3, 4`. -/
def sampleRequest : List UInt8 := be32s [12, vnsAuthRequest, 0x01020304]

lemma wellFormed_sampleRequest : WellFormed sampleRequest :=
  ⟨by decide, by decide, by decide⟩

/-- A key file with one line. -/
def sampleAuthEnv (key : List UInt8) : AuthEnv where
  keyFile := some (key ++ [10])
  stack := Vector.replicate 65 9
  context := freshContext 32
  memory := true
  sent := .count 35

/-- An authentication request is answered if there are a key and memory and `send` takes the
reply; and then the server can take from the reply the name of the user and the digest of
its salt and the key. -/
theorem auth_request_answered (env : AuthEnv) (user junk : List UInt8) (hm : WellFormed m)
    (huser : 12 + user.length + 20 < 2147483648) :
    ∃ ret got, srHandleAuthRequest env user junk m = some (ret, got) ∧
      (ret ≠ 0 ↔ env.keyLine.isSome ∧ env.memory ∧ env.sent = .count (12 + user.length + 20)) ∧
      (ret ≠ 0 → ret = 1 ∧ ∃ line, env.keyLine = some line ∧
        readAuthReply got = some (user, sha1.digest (m.drop 8 ++ hashedKey env.stack line))) := by
  cases hline : env.keyLine with
  | none =>
      exact ⟨0, [], srHandleAuthRequest_of_none hline, by simp, fun h => absurd rfl h⟩
  | some line =>
      have hret : srHandleAuthRequest env user junk m = _ := srHandleAuthRequest_of_some hline hm
      have hlen := length_replyTo user (m.drop 8) (hashedKey env.stack line)
      by_cases hok : env.memory = true ∧ env.sent = .count (12 + user.length + 20)
      · obtain ⟨hmem, hsent⟩ := hok
        rw [hmem, if_pos rfl, sendBuffer_of_eq (by rw [hlen, hsent])] at hret
        refine ⟨_, _, hret, ?_, fun _ => ⟨rfl, line, rfl, ?_⟩⟩
        · simp [hmem, hsent]
        · exact readAuthReply_authReply (by omega)
      · have hzero : ∃ got, srHandleAuthRequest env user junk m = some (0, got) := by
          by_cases hmem : env.memory = true
          · have hnot : ¬ (sendBuffer env.sent
                (replyTo user (m.drop 8) (hashedKey env.stack line))).1 = true := by
              rw [sendBuffer_fst, hlen]
              exact fun h => hok ⟨hmem, h⟩
            rw [hmem, if_pos rfl, if_neg hnot] at hret
            exact ⟨_, hret⟩
          · rw [if_neg hmem] at hret
            exact ⟨_, hret⟩
        obtain ⟨got, hgot⟩ := hzero
        refine ⟨0, got, hgot, ?_, fun h => absurd rfl h⟩
        simpa using hok

/-- A key of 64 characters, and the user `abc`. -/
theorem auth_request_answered_sample :
    ∃ ret got, srHandleAuthRequest (sampleAuthEnv (List.replicate 64 107)) [97, 98, 99] []
        sampleRequest = some (ret, got) ∧ ret = 1 ∧
      readAuthReply got = some ([97, 98, 99], sha1.digest ([1, 2, 3, 4] ++ List.replicate 64 107)) := by
  obtain ⟨ret, got, hret, hiff, hgot⟩ := auth_request_answered
    (sampleAuthEnv (List.replicate 64 107)) [97, 98, 99] [] wellFormed_sampleRequest (by decide)
  have hline : (sampleAuthEnv (List.replicate 64 107)).keyLine = some (List.replicate 64 107) := by
    decide +kernel
  obtain ⟨hone, line, hline', hread⟩ := hgot (hiff.2 ⟨by rw [hline]; rfl, rfl, rfl⟩)
  obtain rfl : List.replicate 64 107 = line := Option.some.inj (hline.symm.trans hline')
  refine ⟨ret, got, hret, hone, ?_⟩
  rw [hread, hashedKey_of_le _ (by decide)]
  rfl

/-! ### The key -/

/-- The arrays agree behind a line of `n` characters and its terminator, as far as they are
hashed. -/
def SameBehind (n : ℕ) (a b : Vector UInt8 65) : Prop := ∀ (i : ℕ) (_ : i < 64), n < i → a[i] = b[i]

/-- The environment with another array. -/
def AuthEnv.withStack (env : AuthEnv) (stack : Vector UInt8 65) : AuthEnv :=
  { env with stack := stack }

lemma getElem?_hashedKey_of_le (stack : Vector UInt8 65) {i : ℕ} (hi : i ≤ line.length) :
    (hashedKey stack line)[i]? = if i < 64 then (line ++ [0])[i]? else none := by
  rw [hashedKey_eq, List.getElem?_take, ← List.singleton_append, ← List.append_assoc,
    List.getElem?_append_left]
  rw [List.length_append]
  exact Nat.lt_succ_of_le hi

lemma getElem?_hashedKey_of_gt (stack : Vector UInt8 65) {i : ℕ} (hi : i < 64)
    (hgt : line.length < i) : (hashedKey stack line)[i]? = some stack[i] := by
  obtain ⟨k, rfl⟩ : ∃ k, i = line.length + (k + 1) := ⟨i - line.length - 1, by omega⟩
  rw [hashedKey_eq, List.getElem?_take, if_pos hi, List.getElem?_append_right (by omega),
    Nat.add_sub_cancel_left, List.getElem?_cons_succ, List.getElem?_drop,
    List.getElem?_eq_getElem (by simp; omega), Vector.getElem_toList]
  simp only [Nat.add_assoc, Nat.add_comm 1 k]

/-- What is hashed depends on these bytes of the array, and on no others. -/
lemma hashedKey_eq_iff (a b : Vector UInt8 65) :
    hashedKey a line = hashedKey b line ↔ SameBehind line.length a b := by
  constructor
  · intro h i hi hgt
    have hbyte := getElem?_hashedKey_of_gt a hi hgt
    rw [h, getElem?_hashedKey_of_gt b hi hgt, Option.some.injEq] at hbyte
    exact hbyte.symm
  · intro h
    ext i x
    rcases le_or_gt i line.length with hle | hgt
    · rw [getElem?_hashedKey_of_le a hle, getElem?_hashedKey_of_le b hle]
    by_cases hi : i < 64
    · rw [getElem?_hashedKey_of_gt a hi hgt, getElem?_hashedKey_of_gt b hi hgt, h i hi hgt]
    · have hnone : ∀ stack : Vector UInt8 65, (hashedKey stack line)[i]? = none := fun stack =>
        List.getElem?_eq_none ((length_hashedKey_le stack line).trans (not_lt.1 hi))
      rw [hnone, hnone]

/-- Behind a shorter line there is a byte of the array. -/
lemma exists_not_sameBehind (stack : Vector UInt8 65) {n : ℕ} (h : n < 63) :
    ∃ stack', ¬ SameBehind n stack' stack := by
  refine ⟨stack.set (n + 1) (stack[n + 1] + 1), fun hsame => ?_⟩
  have hbyte := hsame (n + 1) (by omega) (Nat.lt_succ_self n)
  rw [Vector.getElem_set_self] at hbyte
  have hval := congrArg UInt8.toNat hbyte
  have hlt := (stack[n + 1]).toNat_lt
  rw [UInt8.toNat_add] at hval
  simp only [UInt8.reduceToNat] at hval
  omega

/-- The answer depends on the key file alone if the line has at least 63 characters.  If it
is shorter, then there is something of the array that is hashed; arrays that agree there give
the same answer, and two that do not give different ones, unless the code of the digest
collides on what is hashed for these two. -/
theorem reply_determined_iff (env : AuthEnv) (user junk : List UInt8) (hm : WellFormed m)
    (hline : env.keyLine = some line) (hmem : env.memory = true)
    (hsent : env.sent = .count (12 + user.length + 20))
    (huser : 12 + user.length + 20 < 2147483648) :
    (63 ≤ line.length → ∀ stack, srHandleAuthRequest (env.withStack stack) user junk m
      = srHandleAuthRequest env user junk m) ∧
    (line.length < 63 → ∃ stack, ¬ SameBehind line.length stack env.stack) ∧
    ∀ stack,
      (SameBehind line.length stack env.stack →
        srHandleAuthRequest (env.withStack stack) user junk m
          = srHandleAuthRequest env user junk m) ∧
      (¬ SameBehind line.length stack env.stack →
        srHandleAuthRequest (env.withStack stack) user junk m
            ≠ srHandleAuthRequest env user junk m ∨
          BlocksCollide 32 (m.drop 8 ++ hashedKey stack line)
            (m.drop 8 ++ hashedKey env.stack line)) := by
  have hret : ∀ stack, srHandleAuthRequest (env.withStack stack) user junk m
      = some (1, replyTo user (m.drop 8) (hashedKey stack line)) := by
    intro stack
    have hstack : srHandleAuthRequest (env.withStack stack) user junk m = _ :=
      srHandleAuthRequest_of_some hline hm
    rw [hstack, if_pos (show (env.withStack stack).memory = true from hmem),
      sendBuffer_of_eq (by rw [length_replyTo]; exact hsent)]
    rfl
  have hself : srHandleAuthRequest env user junk m
      = some (1, replyTo user (m.drop 8) (hashedKey env.stack line)) := hret env.stack
  have hagree : ∀ stack, SameBehind line.length stack env.stack →
      srHandleAuthRequest (env.withStack stack) user junk m
        = srHandleAuthRequest env user junk m := by
    intro stack hsame
    rw [hret, hself, (hashedKey_eq_iff stack env.stack).2 hsame]
  have hshort : ∀ stack, 8 * (m.drop 8 ++ hashedKey stack line).length < 2 ^ 64 := by
    intro stack
    have hkey := length_hashedKey_le stack line
    have hle := hm.le
    rw [List.length_append, List.length_drop]
    omega
  refine ⟨fun hlong stack => hagree stack fun i hi hgt => by omega,
    exists_not_sameBehind env.stack, fun stack => ⟨hagree stack, fun hdiff => ?_⟩⟩
  by_cases hsame : srHandleAuthRequest (env.withStack stack) user junk m
      = srHandleAuthRequest env user junk m
  · right
    rw [hret, hself, Option.some.injEq, Prod.mk.injEq] at hsame
    have hread := congrArg readAuthReply hsame.2
    rw [replyTo, replyTo, readAuthReply_authReply (by omega), readAuthReply_authReply (by omega),
      Option.some.injEq, Prod.mk.injEq] at hread
    have hne : hashedKey stack line ≠ hashedKey env.stack line :=
      fun h => hdiff ((hashedKey_eq_iff stack env.stack).1 h)
    exact blocksCollide_of_digest_eq le_rfl (hshort _) (hshort _)
      (fun h => hne (List.append_cancel_left h)) hread.2
  · exact Or.inl hsame

/-- A key of 3 characters, with eights or nines in the array. -/
theorem reply_determined_iff_sample :
    srHandleAuthRequest ((sampleAuthEnv [107, 107, 107]).withStack (Vector.replicate 65 8))
          [97, 98, 99] [] sampleRequest
        ≠ srHandleAuthRequest (sampleAuthEnv [107, 107, 107]) [97, 98, 99] [] sampleRequest ∨
      BlocksCollide 32
        (sampleRequest.drop 8 ++ hashedKey (Vector.replicate 65 8) [107, 107, 107, 10])
        (sampleRequest.drop 8 ++ hashedKey (Vector.replicate 65 9) [107, 107, 107, 10]) := by
  obtain ⟨-, -, hstack⟩ := reply_determined_iff (sampleAuthEnv [107, 107, 107]) [97, 98, 99] []
    wellFormed_sampleRequest (show _ = some [107, 107, 107, 10] by decide +kernel) rfl rfl
    (by decide)
  refine (hstack (Vector.replicate 65 8)).2 fun hsame => ?_
  exact absurd (hsame 5 (by decide) (by decide)) (by decide)

/-! ### The user -/

lemma takeWhile_append_zero (a b : List UInt8) :
    (a ++ 0 :: b).takeWhile (· ≠ 0) = a.takeWhile (· ≠ 0) := by
  rw [List.takeWhile_append]
  split_ifs with h
  · rw [List.takeWhile_cons_of_neg (by simp), List.append_nil]
    exact (List.takeWhile_prefix _).eq_of_length h |>.symm
  · rfl

/-- The name that is sent: the user's, or, if that has 32 characters or more, its first 32
characters and the name of the host. -/
lemma userName_init (user host : List UInt8) (template : Option (List UInt8))
    (rest : Vector UInt8 29) (behind : List UInt8) :
    (Strings.init user host template rest behind).userName =
      if (user.takeWhile (· ≠ 0)).length < 32 then user.takeWhile (· ≠ 0)
      else (user.takeWhile (· ≠ 0)).take 32 ++
        (strncpy 32 host ++ ((Strings.init user host template rest behind).template ++ behind)).takeWhile
          (· ≠ 0) := by
  have hcut : cstr 32 user = (user.takeWhile (· ≠ 0)).take 32 := by
    rw [cstr, List.take_takeWhile]
  have hself : (cstr 32 user).takeWhile (· ≠ 0) = cstr 32 user :=
    List.takeWhile_eq_self_iff.2 fun x hx => by simpa using ne_zero_of_mem_cstr hx
  rw [Strings.userName]
  change ((strncpy 32 user) ++ (strncpy 32 host ++ _)).takeWhile (· ≠ 0) = _
  rw [strncpy, List.append_assoc]
  split_ifs with hshort
  · have hlen : (cstr 32 user).length < 32 := by
      rw [hcut, List.length_take]
      omega
    obtain ⟨k, hk⟩ : ∃ k, 32 - (cstr 32 user).length = k + 1 := ⟨31 - (cstr 32 user).length, by omega⟩
    rw [hk, List.replicate_succ, List.cons_append, takeWhile_append_zero, hself, hcut,
      List.take_of_length_le (by omega)]
  · have hlen : (cstr 32 user).length = 32 := by
      rw [hcut, List.length_take]
      omega
    rw [hlen, Nat.sub_self, List.replicate_zero, List.nil_append, List.takeWhile_append,
      if_pos (by rw [hself]), ← hcut]
    rfl

/-- The server reads the name that was given to the program if and only if it has less than
32 characters, or what stands behind it in the structure is the rest of the name. -/
theorem reply_names_user_iff (user host : List UInt8) (template : Option (List UInt8))
    (rest : Vector UInt8 29) (behind salt key : List UInt8) (hbehind : behind.length < 2147483000) :
    readAuthReply (replyTo (Strings.init user host template rest behind).userName salt key)
        = some (user.takeWhile (· ≠ 0), sha1.digest (salt ++ key)) ↔
      (user.takeWhile (· ≠ 0)).length < 32 ∨
        (strncpy 32 host ++ ((Strings.init user host template rest behind).template ++ behind)).takeWhile
          (· ≠ 0) = (user.takeWhile (· ≠ 0)).drop 32 := by
  have htemplate : (Strings.init user host template rest behind).template.length = 30 := by
    cases template with
    | none => simp [Strings.init]
    | some t => exact length_strncpy 30 t
  have hlen : (Strings.init user host template rest behind).userName.length ≤ 94 + behind.length := by
    refine (List.takeWhile_prefix _).length_le.trans ?_
    rw [List.length_append, List.length_append, List.length_append, htemplate]
    change (strncpy 32 user).length + ((strncpy 32 host).length + (30 + behind.length)) ≤ _
    rw [length_strncpy, length_strncpy]
    omega
  rw [replyTo, readAuthReply_authReply (by omega), Option.some.injEq, Prod.mk.injEq,
    and_iff_left rfl, userName_init]
  split_ifs with hshort
  · exact ⟨fun _ => Or.inl hshort, fun _ => rfl⟩
  · conv_lhs => rhs; rw [← List.take_append_drop 32 (user.takeWhile (· ≠ 0))]
    rw [List.append_cancel_left_eq]
    exact ⟨Or.inr, fun h => h.resolve_left hshort⟩

/-- The user `abc` on the host `h`. -/
theorem reply_names_user_iff_sample :
    readAuthReply (replyTo (Strings.init [97, 98, 99] [104] none (Vector.replicate 29 7) []).userName
        [1] [2]) = some ([97, 98, 99], sha1.digest [1, 2]) :=
  (reply_names_user_iff [97, 98, 99] [104] none (Vector.replicate 29 7) [] [1] [2] (by decide)).2
    (Or.inl (by decide))

end SimpleRouter
