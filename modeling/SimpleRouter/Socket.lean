/-
Reading messages from the server (`sr_read_from_server_expect` of `sr_vns_comm.c`).

A message starts with its length, a 32-bit word, and its command, another one.  The
function reads the length word and then the rest, each in a loop around a loop: the
outer one goes on until enough bytes are there, the inner one repeats a call that
was interrupted by a signal.

What happens on the connection is a list of arrivals: pieces of data, interrupted
calls, and calls that fail.  A call is given bytes of the piece in front, no more
than it asked for; what is left of the piece is there for the next call.  Behind the
last arrival the connection is closed and every call returns 0.
-/
import SimpleRouter.State

namespace SimpleRouter

open Bytes

/-- One thing that happens on the connection. -/
inductive Arrival where
  /-- A piece of data, which is not empty. -/
  | data (b : UInt8) (bs : List UInt8)
  /-- A call is interrupted by a signal (`EINTR`). -/
  | interrupted
  /-- A call fails for another reason. -/
  | failed
deriving DecidableEq, Repr

/-- What is left of a piece, if anything. -/
def leftover : List UInt8 → List Arrival
  | [] => []
  | b :: bs => [.data b bs]

/-- What a call of `recv` or `read` returns. -/
inductive Recv where
  /-- The bytes that were read; none if the connection is closed. -/
  | got (bs : List UInt8)
  /-- -1 with `errno` set to `EINTR`. -/
  | interrupted
  /-- -1 with another `errno`. -/
  | failed
deriving DecidableEq, Repr

/-- `recv` or `read`, asking for `n` bytes. -/
def recv (n : ℕ) : List Arrival → Recv × List Arrival
  | [] => (.got [], [])
  | .data b bs :: as => (.got ((b :: bs).take n), leftover ((b :: bs).drop n) ++ as)
  | .interrupted :: as => (.interrupted, as)
  | .failed :: as => (.failed, as)

/-- The inner loop: the call is repeated while it is interrupted.  `none` stands for
a failure. -/
def recvRetry (n : ℕ) : List Arrival → Option (List UInt8) × List Arrival
  | .interrupted :: as => recvRetry n as
  | as =>
      match recv n as with
      | (.got bs, as) => (some bs, as)
      | (_, as) => (none, as)

/-- How a loop ends. -/
inductive Reading where
  /-- Enough bytes are there. -/
  | done (buf : List UInt8) (as : List Arrival)
  /-- A call failed. -/
  | failed (as : List Arrival)
  /-- The loop goes on for longer than the fuel. -/
  | outOfFuel
deriving DecidableEq, Repr

/-- The outer loop: `total` bytes are wanted, and `buf` holds those that were read. -/
def readLoop : ℕ → ℕ → List UInt8 → List Arrival → Reading
  | 0, _, _, _ => .outOfFuel
  | fuel + 1, total, buf, as =>
      if buf.length < total then
        match recvRetry (total - buf.length) as with
        -- 0 bytes from a closed connection count as progress like any others
        | (some bs, as) => readLoop fuel total (buf ++ bs) as
        | (none, as) => .failed as
      else .done buf as

/-- A message: its command, and its bytes in the buffer.  The code writes the command
back to the buffer in host order; since no handler looks at it there, the bytes are
kept as they were received. -/
structure Message where
  command : ℕ
  bytes : List UInt8
deriving DecidableEq, Repr

/-- `VNSCLOSE`. -/
def vnsClose : ℕ := 2

/-- `VNSPACKET`. -/
def vnsPacket : ℕ := 4

/-- The length check: as a signed number the length must be neither negative nor more
than 10000. -/
def badLength (len : ℕ) : Prop := 10000 < len ∨ 2147483648 ≤ len

instance (len : ℕ) : Decidable (badLength len) := inferInstanceAs (Decidable (_ ∨ _))

/-- A 32-bit length is refused if it is more than 10000. -/
lemma badLength_iff (len : ℕ) : badLength len ↔ 10000 < len := by
  rw [badLength]
  omega

section Expect

/-! `dispatch` is the `switch` over the commands, with the value that is returned;
`junk` is the memory behind the buffer, where the command of a message of less than 8
bytes is read from. -/

variable {σ : Type} (junk : List UInt8) (dispatch : σ → Message → ℤ × σ)

/-- `sr_read_from_server_expect`; the command is not checked if `expected` is 0.  The
result is `none` if the call takes longer than the fuel. -/
def srReadFromServerExpect (fuel expected : ℕ) (s : σ) (as : List Arrival) :
    Option (ℤ × σ × List Arrival) :=
  match readLoop fuel 4 [] as with
  | .outOfFuel => none
  | .failed as => some (-1, s, as)
  | .done word as =>
      if badLength (u32 word 0) then some (-1, s, as)
      else
        match readLoop fuel (u32 word 0 - 4) [] as with
        | .outOfFuel => none
        | .failed as => some (-1, s, as)
        | .done body as =>
            let msg : Message := ⟨u32 (word ++ body ++ junk) 4, word ++ body⟩
            -- `VNSCLOSE` is accepted whatever is expected
            if expected ≠ 0 ∧ msg.command ≠ expected ∧ msg.command ≠ vnsClose then
              some (-1, s, as)
            else
              let (ret, s) := dispatch s msg
              some (ret, s, as)

/-- `sr_read_from_server`. -/
def srReadFromServer (fuel : ℕ) (s : σ) (as : List Arrival) : Option (ℤ × σ × List Arrival) :=
  srReadFromServerExpect junk dispatch fuel 0 s as

end Expect

/-! ### The loops -/

/-- The bytes that arrive before a call fails. -/
def avail : List Arrival → List UInt8
  | [] => []
  | .data b bs :: as => b :: bs ++ avail as
  | .interrupted :: as => avail as
  | .failed :: _ => []

variable {as as' : List Arrival} {n total fuel : ℕ} {buf bs : List UInt8}

lemma avail_leftover (bs : List UInt8) (as : List Arrival) :
    avail (leftover bs ++ as) = bs ++ avail as := by
  cases bs with
  | nil => rfl
  | cons b bs => rfl

lemma failed_mem_leftover (bs : List UInt8) (as : List Arrival) :
    .failed ∈ leftover bs ++ as ↔ .failed ∈ as := by
  cases bs with
  | nil => rfl
  | cons b bs => simp [leftover]

/-- A call that is repeated while it is interrupted gets bytes if there are any, fails
if a failure comes first, and otherwise finds the connection closed. -/
lemma recvRetry_cases (hn : 0 < n) (as : List Arrival) :
    (∃ bs as', recvRetry n as = (some bs, as') ∧ bs ≠ [] ∧ bs.length ≤ n ∧
      avail as = bs ++ avail as' ∧ (.failed ∈ as' ↔ .failed ∈ as)) ∨
    (avail as = [] ∧ .failed ∈ as ∧ ∃ as', recvRetry n as = (none, as')) ∨
    (avail as = [] ∧ .failed ∉ as ∧ recvRetry n as = (some [], [])) := by
  induction as with
  | nil => exact Or.inr (Or.inr ⟨rfl, by simp, rfl⟩)
  | cons a as ih =>
      cases a with
      | data b bs =>
          left
          refine ⟨(b :: bs).take n, leftover ((b :: bs).drop n) ++ as, rfl, ?_, by simp, ?_, ?_⟩
          · simp only [ne_eq, List.take_eq_nil_iff]
            rintro (h | h)
            · omega
            · simp at h
          · rw [avail_leftover, ← List.append_assoc, List.take_append_drop]
            rfl
          · rw [failed_mem_leftover]
            simp
      | interrupted => simpa [recvRetry, avail] using ih
      | failed => exact Or.inr (Or.inl ⟨rfl, by simp, as, rfl⟩)

/-- More fuel does not change how the loop ends. -/
lemma readLoop_mono (k : ℕ) (h : readLoop fuel total buf as ≠ .outOfFuel) :
    readLoop (fuel + k) total buf as = readLoop fuel total buf as := by
  induction fuel generalizing buf as with
  | zero => exact absurd rfl h
  | succ fuel ih =>
      rw [Nat.succ_add, readLoop, readLoop]
      rw [readLoop] at h
      by_cases hlt : buf.length < total
      · rw [if_pos hlt] at h
        rw [if_pos hlt, if_pos hlt]
        rcases hrecv : recvRetry (total - buf.length) as with ⟨_ | bs, as₁⟩
        · rfl
        · rw [hrecv] at h
          exact ih h
      · rw [if_neg hlt, if_neg hlt]

/-- The loop ends with the next bytes if there are enough. -/
lemma readLoop_done (hfuel : total - buf.length < fuel) (hbuf : buf.length ≤ total)
    (hlen : total - buf.length ≤ (avail as).length) :
    ∃ as', readLoop fuel total buf as
        = .done (buf ++ (avail as).take (total - buf.length)) as' ∧
      avail as' = (avail as).drop (total - buf.length) ∧ (.failed ∈ as' ↔ .failed ∈ as) := by
  induction fuel generalizing buf as with
  | zero => omega
  | succ fuel ih =>
      rw [readLoop]
      by_cases hlt : buf.length < total
      · rw [if_pos hlt]
        have hne : avail as ≠ [] := by
          intro h
          rw [h, List.length_nil] at hlen
          omega
        rcases recvRetry_cases (n := total - buf.length) (by omega) as with
          ⟨bs, as₁, hrecv, hbs, hle, havail, hfail⟩ | ⟨h, -⟩ | ⟨h, -⟩
        · have hpos : 0 < bs.length := List.length_pos_iff.2 hbs
          have hrest : total - (buf ++ bs).length = total - buf.length - bs.length := by
            rw [List.length_append]
            omega
          have hmore : total - (buf ++ bs).length ≤ (avail as₁).length := by
            rw [hrest]
            rw [havail, List.length_append] at hlen
            omega
          obtain ⟨as₂, hloop, havail₂, hfail₂⟩ := ih (by rw [hrest]; omega)
            (by rw [List.length_append]; omega) hmore
          refine ⟨as₂, ?_, ?_, hfail₂.trans hfail⟩
          · rw [hrecv]
            dsimp only
            rw [hloop, hrest, havail, List.take_append, List.take_of_length_le hle,
              List.append_assoc]
          · rw [havail₂, hrest, havail, List.drop_append, List.drop_of_length_le hle,
              List.nil_append]
        · exact absurd h hne
        · exact absurd h hne
      · have hzero : total - buf.length = 0 := by omega
        rw [if_neg hlt, hzero]
        exact ⟨as, by simp, by simp, Iff.rfl⟩

/-- If there are not enough bytes, a failure ends the loop. -/
lemma readLoop_failed (hfuel : (avail as).length < fuel)
    (hlen : (avail as).length < total - buf.length) (hfail : .failed ∈ as) :
    ∃ as', readLoop fuel total buf as = .failed as' := by
  induction fuel generalizing buf as with
  | zero => omega
  | succ fuel ih =>
      rw [readLoop, if_pos (by omega)]
      rcases recvRetry_cases (n := total - buf.length) (by omega) as with
        ⟨bs, as₁, hrecv, hbs, hle, havail, hfail₁⟩ | ⟨-, -, as₁, hrecv⟩ | ⟨-, h, -⟩
      · have hpos : 0 < bs.length := List.length_pos_iff.2 hbs
        rw [havail, List.length_append] at hfuel hlen
        rw [hrecv]
        exact ih (by omega) (by rw [List.length_append]; omega) (hfail₁.2 hfail)
      · rw [hrecv]
        exact ⟨as₁, rfl⟩
      · exact absurd hfail h

/-- If there are not enough bytes and no call fails, the loop does not end: behind the
last byte every call returns 0, and the loop does not look at that. -/
lemma readLoop_outOfFuel (hlen : (avail as).length < total - buf.length)
    (hfail : .failed ∉ as) : readLoop fuel total buf as = .outOfFuel := by
  induction fuel generalizing buf as with
  | zero => rfl
  | succ fuel ih =>
      rw [readLoop, if_pos (by omega)]
      rcases recvRetry_cases (n := total - buf.length) (by omega) as with
        ⟨bs, as₁, hrecv, hbs, hle, havail, hfail₁⟩ | ⟨-, h, -⟩ | ⟨havail, -, hrecv⟩
      · rw [havail, List.length_append] at hlen
        rw [hrecv]
        exact ih (by rw [List.length_append]; omega) fun h => hfail (hfail₁.1 h)
      · exact absurd h hfail
      · rw [hrecv]
        refine ih ?_ (by simp)
        rw [havail] at hlen
        simpa [avail] using hlen

end SimpleRouter
