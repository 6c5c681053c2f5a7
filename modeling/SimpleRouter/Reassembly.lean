/-
Messages come out as they were sent.

However the stream is cut into pieces on its way, and whenever calls are
interrupted, the loops collect the same bytes, and successive calls of
`sr_read_from_server` dispatch the messages that one gets by cutting the stream at
its length words.

A connection that is closed in the middle of a message is another matter: the loops
do not notice.
-/
import SimpleRouter.Socket

namespace SimpleRouter

open Bytes

variable {σ : Type} {junk : List UInt8} {dispatch : σ → Message → ℤ × σ} {s : σ}
  {as : List Arrival} {m rest : List UInt8} {msgs : List (List UInt8)} {fuel expected : ℕ}

/-! ### One call -/

/-- A message whose length word gives its length, between 8 and 10000 bytes. -/
structure WellFormed (m : List UInt8) : Prop where
  ge : 8 ≤ m.length
  le : m.length ≤ 10000
  word : u32 m 0 = m.length

/-- What the call for a message hands to the handler of its command. -/
def dispatched (m : List UInt8) : Message := ⟨u32 m 4, m⟩

/-- The call dispatches the message: nothing special is expected, or this command, or
the session is closed. -/
def Expected (expected : ℕ) (m : List UInt8) : Prop :=
  expected = 0 ∨ u32 m 4 = expected ∨ u32 m 4 = vnsClose

instance (expected : ℕ) (m : List UInt8) : Decidable (Expected expected m) :=
  inferInstanceAs (Decidable (_ ∨ _))

lemma not_expected_iff :
    ¬ Expected expected m ↔ expected ≠ 0 ∧ u32 m 4 ≠ expected ∧ u32 m 4 ≠ vnsClose := by
  rw [Expected, not_or, not_or]

/-- What a call that is given the message `m` does with it; a message with another
command than the expected one is dropped. -/
def deliver (dispatch : σ → Message → ℤ × σ) (s : σ) (call : ℕ × List UInt8) : σ :=
  if Expected call.1 call.2 then (dispatch s (dispatched call.2)).2 else s

/-- If a whole message is there, it is delivered, and the stream goes on behind it. -/
lemma srReadFromServerExpect_message (hm : WellFormed m) (hfuel : 10000 < fuel)
    (havail : avail as = m ++ rest) :
    ∃ ret as', srReadFromServerExpect junk dispatch fuel expected s as
        = some (ret, deliver dispatch s (expected, m), as') ∧ avail as' = rest := by
  have hge := hm.ge
  have hle := hm.le
  have hlen : (avail as).length = m.length + rest.length := by rw [havail, List.length_append]
  obtain ⟨as₁, hword, havail₁, -⟩ := readLoop_done (show 4 - [].length < fuel by simp; omega)
    (by simp) (show 4 - [].length ≤ (avail as).length by simp; omega)
  have htake : (avail as).take 4 = m.take 4 := by
    rw [havail, List.take_append_of_le_length (by omega)]
  have hval : u32 (m.take 4) 0 = m.length := by
    rw [← hm.word]
    conv_rhs => rw [← List.take_append_drop 4 m]
    rw [u32_append_left (by simp; omega)]
  have hdrop : avail as₁ = m.drop 4 ++ rest := by
    rw [havail₁]
    change (avail as).drop 4 = _
    rw [havail, List.drop_append_of_le_length (by omega)]
  obtain ⟨as₂, hbody, havail₂, -⟩ := readLoop_done
    (show m.length - 4 - [].length < fuel by simp; omega) (by simp)
    (show m.length - 4 - [].length ≤ (avail as₁).length by
      rw [hdrop, List.length_append, List.length_drop]; simp)
  -- the length word is stored in front of the rest
  have hbuf : m.take 4 ++ (avail as₁).take (m.length - 4) = m := by
    have hall : (m.drop 4).take (m.length - 4) = m.drop 4 := List.take_of_length_le (by simp)
    rw [hdrop, List.take_append_of_le_length (by simp), hall, List.take_append_drop]
  have hcommand : u32 (m ++ junk) 4 = u32 m 4 := u32_append_left (by omega)
  have hrest : avail as₂ = rest := by
    rw [havail₂, hdrop, List.drop_append_of_le_length (by simp), List.drop_of_length_le (by simp),
      List.nil_append]
  simp only [List.nil_append, List.length_nil, Nat.sub_zero] at hword hbody
  rw [srReadFromServerExpect, hword]
  simp only [htake, hval]
  rw [if_neg (by rw [badLength_iff]; omega), hbody]
  simp only [hbuf, hcommand, deliver]
  by_cases hexp : Expected expected m
  · rw [if_pos hexp, if_neg (fun h => not_expected_iff.2 h hexp)]
    exact ⟨_, as₂, rfl, hrest⟩
  · rw [if_neg hexp, if_pos (not_expected_iff.1 hexp)]
    exact ⟨-1, as₂, rfl, hrest⟩

/-! ### Successive calls -/

/-- Successive calls, one for each element of the list, which says what is expected. -/
def serve (junk : List UInt8) (dispatch : σ → Message → ℤ × σ) (fuel : ℕ) :
    List ℕ → σ → List Arrival → Option (σ × List Arrival)
  | [], s, as => some (s, as)
  | expected :: calls, s, as =>
      match srReadFromServerExpect junk dispatch fuel expected s as with
      | none => none
      | some (_, s, as) => serve junk dispatch fuel calls s as

/-- The first `n` messages of a stream, cut at the length words. -/
def cut : ℕ → List UInt8 → List (List UInt8)
  | 0, _ => []
  | n + 1, l => l.take (u32 l 0) :: cut n (l.drop (u32 l 0))

lemma cut_flatten (h : ∀ m ∈ msgs, WellFormed m) : cut msgs.length msgs.flatten = msgs := by
  induction msgs with
  | nil => rfl
  | cons m msgs ih =>
      have hm := h m (by simp)
      have hge := hm.ge
      have hword : u32 (m ++ msgs.flatten) 0 = m.length := by
        rw [u32_append_left (by omega), hm.word]
      rw [List.flatten_cons, List.length_cons, cut, hword, List.take_left, List.drop_left,
        ih fun m' hm' => h m' (List.mem_cons_of_mem _ hm')]

lemma serve_messages {calls : List ℕ} (h : ∀ m ∈ msgs, WellFormed m) (hfuel : 10000 < fuel)
    (hcalls : calls.length = msgs.length) (havail : avail as = msgs.flatten) :
    ∃ as', serve junk dispatch fuel calls s as
        = some ((calls.zip msgs).foldl (deliver dispatch) s, as') ∧ avail as' = [] := by
  induction msgs generalizing s as calls with
  | nil =>
      obtain rfl : calls = [] := List.length_eq_zero_iff.1 hcalls
      exact ⟨as, rfl, havail⟩
  | cons m msgs ih =>
      cases calls with
      | nil => simp at hcalls
      | cons expected calls =>
          rw [List.flatten_cons] at havail
          obtain ⟨ret, as₁, hcall, havail₁⟩ := srReadFromServerExpect_message (h m (by simp)) hfuel
            havail
          obtain ⟨as₂, hrest, havail₂⟩ := ih (fun m' hm' => h m' (List.mem_cons_of_mem _ hm'))
            (by simpa using hcalls) havail₁
          refine ⟨as₂, ?_, havail₂⟩
          rw [serve, hcall]
          exact hrest

/-- Reassembly does not depend on the fragmentation: successive calls, whatever each of
them expects, deliver the messages of the stream, cut at its length words, and consume
it to the end. -/
theorem reassembly_eq_cut (junk : List UInt8) (dispatch : σ → Message → ℤ × σ) (s : σ)
    (calls : List ℕ) (h : ∀ m ∈ msgs, WellFormed m) (hcalls : calls.length = msgs.length)
    (havail : avail as = msgs.flatten) :
    ∃ fuel₀, ∀ fuel ≥ fuel₀, ∃ as',
      serve junk dispatch fuel calls s as
        = some ((calls.zip (cut msgs.length msgs.flatten)).foldl (deliver dispatch) s, as') ∧
      avail as' = [] := by
  refine ⟨10001, fun fuel hfuel => ?_⟩
  rw [cut_flatten h]
  exact serve_messages h (by omega) hcalls havail

/-- Two messages, of 9 and 8 bytes, in pieces of 3, 1, 5 and 8 bytes with two
interruptions; the second call expects the command that comes. -/
theorem reassembly_eq_cut_sample :
    ∃ fuel₀, ∀ fuel ≥ fuel₀, ∃ as',
      serve [] (fun log m => (1, log ++ [m])) fuel [0, 16] ([] : List Message)
        [.data 0 [0, 0], .interrupted, .data 9 [], .data 0 [0, 0, 8, 7], .interrupted,
          .data 0 [0, 0, 8, 0, 0, 0, 16]]
        = some ([⟨8, [0, 0, 0, 9, 0, 0, 0, 8, 7]⟩, ⟨16, [0, 0, 0, 8, 0, 0, 0, 16]⟩], as') ∧
      avail as' = [] := by
  have hmsgs : ∀ m ∈ [[0, 0, 0, 9, 0, 0, 0, 8, 7], [0, 0, 0, 8, 0, 0, 0, 16]], WellFormed m := by
    intro m hm
    simp only [List.mem_cons, List.not_mem_nil, or_false] at hm
    rcases hm with rfl | rfl
    · exact ⟨by decide, by decide, by decide⟩
    · exact ⟨by decide, by decide, by decide⟩
  have hfold : ([0, 16].zip [[0, 0, 0, 9, 0, 0, 0, 8, 7], [0, 0, 0, 8, 0, 0, 0, 16]]).foldl
      (deliver fun (log : List Message) m => (1, log ++ [m])) []
      = [⟨8, [0, 0, 0, 9, 0, 0, 0, 8, 7]⟩, ⟨16, [0, 0, 0, 8, 0, 0, 0, 16]⟩] := by
    decide
  rw [← hfold, ← cut_flatten hmsgs]
  exact reassembly_eq_cut [] (fun log m => (1, log ++ [m])) [] [0, 16] hmsgs rfl rfl

/-! ### A connection that is closed -/

/-- The bytes that arrive before a failure make up the whole message. -/
def Complete (as : List Arrival) : Prop :=
  4 ≤ (avail as).length ∧ u32 (avail as) 0 ≤ (avail as).length

/-- The bytes that arrive before a failure are enough for the call to return: they
make up the message, or a length that is refused. -/
def EnoughFor (as : List Arrival) : Prop :=
  4 ≤ (avail as).length ∧
    (10000 < u32 (avail as) 0 ∨ u32 (avail as) 0 ≤ (avail as).length)

/-- The call returns, and not with 1 if the message is incomplete. -/
def EndsWell (junk : List UInt8) (dispatch : σ → Message → ℤ × σ) (expected : ℕ) (s : σ)
    (as : List Arrival) : Prop :=
  ∃ fuel ret s' as', srReadFromServerExpect junk dispatch fuel expected s as = some (ret, s', as') ∧
    (¬ Complete as → ret ≠ 1)

/-- The length word, once it is read. -/
lemma readLoop_word (hlen : 4 ≤ (avail as).length) :
    ∃ word as', (∀ fuel, 4 < fuel → readLoop fuel 4 [] as = .done word as') ∧
      u32 word 0 = u32 (avail as) 0 ∧ (avail as').length = (avail as).length - 4 ∧
      (.failed ∈ as' ↔ .failed ∈ as) := by
  have hdone : ∀ fuel, 4 < fuel → ∃ as', readLoop fuel 4 [] as = .done ((avail as).take 4) as' ∧
      avail as' = (avail as).drop 4 ∧ (.failed ∈ as' ↔ .failed ∈ as) := by
    intro fuel hfuel
    exact readLoop_done (by rw [List.length_nil]; omega) (by simp) (by simpa using hlen)
  obtain ⟨as', hloop, havail, hfail⟩ := hdone 5 (by omega)
  refine ⟨(avail as).take 4, as', ?_, ?_, ?_, hfail⟩
  · intro fuel hfuel
    obtain ⟨k, rfl⟩ := Nat.exists_eq_add_of_le (show 5 ≤ fuel by omega)
    rw [readLoop_mono k (by rw [hloop]; simp), hloop]
  · conv_rhs => rw [← List.take_append_drop 4 (avail as)]
    rw [u32_append_left (by rw [List.length_take]; omega)]
  · rw [havail, List.length_drop]

/-- The call returns if the message is complete, or its length refused, or a call
fails. -/
lemma endsWell_of_enough (h : .failed ∈ as ∨ EnoughFor as) :
    EndsWell junk dispatch expected s as := by
  -- enough fuel for both loops
  set fuel := (avail as).length + 10001 with hfuel
  by_cases hlen : 4 ≤ (avail as).length
  · obtain ⟨word, as₁, hword, hval, hlen₁, hfail₁⟩ := readLoop_word hlen
    have hword := hword fuel (by omega)
    by_cases hbad : badLength (u32 word 0)
    · refine ⟨fuel, -1, s, as₁, ?_, by simp⟩
      rw [srReadFromServerExpect, hword]
      simp only [hbad, if_true]
    · have hle : u32 word 0 ≤ 10000 := by
        rw [badLength_iff] at hbad
        omega
      by_cases henough : u32 (avail as) 0 ≤ (avail as).length
      · obtain ⟨as₂, hbody, -⟩ := readLoop_done (show u32 word 0 - 4 - [].length < fuel by
          rw [List.length_nil]; omega) (by simp)
          (show u32 word 0 - 4 - [].length ≤ (avail as₁).length by rw [List.length_nil]; omega)
        have hret : ∃ ret s',
            srReadFromServerExpect junk dispatch fuel expected s as = some (ret, s', as₂) := by
          rw [srReadFromServerExpect, hword]
          simp only [hbad, if_false, hbody]
          split_ifs
          · exact ⟨_, _, rfl⟩
          · exact ⟨_, _, rfl⟩
        obtain ⟨ret, s', hret⟩ := hret
        exact ⟨fuel, ret, s', as₂, hret, fun hno => absurd ⟨hlen, henough⟩ hno⟩
      · -- the message is incomplete, so that a call must fail
        have hfail : .failed ∈ as₁ := by
          refine hfail₁.2 (h.resolve_right ?_)
          rintro ⟨-, hbig | hsmall⟩
          · omega
          · exact henough hsmall
        obtain ⟨as₂, hbody⟩ := readLoop_failed (show (avail as₁).length < fuel by omega)
          (show (avail as₁).length < u32 word 0 - 4 - [].length by rw [List.length_nil]; omega)
          hfail
        refine ⟨fuel, -1, s, as₂, ?_, by simp⟩
        rw [srReadFromServerExpect, hword]
        simp only [hbad, if_false, hbody]
  · have hfail : .failed ∈ as := h.resolve_right fun henough => hlen henough.1
    obtain ⟨as₁, hword⟩ := readLoop_failed (show (avail as).length < fuel by omega)
      (show (avail as).length < 4 - [].length by rw [List.length_nil]; omega) hfail
    refine ⟨fuel, -1, s, as₁, ?_, by simp⟩
    rw [srReadFromServerExpect, hword]

/-- The call does not return if the connection is closed in the middle of a message
and no call fails. -/
lemma srReadFromServerExpect_eq_none (henough : ¬ EnoughFor as) (hfail : .failed ∉ as) (fuel : ℕ) :
    srReadFromServerExpect junk dispatch fuel expected s as = none := by
  rw [srReadFromServerExpect]
  by_cases hlen : 4 ≤ (avail as).length
  · obtain ⟨word, as₁, hword, hval, hlen₁, hfail₁⟩ := readLoop_word hlen
    have hshort : u32 word 0 ≤ 10000 ∧ (avail as).length < u32 word 0 := by
      rw [EnoughFor, not_and, not_or] at henough
      have := henough hlen
      omega
    have hbad : ¬ badLength (u32 word 0) := by
      rw [badLength_iff]
      omega
    by_cases hout : readLoop fuel 4 [] as = .outOfFuel
    · rw [hout]
    · -- with any fuel that is enough the word is the same
      have hdone : readLoop fuel 4 [] as = .done word as₁ := by
        rw [← readLoop_mono 5 hout, hword (fuel + 5) (by omega)]
      have hbody : readLoop fuel (u32 word 0 - 4) [] as₁ = .outOfFuel :=
        readLoop_outOfFuel (by rw [List.length_nil]; omega) fun h => hfail (hfail₁.1 h)
      rw [hdone]
      simp only [hbad, if_false, hbody]
  · rw [readLoop_outOfFuel (by rw [List.length_nil]; omega) hfail]

/-- A call on a connection that is closed at some point ends well if and only if the
bytes were enough for it, or a call failed. -/
theorem read_ends_iff (junk : List UInt8) (dispatch : σ → Message → ℤ × σ) (expected : ℕ) (s : σ)
    (as : List Arrival) :
    EndsWell junk dispatch expected s as ↔ .failed ∈ as ∨ EnoughFor as := by
  constructor
  · rintro ⟨fuel, ret, s', as', hret, -⟩
    by_contra hno
    rw [not_or] at hno
    rw [srReadFromServerExpect_eq_none hno.2 hno.1] at hret
    simp at hret
  · exact endsWell_of_enough

/-- The peer sends the length word and two bytes more, and closes the connection: the
call reads nothing over and over. -/
theorem read_never_ends :
    ¬ EndsWell [] (fun (n : ℕ) (_ : Message) => (1, n)) 0 0 [.data 0 [0, 0, 12, 0, 0]] := by
  rintro ⟨fuel, ret, s', as', hret, -⟩
  have henough : ¬ EnoughFor [.data 0 [0, 0, 12, 0, 0]] := by
    rintro ⟨-, h | h⟩
    · exact absurd h (by decide)
    · exact absurd h (by decide)
  rw [srReadFromServerExpect_eq_none henough (by simp)] at hret
  simp at hret

end SimpleRouter
