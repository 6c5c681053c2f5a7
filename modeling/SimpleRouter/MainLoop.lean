/-
The main loop.

What the server sends is a stream of bytes, and the loop finds the messages in it by
cutting it at the length words.  `Follows` says what the loop does with the stream, without
the pieces it comes in, the interruptions and the fuel: messages are handled one after the
other until a handler does not return 1, a length is refused, or a message stays incomplete
and a call fails.  If none of this happens the loop does not end.
-/
import SimpleRouter.Session

namespace SimpleRouter

open Bytes

/-! ### The next message -/

/-- What a call finds in the stream. -/
inductive Found where
  /-- There are not enough bytes. -/
  | incomplete
  /-- The length is refused. -/
  | refused
  /-- A message, and what is behind it. -/
  | message (m rest : List UInt8)
deriving DecidableEq, Repr

/-- The beginning of the stream.  The length word is read whatever it says. -/
def nextMessage (l : List UInt8) : Found :=
  if l.length < 4 then .incomplete
  else if 10000 < u32 l 0 then .refused
  else if l.length < u32 l 0 then .incomplete
  else .message (l.take (max 4 (u32 l 0))) (l.drop (max 4 (u32 l 0)))

variable {σ : Type} {junk : List UInt8} {dispatch : σ → Message → ℤ × σ} {s s' : σ}
  {as as' : List Arrival} {l m rest : List UInt8} {fuel readFuel expected : ℕ} {broken : Prop}

lemma nextMessage_of_framable (hm : Framable m) (rest : List UInt8) :
    nextMessage (m ++ rest) = .message m rest := by
  have hge := hm.ge
  have hle := hm.le
  have hword : u32 (m ++ rest) 0 = u32 m 0 := u32_append_left (by omega)
  have hmax : max 4 (u32 m 0) = m.length := by
    rcases hm.word with h | ⟨hsmall, hlen⟩
    · omega
    · omega
  have hbound : u32 m 0 ≤ m.length := by
    rcases hm.word with h | ⟨hsmall, hlen⟩
    · omega
    · omega
  rw [nextMessage, List.length_append, hword, if_neg (by omega), if_neg (by omega),
    if_neg (by omega), hmax, List.take_left, List.drop_left]

/-- Whole messages at the head of a stream are told apart from what follows. -/
lemma framable_append_inj {m' rest' : List UInt8} (hm : Framable m) (hm' : Framable m')
    (h : m ++ rest = m' ++ rest') : m = m' ∧ rest = rest' := by
  have hnext := nextMessage_of_framable hm rest
  rw [h, nextMessage_of_framable hm' rest', Found.message.injEq] at hnext
  exact ⟨hnext.1.symm, hnext.2.symm⟩

lemma framable_of_nextMessage (h : nextMessage l = .message m rest) :
    Framable m ∧ l = m ++ rest := by
  rw [nextMessage] at h
  split_ifs at h with hshort hbig hlong
  obtain ⟨rfl, rfl⟩ := Found.message.inj h
  have hlen : (l.take (max 4 (u32 l 0))).length = max 4 (u32 l 0) := by
    rw [List.length_take]
    omega
  have hword : u32 (l.take (max 4 (u32 l 0))) 0 = u32 l 0 := by
    conv_rhs => rw [← List.take_append_drop (max 4 (u32 l 0)) l]
    rw [u32_append_left (by omega)]
  refine ⟨⟨by omega, by omega, ?_⟩, (List.take_append_drop _ _).symm⟩
  rw [hword, hlen]
  omega

/-- The messages of a stream, `n` at the most. -/
def framed : ℕ → List UInt8 → List (List UInt8)
  | 0, _ => []
  | n + 1, l =>
      match nextMessage l with
      | .message m rest => m :: framed n rest
      | _ => []

/-- Messages that follow each other are messages of the stream. -/
lemma mem_framed {n : ℕ} {msgs : List (List UInt8)} (hmsgs : ∀ m ∈ msgs, Framable m)
    (hn : msgs.length ≤ n) : ∀ m ∈ msgs, m ∈ framed n (msgs.flatten ++ rest) := by
  induction msgs generalizing n with
  | nil => simp
  | cons m msgs ih =>
      obtain ⟨k, rfl⟩ := Nat.exists_eq_add_of_le' (show 1 ≤ n by rw [List.length_cons] at hn; omega)
      have hm := hmsgs m (by simp)
      have hrest := ih (fun m' hm' => hmsgs m' (List.mem_cons_of_mem _ hm'))
        (show msgs.length ≤ k by rw [List.length_cons] at hn; omega)
      have hframed : framed (k + 1) ((m :: msgs).flatten ++ rest)
          = m :: framed k (msgs.flatten ++ rest) := by
        rw [List.flatten_cons, List.append_assoc, framed, nextMessage_of_framable hm]
      intro m' hm'
      rw [hframed]
      rcases List.mem_cons.1 hm' with rfl | hm'
      · exact List.mem_cons_self
      · exact List.mem_cons_of_mem _ (hrest m' hm')

/-- There are no more messages than bytes. -/
lemma length_le_flatten {msgs : List (List UInt8)} (hmsgs : ∀ m ∈ msgs, Framable m) :
    msgs.length ≤ msgs.flatten.length := by
  induction msgs with
  | nil => simp
  | cons m msgs ih =>
      have hm := (hmsgs m (by simp)).ge
      have hrest := ih fun m' hm' => hmsgs m' (List.mem_cons_of_mem _ hm')
      rw [List.flatten_cons, List.length_append, List.length_cons]
      omega

lemma not_enoughFor_iff : ¬ EnoughFor as ↔ nextMessage (avail as) = .incomplete := by
  rw [EnoughFor, nextMessage]
  split_ifs with hshort hbig hlong
  · simp only [iff_true]
    omega
  · simp only [iff_false, not_not]
    omega
  · simp only [iff_true]
    omega
  · simp only [iff_false, not_not]
    omega

/-! ### A call -/

/-- More fuel does not change what a call returns. -/
lemma srReadFromServerExpect_mono (k : ℕ) {r : ℤ × σ × List Arrival}
    (h : srReadFromServerExpect junk dispatch fuel expected s as = some r) :
    srReadFromServerExpect junk dispatch (fuel + k) expected s as = some r := by
  rw [srReadFromServerExpect] at h ⊢
  have hword : readLoop fuel 4 [] as ≠ .outOfFuel := by
    intro hout
    simp [hout] at h
  rw [readLoop_mono k hword]
  cases hdone : readLoop fuel 4 [] as with
  | outOfFuel => exact absurd hdone hword
  | failed as₁ =>
      rw [hdone] at h
      exact h
  | done word as₁ =>
      simp only [hdone] at h ⊢
      by_cases hbad : badLength (u32 word 0)
      · rw [if_pos hbad] at h ⊢
        exact h
      · rw [if_neg hbad] at h ⊢
        have hbody : readLoop fuel (u32 word 0 - 4) [] as₁ ≠ .outOfFuel := by
          intro hout
          simp [hout] at h
        rw [readLoop_mono k hbody]
        exact h

/-- A message that is there is dispatched. -/
lemma srReadFromServer_message (junk : List UInt8) (dispatch : σ → Message → ℤ × σ) (s : σ)
    (hnext : nextMessage (avail as) = .message m rest) (hfuel : 10000 < fuel) :
    ∃ as', avail as' = rest ∧ (.failed ∈ as' ↔ .failed ∈ as) ∧
      srReadFromServer junk dispatch fuel s as
        = some ((dispatch s ⟨u32 (m ++ junk) 4, m⟩).1, (dispatch s ⟨u32 (m ++ junk) 4, m⟩).2, as') := by
  obtain ⟨hm, havail⟩ := framable_of_nextMessage hnext
  have hge := hm.ge
  have hle := hm.le
  have hlen : (avail as).length = m.length + rest.length := by rw [havail, List.length_append]
  obtain ⟨as₁, hword, havail₁, hfail₁⟩ := readLoop_done
    (show 4 - [].length < fuel by rw [List.length_nil]; omega) (by simp)
    (show 4 - [].length ≤ (avail as).length by rw [List.length_nil]; omega)
  have htake : (avail as).take 4 = m.take 4 := by
    rw [havail, List.take_append_of_le_length hge]
  have hdrop : avail as₁ = m.drop 4 ++ rest := by
    rw [havail₁, havail, List.length_nil, List.drop_append_of_le_length hge]
  have hval : u32 (m.take 4) 0 = u32 m 0 := by
    conv_rhs => rw [← List.take_append_drop 4 m]
    rw [u32_append_left (by rw [List.length_take]; omega)]
  -- the second loop reads what the first has left of the message
  have hbody : u32 m 0 - 4 = (m.drop 4).length := by
    rw [List.length_drop]
    rcases hm.word with h | ⟨hsmall, hfour⟩
    · omega
    · omega
  obtain ⟨as₂, hread, havail₂, hfail₂⟩ := readLoop_done
    (show u32 m 0 - 4 - [].length < fuel by
      rw [List.length_nil, hbody, List.length_drop]
      omega) (by simp)
    (show u32 m 0 - 4 - [].length ≤ (avail as₁).length by
      rw [List.length_nil, hbody, hdrop, List.length_append]
      omega)
  rw [List.length_nil, Nat.sub_zero, hbody, hdrop, List.take_left, List.nil_append] at hread
  rw [List.length_nil, Nat.sub_zero, hbody, hdrop, List.drop_left] at havail₂
  rw [List.length_nil, Nat.sub_zero, htake, List.nil_append] at hword
  refine ⟨as₂, havail₂, hfail₂.trans hfail₁, ?_⟩
  rw [srReadFromServer, srReadFromServerExpect, hword]
  simp only [hval, hbody, hread, List.take_append_drop, ne_eq, not_true_eq_false, false_and,
    if_false]
  rw [if_neg]
  rw [badLength_iff]
  rcases hm.word with h | ⟨hsmall, -⟩
  · omega
  · omega

/-- What a call returns depends on the bytes alone. -/
lemma srReadFromServer_eq_some {ret : ℤ}
    (h : srReadFromServer junk dispatch fuel s as = some (ret, s', as')) :
    (∀ m rest, nextMessage (avail as) = .message m rest →
      dispatch s ⟨u32 (m ++ junk) 4, m⟩ = (ret, s') ∧ avail as' = rest ∧
        (.failed ∈ as' ↔ .failed ∈ as)) ∧
      ((∀ m rest, nextMessage (avail as) ≠ .message m rest) → ret = -1 ∧ s' = s) := by
  constructor
  · intro m rest hnext
    obtain ⟨as₁, havail, hfail, hcall⟩ := srReadFromServer_message junk dispatch s hnext
      (show 10000 < fuel + 10001 by omega)
    rw [srReadFromServer, srReadFromServerExpect_mono 10001 h, Option.some.injEq,
      Prod.mk.injEq, Prod.mk.injEq] at hcall
    obtain ⟨rfl, rfl, rfl⟩ := hcall
    exact ⟨rfl, havail, hfail⟩
  · intro hno
    rcases srReadFromServerExpect_inv h with hret | ⟨m, hm, havail, -⟩
    · exact hret
    · exact absurd (by rw [havail]; exact nextMessage_of_framable hm _) (hno m (avail as'))

/-- A call returns if there is something for it, or if a call of the library fails. -/
lemma exists_srReadFromServer_iff :
    (∃ fuel r, srReadFromServer junk dispatch fuel s as = some r) ↔
      .failed ∈ as ∨ nextMessage (avail as) ≠ .incomplete := by
  constructor
  · rintro ⟨fuel, r, hcall⟩
    by_contra hno
    push Not at hno
    rw [srReadFromServer, srReadFromServerExpect_eq_none (not_enoughFor_iff.2 hno.2) hno.1] at hcall
    simp at hcall
  · intro h
    rw [Ne, ← not_enoughFor_iff, not_not] at h
    obtain ⟨fuel, ret, s', as', hcall, -⟩ :=
      show EndsWell junk dispatch 0 s as from endsWell_of_enough h
    exact ⟨fuel, (ret, s', as'), hcall⟩

/-! ### The loop -/

/-- What the loop does with the stream `l`, if it ends: `s'` is the state then.  `broken`
says that a call fails at some point. -/
inductive Follows (junk : List UInt8) (dispatch : σ → Message → ℤ × σ) (broken : Prop) :
    σ → List UInt8 → σ → Prop
  /-- The length of the next message is refused. -/
  | refused {s : σ} {l : List UInt8} (h : nextMessage l = .refused) :
      Follows junk dispatch broken s l s
  /-- The next message does not come. -/
  | broken {s : σ} {l : List UInt8} (h : nextMessage l = .incomplete) (hb : broken) :
      Follows junk dispatch broken s l s
  /-- The handler of the next message does not return 1. -/
  | last {s s' : σ} {l m rest : List UInt8} {ret : ℤ} (h : nextMessage l = .message m rest)
      (hdisp : dispatch s ⟨u32 (m ++ junk) 4, m⟩ = (ret, s')) (hret : ret ≠ 1) :
      Follows junk dispatch broken s l s'
  /-- It returns 1, and the loop goes on. -/
  | next {s s₁ s' : σ} {l m rest : List UInt8} (h : nextMessage l = .message m rest)
      (hdisp : dispatch s ⟨u32 (m ++ junk) 4, m⟩ = (1, s₁))
      (hrest : Follows junk dispatch broken s₁ rest s') : Follows junk dispatch broken s l s'

/-- The loop ends after `fuel` calls at the most, each of which has `readFuel`. -/
lemma mainLoop_succ_eq_some (readFuel fuel : ℕ) {r : σ × List Arrival} :
    mainLoop junk dispatch readFuel (fuel + 1) s as = some r ↔
      ∃ ret s₁ as₁, srReadFromServer junk dispatch readFuel s as = some (ret, s₁, as₁) ∧
        (ret = 1 ∧ mainLoop junk dispatch readFuel fuel s₁ as₁ = some r ∨ ret ≠ 1 ∧ (s₁, as₁) = r) := by
  rw [mainLoop]
  cases srReadFromServer junk dispatch readFuel s as with
  | none => simp
  | some p =>
      obtain ⟨ret, s₁, as₁⟩ := p
      simp only [Option.some.injEq, Prod.mk.injEq]
      by_cases hret : ret = 1
      · rw [if_pos hret]
        constructor
        · intro h
          exact ⟨ret, s₁, as₁, ⟨rfl, rfl, rfl⟩, Or.inl ⟨hret, h⟩⟩
        · rintro ⟨ret', s', as', ⟨rfl, rfl, rfl⟩, ⟨-, h⟩ | ⟨hne, -⟩⟩
          · exact h
          · exact absurd hret hne
      · rw [if_neg hret]
        constructor
        · intro h
          exact ⟨ret, s₁, as₁, ⟨rfl, rfl, rfl⟩, Or.inr ⟨hret, Option.some.inj h⟩⟩
        · rintro ⟨ret', s', as', ⟨rfl, rfl, rfl⟩, ⟨hone, -⟩ | ⟨-, h⟩⟩
          · exact absurd hone hret
          · rw [h]

/-- More fuel for the calls does not change how the loop ends. -/
lemma mainLoop_mono (k : ℕ) {r : σ × List Arrival}
    (h : mainLoop junk dispatch readFuel fuel s as = some r) :
    mainLoop junk dispatch (readFuel + k) fuel s as = some r := by
  induction fuel generalizing s as with
  | zero => simp [mainLoop] at h
  | succ fuel ih =>
      rw [mainLoop_succ_eq_some] at h ⊢
      obtain ⟨ret, s₁, as₁, hcall, hrest⟩ := h
      refine ⟨ret, s₁, as₁, srReadFromServerExpect_mono k hcall, ?_⟩
      exact hrest.imp_left fun h => ⟨h.1, ih h.2⟩

lemma follows_of_mainLoop (h : mainLoop junk dispatch readFuel fuel s as = some (s', as')) :
    Follows junk dispatch (.failed ∈ as) s (avail as) s' := by
  induction fuel generalizing s as with
  | zero => simp [mainLoop] at h
  | succ fuel ih =>
      obtain ⟨ret, s₁, as₁, hcall, hrest⟩ := (mainLoop_succ_eq_some _ _).1 h
      obtain ⟨hmessage, hnone⟩ := srReadFromServer_eq_some hcall
      cases hnext : nextMessage (avail as) with
      | message m rest =>
          obtain ⟨hdisp, havail, hfail⟩ := hmessage m rest hnext
          rcases hrest with ⟨rfl, hrest⟩ | ⟨hret, hend⟩
          · have hfollows := ih hrest
            rw [havail, propext hfail] at hfollows
            exact .next hnext hdisp hfollows
          · obtain ⟨rfl, -⟩ := Prod.mk.inj hend
            exact .last hnext hdisp hret
      | incomplete =>
          obtain ⟨rfl, rfl⟩ := hnone (by simp [hnext])
          have hfail := (exists_srReadFromServer_iff.1 ⟨_, _, hcall⟩).resolve_right
            (by simp [hnext])
          obtain ⟨rfl, -⟩ := Prod.mk.inj (hrest.resolve_left (by simp)).2
          exact .broken hnext hfail
      | refused =>
          obtain ⟨rfl, rfl⟩ := hnone (by simp [hnext])
          obtain ⟨rfl, -⟩ := Prod.mk.inj (hrest.resolve_left (by simp)).2
          exact .refused hnext

lemma exists_mainLoop_of_follows (hbroken : broken → .failed ∈ as) (havail : avail as = l)
    (h : Follows junk dispatch broken s l s') :
    ∃ readFuel fuel as', mainLoop junk dispatch readFuel fuel s as = some (s', as') := by
  -- a call that finds no message ends the loop
  have hends : ∀ (s : σ) as, (.failed ∈ as ∨ nextMessage (avail as) ≠ .incomplete) →
      (∀ m rest, nextMessage (avail as) ≠ .message m rest) →
      ∃ readFuel fuel as', mainLoop junk dispatch readFuel fuel s as = some (s, as') := by
    intro s as hreturns hno
    obtain ⟨fuel, ⟨ret, s₁, as₁⟩, hcall⟩ := exists_srReadFromServer_iff.2 hreturns
    obtain ⟨rfl, rfl⟩ := (srReadFromServer_eq_some hcall).2 hno
    exact ⟨fuel, 1, as₁, (mainLoop_succ_eq_some _ _).2 ⟨_, _, _, hcall, Or.inr ⟨by simp, rfl⟩⟩⟩
  induction h generalizing as with
  | refused h =>
      subst havail
      exact hends _ as (Or.inr (by simp [h])) (by simp [h])
  | broken h hb =>
      subst havail
      exact hends _ as (Or.inl (hbroken hb)) (by simp [h])
  | last h hdisp hret =>
      subst havail
      obtain ⟨as₁, -, -, hcall⟩ := srReadFromServer_message junk dispatch _ h
        (show 10000 < 10001 by omega)
      rw [hdisp] at hcall
      exact ⟨10001, 1, as₁, (mainLoop_succ_eq_some _ _).2 ⟨_, _, _, hcall, Or.inr ⟨hret, rfl⟩⟩⟩
  | next h hdisp hrest ih =>
      subst havail
      obtain ⟨as₁, havail, hfail, hcall⟩ := srReadFromServer_message junk dispatch _ h
        (show 10000 < 10001 by omega)
      rw [hdisp] at hcall
      obtain ⟨readFuel, fuel, as', hloop⟩ := ih (fun hb => hfail.2 (hbroken hb)) havail
      refine ⟨10001 + readFuel, fuel + 1, as', (mainLoop_succ_eq_some _ _).2
        ⟨_, _, _, srReadFromServerExpect_mono readFuel hcall, Or.inl ⟨rfl, ?_⟩⟩⟩
      rw [Nat.add_comm]
      exact mainLoop_mono 10001 hloop

/-- How the loop ends depends on the bytes that arrive, and on whether a call fails at some
point: it ends if `Follows` says so, in the state that `Follows` says.  Otherwise it does
not end. -/
theorem mainLoop_ends_iff (junk : List UInt8) (dispatch : σ → Message → ℤ × σ) (s s' : σ)
    (as : List Arrival) :
    (∃ readFuel fuel as', mainLoop junk dispatch readFuel fuel s as = some (s', as')) ↔
      Follows junk dispatch (.failed ∈ as) s (avail as) s' := by
  constructor
  · rintro ⟨readFuel, fuel, as', h⟩
    exact follows_of_mainLoop h
  · exact exists_mainLoop_of_follows id rfl

end SimpleRouter
