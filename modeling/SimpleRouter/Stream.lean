/-
The stream of messages to the server.

`sr_send_packet` writes its message with one call of `write`, which may take less than
the whole message.  It then reports an error, and none of its callers looks at the
result: the next message is written as if nothing had happened.  The stream stays
framed as long as nothing is written behind a message that was cut short.
-/
import SimpleRouter.Codec

namespace SimpleRouter

open Bytes CString Runs

/-! ### Writing -/

/-- What a call of `write` returns. -/
inductive Written where
  /-- -1. -/
  | failed
  /-- The number of bytes that were taken. -/
  | count (k : ℕ)
deriving DecidableEq, Repr

/-- A call of `sr_send_packet` that gets to its `write`, which takes no more than the
message. -/
structure SendCall where
  frame : Frame
  iface : List UInt8
  result : Written
  le : ∀ k, result = .count k → k ≤ (packetMessage frame iface).length

namespace SendCall

/-- The message of the call. -/
def message (c : SendCall) : List UInt8 := packetMessage c.frame c.iface

/-- The number of bytes the server gets. -/
def taken (c : SendCall) : ℕ :=
  match c.result with
  | .failed => 0
  | .count k => k

/-- The end of `sr_send_packet`: what it returns, and what the server has got. -/
def write (stream : List UInt8) (c : SendCall) : ℤ × List UInt8 :=
  match c.result with
  | .failed => (-1, stream)
  | .count k =>
      if k < c.message.length then (-1, stream ++ c.message.take k)
      else (0, stream ++ c.message.take k)

/-- Something is written. -/
def Delivers (c : SendCall) : Prop := 0 < c.taken

instance : DecidablePred Delivers := fun c => inferInstanceAs (Decidable (0 < c.taken))

/-- The whole message is written. -/
def Whole (c : SendCall) : Prop := c.taken = c.message.length

/-- The message is cut short. -/
def Short (c : SendCall) : Prop := c.Delivers ∧ ¬ c.Whole

variable {c : SendCall}

lemma taken_le (c : SendCall) : c.taken ≤ c.message.length := by
  rw [taken]
  cases h : c.result with
  | failed => exact Nat.zero_le _
  | count k => exact c.le k h

lemma write_snd (stream : List UInt8) (c : SendCall) :
    (c.write stream).2 = stream ++ c.message.take c.taken := by
  rw [write, taken]
  cases c.result with
  | failed => simp
  | count k =>
      simp only
      split_ifs <;> rfl

lemma take_of_whole (h : c.Whole) : c.message.take c.taken = c.message := by
  rw [h, List.take_length]

end SendCall

/-- What the server has got after successive calls: no caller looks at the result. -/
def sendAll (stream : List UInt8) (calls : List SendCall) : List UInt8 :=
  calls.foldl (fun stream c => (c.write stream).2) stream

lemma sendAll_eq (stream : List UInt8) (calls : List SendCall) :
    sendAll stream calls
      = stream ++ (calls.filter SendCall.Delivers).flatMap fun c => c.message.take c.taken := by
  induction calls generalizing stream with
  | nil => simp [sendAll]
  | cons c calls ih =>
      have hstep : sendAll stream (c :: calls)
          = sendAll (stream ++ c.message.take c.taken) calls := by
        rw [sendAll, List.foldl_cons, c.write_snd]
        rfl
      rw [hstep, ih]
      by_cases hc : c.Delivers
      · rw [List.filter_cons_of_pos (by simpa using hc), List.flatMap_cons, List.append_assoc]
      · have hzero : c.taken = 0 := by
          rw [SendCall.Delivers] at hc
          omega
        rw [List.filter_cons_of_neg (by simpa using hc), hzero, List.take_zero, List.append_nil]

/-! ### Framing -/

/-- The calls that write something are `full`, which write whole messages, and at most
one more, behind which nothing is written; and the server has got these messages, one
after the other, and what was written of the last one. -/
def Framed (calls : List SendCall) : Prop :=
  ∃ full last, calls.filter SendCall.Delivers = full ++ last ∧ (∀ c ∈ full, c.Whole) ∧
    last.length ≤ 1 ∧
    sendAll [] calls = full.flatMap SendCall.message ++ last.flatMap fun c => c.message.take c.taken

/-- Behind a message that is cut short nothing is written. -/
def StopsWhenShort (calls : List SendCall) : Prop :=
  calls.Pairwise fun c d => c.Short → ¬ d.Delivers

/-- The condition is about the calls that write something. -/
lemma stopsWhenShort_iff {calls : List SendCall} :
    StopsWhenShort calls ↔ (calls.filter SendCall.Delivers).Pairwise fun c _ => c.Whole := by
  rw [StopsWhenShort, List.pairwise_filter]
  refine List.Pairwise.iff ?_
  intro c d
  simp only [decide_eq_true_eq, SendCall.Short]
  tauto

lemma framed_iff_stopsWhenShort (calls : List SendCall) : Framed calls ↔ StopsWhenShort calls := by
  rw [stopsWhenShort_iff]
  constructor
  · rintro ⟨full, last, hsplit, hwhole, hlast, -⟩
    rw [hsplit, List.pairwise_append]
    refine ⟨List.pairwise_of_forall_mem_list ?_, ?_, fun c hc _ _ => hwhole c hc⟩
    · intro c hc _ _
      exact hwhole c hc
    · rcases last with _ | ⟨c, _ | ⟨d, last⟩⟩
      · exact .nil
      · exact List.pairwise_singleton _ _
      · simp at hlast
  · intro h
    have hbytes : ∀ full last, calls.filter SendCall.Delivers = full ++ last →
        (∀ c ∈ full, c.Whole) → sendAll [] calls
          = full.flatMap SendCall.message ++ last.flatMap fun c => c.message.take c.taken := by
      intro full last hsplit hwhole
      have hfull : (full.flatMap fun c => c.message.take c.taken)
          = full.flatMap SendCall.message :=
        List.flatMap_congr fun c hc => SendCall.take_of_whole (hwhole c hc)
      rw [sendAll_eq, hsplit, List.flatMap_append, hfull, List.nil_append]
    -- only the last call that writes something may be cut short
    rcases List.eq_nil_or_concat (calls.filter SendCall.Delivers) with hnil | ⟨full, c, hsplit⟩
    · have hno : ∀ c ∈ ([] : List SendCall), c.Whole := by simp
      exact ⟨[], [], hnil, hno, by simp, hbytes [] [] hnil hno⟩
    · rw [List.concat_eq_append] at hsplit
      rw [hsplit, List.pairwise_append] at h
      have hwhole : ∀ d ∈ full, d.Whole := fun d hd => h.2.2 d hd c (by simp)
      exact ⟨full, [c], hsplit, hwhole, by simp, hbytes full [c] hsplit hwhole⟩

/-! ### The bytes -/

/-- Complete packet messages, and the beginning of one more. -/
def FramedStream (stream : List UInt8) : Prop :=
  ∃ msgs last, stream = List.flatten msgs ++ last ∧ (∀ m ∈ msgs, IsPacketMessage m) ∧
    (last = [] ∨ ∃ m, IsPacketMessage m ∧ last <+: m ∧ last.length < m.length)

/-- Calls that keep the stream framed leave such bytes. -/
lemma Framed.framedStream {calls : List SendCall} (h : Framed calls)
    (hlt : ∀ c ∈ calls, c.frame.length + 24 < 4294967296) : FramedStream (sendAll [] calls) := by
  obtain ⟨full, last, hsplit, -, hlast, hbytes⟩ := h
  have hmem : ∀ c ∈ full ++ last, IsPacketMessage c.message := by
    intro c hc
    rw [← hsplit] at hc
    exact isPacketMessage_packetMessage _ _ (hlt c (List.mem_of_mem_filter hc))
  have hfull : ∀ m ∈ full.map SendCall.message, IsPacketMessage m := by
    intro m hm
    obtain ⟨c, hc, rfl⟩ := List.mem_map.1 hm
    exact hmem c (List.mem_append_left _ hc)
  rcases last with _ | ⟨c, _ | ⟨d, last⟩⟩
  · exact ⟨full.map SendCall.message, [], hbytes, hfull, Or.inl rfl⟩
  · have hc := hmem c (by simp)
    rw [List.flatMap_singleton] at hbytes
    by_cases hwhole : c.Whole
    · refine ⟨(full ++ [c]).map SendCall.message, [], ?_, ?_, Or.inl rfl⟩
      · rw [hbytes, SendCall.take_of_whole hwhole, List.flatMap_def]
        simp
      · intro m hm
        rw [List.map_append, List.mem_append, List.map_singleton, List.mem_singleton] at hm
        rcases hm with hm | rfl
        · exact hfull m hm
        · exact hc
    · have hle := c.taken_le
      refine ⟨full.map SendCall.message, c.message.take c.taken, hbytes, hfull,
        Or.inr ⟨c.message, hc, List.take_prefix _ _, ?_⟩⟩
      rw [List.length_take]
      rw [SendCall.Whole] at hwhole
      omega
  · simp at hlast

/-- The stream is framed if and only if nothing is written behind a message that is cut
short; and then its bytes are packet messages and the beginning of one more, as long as
the lengths of the messages fit into their length words. -/
theorem framed_iff (calls : List SendCall) :
    (Framed calls ↔ StopsWhenShort calls) ∧
      (StopsWhenShort calls → (∀ c ∈ calls, c.frame.length + 24 < 4294967296) →
        FramedStream (sendAll [] calls)) := by
  have hiff := framed_iff_stopsWhenShort calls
  exact ⟨hiff, fun hstops hlt => (hiff.2 hstops).framedStream hlt⟩

lemma FramedStream.command {l : List UInt8} (h : FramedStream l) (hlen : 8 ≤ l.length) :
    u32 l 4 = vnsPacket := by
  obtain ⟨msgs, last, rfl, hmsgs, hlast⟩ := h
  cases msgs with
  | nil =>
      rcases hlast with rfl | ⟨m, hm, ⟨rest, rfl⟩, -⟩
      · simp at hlen
      · have hleft : u32 (last ++ rest) 4 = u32 last 4 := u32_append_left (by simpa using hlen)
        exact hleft.symm.trans hm.command
  | cons m msgs =>
      have hm := hmsgs m List.mem_cons_self
      have hge := hm.ge
      rw [List.flatten_cons, List.append_assoc, u32_append_left (by omega), hm.command]

/-- What is left when the first message is cut off is framed as well. -/
lemma FramedStream.tail {l : List UInt8} (h : FramedStream l) (hlen : 4 ≤ l.length)
    (hword : u32 l 0 ≤ l.length) : FramedStream (l.drop (u32 l 0)) := by
  obtain ⟨msgs, last, rfl, hmsgs, hlast⟩ := h
  cases msgs with
  | nil =>
      rcases hlast with rfl | ⟨m, hm, ⟨rest, rfl⟩, hlt⟩
      · simp at hlen
      · have hleft : u32 (last ++ rest) 0 = u32 last 0 := u32_append_left (by simpa using hlen)
        -- a message that is not complete is longer than the stream
        have hm := hm.word
        rw [List.flatten_nil, List.nil_append] at hword
        omega
  | cons m msgs =>
      have hm := hmsgs m List.mem_cons_self
      have hge := hm.ge
      rw [List.flatten_cons, List.append_assoc, u32_append_left (by omega), hm.word,
        List.drop_left]
      exact ⟨msgs, last, rfl, fun m hm => hmsgs m (List.mem_cons_of_mem _ hm), hlast⟩

/-! ### A session -/

/-- The router answers two ARP requests.  Of the first reply 10 bytes are written, and
then the second one, whole. -/
theorem stream_loses_framing :
    ∃ s es calls, Run Step sampleRouter es s ∧
      calls.map (fun c : SendCall => (c.frame, c.iface)) = sentFrames s.trace ∧
      ¬ Framed calls ∧ ¬ FramedStream (sendAll [] calls) := by
  obtain ⟨s, hrun, hsent⟩ := exists_run_of_leadsTo step_of_ok (s := sampleRouter) (f := step 1)
    (P := fun s => sentFrames s.trace
      = [(sampleArpReply, sampleName 0), (sampleArpReply, sampleName 0)])
    (show leadsTo _ _ [.recv sampleArpRequest (sampleName 0),
      .recv sampleArpRequest (sampleName 0)] _ by decide +kernel)
  have hlen : (packetMessage sampleArpReply (sampleName 0)).length = 66 := by
    rw [length_packetMessage]
    rfl
  refine ⟨s, _, [⟨sampleArpReply, sampleName 0, .count 10, ?_⟩,
    ⟨sampleArpReply, sampleName 0, .count 66, ?_⟩], hrun, ?_, ?_, ?_⟩
  · intro k hk
    rw [Written.count.injEq] at hk
    omega
  · intro k hk
    rw [Written.count.injEq] at hk
    omega
  · rw [of_decide_eq_true hsent]
    rfl
  · rw [framed_iff_stopsWhenShort, StopsWhenShort, List.pairwise_cons]
    rintro ⟨hstop, -⟩
    refine hstop _ (List.mem_singleton_self _) ⟨?_, ?_⟩ ?_
    · exact Nat.succ_pos _
    · intro hwhole
      have hten : 10 = (packetMessage sampleArpReply (sampleName 0)).length := hwhole
      omega
    · exact Nat.succ_pos _
  · -- the length word of the first reply is read, and 10 bytes are left
    intro h
    change FramedStream ((packetMessage sampleArpReply (sampleName 0)).take 10
      ++ (packetMessage sampleArpReply (sampleName 0)).take 66) at h
    have hrest := h.tail (by decide +kernel) (by decide +kernel)
    exact absurd (hrest.command (by decide +kernel)) (by decide +kernel)

end SimpleRouter
