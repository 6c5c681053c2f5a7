/-
The main loop, played back.

Seen from the router, a session is a run of events: `Played` says which.  A frame that is
handed over is an event, and so are hardware information, the passes of the thread of the
ARP cache and the time that goes by.  What is known about such runs is therefore known about
the program, whatever the server sends and in whatever pieces it arrives.

The log tells the frames of the run, those that were handed over and those that were sent,
in the order in which it happened.
-/
import SimpleRouter.Program

namespace SimpleRouter

open Bytes CString Runs

variable {h : Host} {o : Options} {fuel readFuel n : ℕ} {s s' s₁ s₂ : Session} {st st' : LoopState}
  {r r' r₁ r₂ : Router} {m : Message} {ms : List Message} {es : List SessionEvent} {ret : ℤ}
  {l : List UInt8} {ls : List Logged} {as as' : List Arrival} {broken : Prop}

/-! ### What is logged -/

/-- A frame that was logged. -/
inductive Logged where
  | received (frame : Frame)
  | sent (frame : Frame)
deriving DecidableEq, Repr

namespace Logged

def frame : Logged → Frame
  | received frame => frame
  | sent frame => frame

def receivedFrame : Logged → Option Frame
  | received frame => some frame
  | sent _ => none

def sentFrame : Logged → Option Frame
  | received _ => none
  | sent frame => some frame

/-- What lies behind the frame in memory. -/
def behind (h : Host) : Logged → List UInt8
  | received _ => h.world.junk
  | sent _ => []

/-- The log with one more frame. -/
def add (h : Host) (g : Log) (l : Logged) : Log := g.add h (l.frame ++ l.behind h) l.frame.length

end Logged

/-- The frame that is logged when a message arrives. -/
def receivedFrames (junk : List UInt8) (s : Router) (m : Message) : List Frame :=
  if HandsOver s junk m then [messageFrame junk m.bytes] else []

/-- The frames that are logged for a message and the pause before it; `s`, `s₁` and `s₂` are
the states before the pause, before the message and behind it. -/
def loggedFor (h : Host) (s s₁ s₂ : Router) (m : Message) : List Logged :=
  (loggedFrames (observed s s₁)).map .sent
    ++ ((receivedFrames h.world.junk s₁ m).map .received
      ++ (loggedFrames (observed s₁ s₂)).map .sent)

/-- The events of a pause. -/
def pauseEvents (h : Host) (n : ℕ) : List SessionEvent :=
  (h.pauses n).map fun p => .data p.event

/-- The messages and the pauses before them, played to the router: the events, and the frames
that are logged. -/
inductive Played (h : Host) :
    ℕ → Router → List Message → List SessionEvent → List Logged → Router → Prop
  | nil {n : ℕ} {s : Router} : Played h n s [] [] [] s
  | cons {n : ℕ} {s s₁ s₂ s' : Router} {m : Message} {ms : List Message} {es : List SessionEvent}
      {ls : List Logged} (hpause : Run Step s ((h.pauses n).map Pause.event) s₁)
      (hmessage : Run SessionStep s₁ (messageEvents h.world.junk s₁ m) s₂)
      (hrest : Played h (n + 1) s₂ ms es ls s') :
      Played h n s (m :: ms) (pauseEvents h n ++ (messageEvents h.world.junk s₁ m ++ es))
        (loggedFor h s s₁ s₂ m ++ ls) s'
  /-- The interfaces do not fit the routes, and the session ends. -/
  | unfit {n : ℕ} {s s₁ s' : Router} {m : Message}
      (hpause : Run Step s ((h.pauses n).map Pause.event) s₁) (hunfit : Unfit s₁ m s') :
      Played h n s [m] (pauseEvents h n) ((loggedFrames (observed s s₁)).map .sent) s'

/-! ### One message -/

/-- A call that leaves the session alive. -/
lemma loopDispatch_cases (hs : st.session = .ok s) (h' : loopDispatch h fuel st m = (ret, st')) :
    (ret = -1 ∧ ∃ e, st'.session = .error e) ∨
      ∃ router s₁, pauseRouter fuel s.router (h.pauses st.handled) = .ok router ∧
        serverSwitch h.world fuel { s with router := router } m = .ok (ret, s₁) ∧
        st' = ⟨st.handled + 1, .ok s₁,
          ((st.log.sent h s.router router).received h router m).sent h router s₁.router⟩ := by
  rw [loopDispatch] at h'
  simp only [hs] at h'
  cases hpause : pauseRouter fuel s.router (h.pauses st.handled) with
  | error f =>
      simp only [hpause, Prod.mk.injEq] at h'
      obtain ⟨rfl, rfl⟩ := h'
      exact Or.inl ⟨rfl, _, rfl⟩
  | ok router =>
      cases hswitch : serverSwitch h.world fuel { s with router := router } m with
      | error e =>
          simp only [hpause, hswitch, Prod.mk.injEq] at h'
          obtain ⟨rfl, rfl⟩ := h'
          exact Or.inl ⟨rfl, _, rfl⟩
      | ok p =>
          obtain ⟨ret₁, s₁⟩ := p
          simp only [hpause, hswitch, Prod.mk.injEq] at h'
          obtain ⟨rfl, rfl⟩ := h'
          exact Or.inr ⟨router, s₁, rfl, hswitch, rfl⟩

lemma run_of_pauseRouter {pauses : List Pause} (h : pauseRouter fuel r pauses = .ok r') :
    Run Step r (pauses.map Pause.event) r' :=
  run_of_runWith step_of_ok h

/-- The messages whose frames have room for their header. -/
def LongEnough (m : Message) : Prop :=
  m.command = vnsPacket → 24 ≤ m.bytes.length ∧ m.bytes.length ≤ 10000

/-- The log with more frames. -/
def Log.play (h : Host) (g : Log) (ls : List Logged) : Log := ls.foldl (Logged.add h) g

lemma Log.play_append (h : Host) (g : Log) (ls ls' : List Logged) :
    g.play h (ls ++ ls') = (g.play h ls).play h ls' := List.foldl_append

lemma Log.sent_eq (h : Host) (g : Log) (r r' : Router) :
    g.sent h r r' = g.play h ((loggedFrames (observed r r')).map .sent) := by
  rw [Log.sent, Log.play, List.foldl_map]
  refine List.foldl_ext _ _ _ fun g frame _ => ?_
  rw [Logged.add, Logged.frame, Logged.behind, List.append_nil]

lemma Log.received_eq (g : Log) (r : Router) (hm : LongEnough m) :
    g.received h r m = g.play h ((receivedFrames h.world.junk r m).map .received) := by
  rw [Log.received, receivedFrames]
  split_ifs with hover
  · obtain ⟨hge, hle⟩ := hm hover.1
    have hframe : messageFrame h.world.junk m.bytes = m.bytes.drop 24 := take_packetArgs hge hle
    have hpacket : (packetArgs h.world.junk m.bytes).packet = m.bytes.drop 24 ++ h.world.junk :=
      List.drop_append_of_le_length hge
    have hlen : logLen m.bytes.length = ((m.bytes.drop 24).length : ℤ) := by
      rw [logLen_eq hle, List.length_drop]
      omega
    rw [hframe, hpacket, hlen]
    rfl
  · rfl

/-- What is logged for a message and the pause before it. -/
lemma Log.message_eq (g : Log) (r r₁ r₂ : Router) (hm : LongEnough m) :
    ((g.sent h r r₁).received h r₁ m).sent h r₁ r₂ = g.play h (loggedFor h r r₁ r₂ m) := by
  rw [Log.sent_eq, Log.received_eq _ _ hm, Log.sent_eq, loggedFor, Log.play_append, Log.play_append]

lemma observed_of_trace (h : r'.trace = r.trace) : observed r r' = [] := by
  rw [observed, h, List.drop_length]

/-- What a call that leaves the session alive does to the router and to the log. -/
lemma loopDispatch_played (hs : st.session = .ok s) (hs' : st'.session = .ok s')
    (hd : loopDispatch h fuel st m = (ret, st')) :
    st'.handled = st.handled + 1 ∧ ∃ r₁,
      Run Step s.router ((h.pauses st.handled).map Pause.event) r₁ ∧
      (Run SessionStep r₁ (messageEvents h.world.junk r₁ m) s'.router ∧
          (LongEnough m → st'.log = st.log.play h (loggedFor h s.router r₁ s'.router m)) ∨
        ret = -1 ∧ Unfit r₁ m s'.router ∧
          st'.log = st.log.play h ((loggedFrames (observed s.router r₁)).map .sent)) := by
  rcases loopDispatch_cases hs hd with ⟨-, e, he⟩ | ⟨r₁, s₁, hpause, hswitch, rfl⟩
  · rw [he] at hs'
    simp at hs'
  obtain rfl := Except.ok.inj hs'
  refine ⟨rfl, r₁, run_of_pauseRouter hpause, ?_⟩
  rcases (serverSwitch_cases hswitch).router with hrun | ⟨hret, hunfit⟩
  · exact Or.inl ⟨hrun, Log.message_eq st.log s.router r₁ s₁.router⟩
  · refine Or.inr ⟨hret, hunfit, ?_⟩
    have htrace := (srHandleHwinfo_requests hunfit.hwinfo).2.2
    have hpacket : ¬ HandsOver r₁ h.world.junk m := by
      rintro ⟨hpacket, -⟩
      rw [hunfit.command] at hpacket
      exact absurd hpacket (by decide)
    simp only [Log.received, if_neg hpacket]
    rw [Log.sent, observed_of_trace htrace]
    exact Log.sent_eq h st.log s.router r₁

/-! ### All messages -/

/-- Messages, with the commands that the loop finds in them. -/
def commanded (junk : List UInt8) (msgs : List (List UInt8)) : List Message :=
  msgs.map fun m => ⟨u32 (m ++ junk) 4, m⟩

/-- What the loop does with a stream is to play the messages at the beginning of it. -/
lemma played_of_follows (hf : Follows h.world.junk (loopDispatch h fuel) broken st l st')
    (hs : st.session = .ok s) (hs' : st'.session = .ok s') :
    ∃ msgs rest es ls, l = msgs.flatten ++ rest ∧ (∀ m ∈ msgs, Framable m) ∧
      Played h st.handled s.router (commanded h.world.junk msgs) es ls s'.router ∧
      ((∀ m ∈ commanded h.world.junk msgs, LongEnough m) → st'.log = st.log.play h ls) := by
  induction hf generalizing s with
  | refused hnext =>
      obtain rfl := Except.ok.inj (hs.symm.trans hs')
      exact ⟨[], _, [], [], rfl, by simp, .nil, fun _ => rfl⟩
  | broken hnext hb =>
      obtain rfl := Except.ok.inj (hs.symm.trans hs')
      exact ⟨[], _, [], [], rfl, by simp, .nil, fun _ => rfl⟩
  | @last st st' l m rest ret hnext hdisp hret =>
      obtain ⟨hm, rfl⟩ := framable_of_nextMessage hnext
      obtain ⟨-, r₁, hpause, ⟨hrun, hlog⟩ | ⟨-, hunfit, hlog⟩⟩ := loopDispatch_played hs hs' hdisp
      · refine ⟨[m], rest, _, _, by simp, by simpa using hm, .cons hpause hrun .nil, ?_⟩
        intro hlong
        rw [List.append_nil]
        exact hlog (hlong _ (by simp [commanded]))
      · exact ⟨[m], rest, _, _, by simp, by simpa using hm, .unfit hpause hunfit, fun _ => hlog⟩
  | @next st st₁ st' l m rest hnext hdisp hrest ih =>
      obtain ⟨hm, rfl⟩ := framable_of_nextMessage hnext
      obtain ⟨s₁, hs₁⟩ : ∃ s₁, st₁.session = .ok s₁ := by
        rcases loopDispatch_cases hs hdisp with ⟨hret, -⟩ | ⟨r₁, s₁, -, -, rfl⟩
        · simp at hret
        · exact ⟨s₁, rfl⟩
      obtain ⟨hhandled, r₁, hpause, ⟨hrun, hlog⟩ | ⟨hret, -⟩⟩ := loopDispatch_played hs hs₁ hdisp
      · obtain ⟨msgs, rest, es, ls, rfl, hmsgs, hplayed, hlogs⟩ := ih hs₁ hs'
        rw [hhandled] at hplayed
        refine ⟨m :: msgs, rest, _, _, by simp, by simpa using ⟨hm, hmsgs⟩,
          .cons hpause hrun hplayed, ?_⟩
        intro hlong
        rw [Log.play_append, ← hlog (hlong _ (by simp [commanded]))]
        exact hlogs fun m' hm' => hlong m' (List.mem_cons_of_mem _ hm')
      · simp at hret

/-! ### Events -/

/-- The interfaces did not fit the routes when the session ended. -/
def EndsUnfit (ms : List Message) (r r' : Router) : Prop := ∃ m, ms.getLast? = some m ∧ Unfit r m r'

lemma run_of_pauses {pauses : List Pause} (h : Run Step r (pauses.map Pause.event) r') :
    Run SessionStep r (pauses.map fun p => .data p.event) r' := by
  induction pauses generalizing r with
  | nil =>
      cases h
      exact .nil _
  | cons p pauses ih =>
      cases h with
      | cons hstep hrest => exact .cons hstep (ih hrest)

/-- What was played is a run, perhaps up to the message that ended the session. -/
lemma Played.run (hp : Played h n r ms es ls r') :
    Run SessionStep r es r' ∨ ∃ r₁, Run SessionStep r es r₁ ∧ EndsUnfit ms r₁ r' := by
  induction hp with
  | nil => exact Or.inl (.nil _)
  | @cons n r r₁ r₂ r' m ms es ls hpause hmessage hrest ih =>
      have hbefore := (run_of_pauses hpause).append hmessage
      rw [← List.append_assoc]
      rcases ih with hrun | ⟨r₃, hrun, m', hlast, hunfit⟩
      · exact Or.inl (hbefore.append hrun)
      · refine Or.inr ⟨r₃, hbefore.append hrun, m', ?_, hunfit⟩
        rw [List.getLast?_cons, hlast, Option.getD_some]
  | @unfit n r r₁ r' m hpause hunfit =>
      exact Or.inr ⟨r₁, run_of_pauses hpause, m, rfl, hunfit⟩

/-! ### Frames -/

/-- The observation is not the rejection of a frame. -/
def Accepted (o : Obs) : Prop := ∀ origin iface f v, o = .sent origin iface f v → v = .passed

/-- The trace has grown, and no frame was rejected. -/
def Grows (r r' : Router) (new : List (ℕ × Obs)) : Prop :=
  r'.trace = r.trace ++ new ∧ ∀ o ∈ new, Accepted o.2

lemma Grows.trans {r₁ r₂ r₃ : Router} {new new' : List (ℕ × Obs)} (h : Grows r₁ r₂ new)
    (h' : Grows r₂ r₃ new') : Grows r₁ r₃ (new ++ new') := by
  refine ⟨by rw [h'.1, h.1, List.append_assoc], fun o ho => ?_⟩
  rcases List.mem_append.1 ho with ho | ho
  · exact h.2 o ho
  · exact h'.2 o ho

lemma Grows.of_trace (h : r'.trace = r.trace) : Grows r r' [] :=
  ⟨by rw [h, List.append_nil], by simp⟩

lemma SessionStep.grows {e : SessionEvent} (h : SessionStep r e r') (hr : SessionOk r) :
    SessionOk r' ∧ ∃ new, Grows r r' new := by
  refine ⟨h.sessionOk hr, ?_⟩
  cases e with
  | hwinfo entries =>
      exact ⟨[], .of_trace (srHandleHwinfo_requests (hwinfo_of_sessionStep h)).2.2⟩
  | data e =>
      obtain ⟨-, -, -, new, htrace, hnew⟩ := Step.gateOk (e := e) h hr
      exact ⟨new, htrace, fun o ho origin iface f v hsent =>
        (hnew o ho origin iface f v hsent).2.2⟩

lemma grows_of_run (h : Run SessionStep r es r') (hr : SessionOk r) :
    SessionOk r' ∧ ∃ new, Grows r r' new := by
  refine h.invariant (I := fun t => SessionOk t ∧ ∃ new, Grows r t new) ?_
    ⟨hr, [], .of_trace rfl⟩
  rintro t e u - ⟨ht, new, hgrows⟩ hst
  obtain ⟨hu, new', hgrows'⟩ := hst.grows ht
  exact ⟨hu, new ++ new', hgrows.trans hgrows'⟩

/-- What is logged of frames that are not rejected is what is sent. -/
lemma loggedFrames_of_accepted {obs : List (ℕ × Obs)} (h : ∀ o ∈ obs, Accepted o.2) :
    loggedFrames obs = (sentFrames obs).map Prod.fst := by
  induction obs with
  | nil => rfl
  | cons o obs ih =>
      have hrest := ih fun o' ho' => h o' (List.mem_cons_of_mem _ ho')
      obtain ⟨t, o⟩ := o
      cases o with
      | sent origin iface f v =>
          obtain rfl := h _ List.mem_cons_self origin iface f v rfl
          rw [sentFrames_cons_passed, List.map_cons, ← hrest]
          rfl
      | _ => exact hrest

lemma Grows.logged {new : List (ℕ × Obs)} (h : Grows r r' new) :
    loggedFrames (observed r r') = (sentFrames new).map Prod.fst := by
  rw [observed, h.1, List.drop_left, loggedFrames_of_accepted h.2]

lemma filterMap_sentFrame (fs : List Frame) :
    (fs.map Logged.sent).filterMap Logged.sentFrame = fs := by
  rw [List.filterMap_map]
  exact List.filterMap_some

lemma filterMap_receivedFrame (fs : List Frame) :
    (fs.map Logged.received).filterMap Logged.receivedFrame = fs := by
  rw [List.filterMap_map]
  exact List.filterMap_some

lemma sentFrame_received (fs : List Frame) :
    (fs.map Logged.received).filterMap Logged.sentFrame = [] := by
  rw [List.filterMap_map]
  exact List.filterMap_eq_nil_iff.2 fun _ _ => rfl

lemma receivedFrame_sent (fs : List Frame) :
    (fs.map Logged.sent).filterMap Logged.receivedFrame = [] := by
  rw [List.filterMap_map]
  exact List.filterMap_eq_nil_iff.2 fun _ _ => rfl

lemma arrived_pauseEvents (h : Host) (n : ℕ) :
    (pauseEvents h n).filterMap SessionEvent.arrived = [] := by
  rw [pauseEvents, List.filterMap_map]
  refine List.filterMap_eq_nil_iff.2 fun p _ => ?_
  cases p with
  | sweep => rfl
  | tick d => rfl

lemma arrived_messageEvents (junk : List UInt8) (r : Router) (m : Message) :
    (messageEvents junk r m).filterMap SessionEvent.arrived = receivedFrames junk r m := by
  rw [messageEvents, receivedFrames]
  split_ifs
  · rfl
  · rfl
  · rfl

/-- The frames that are logged are those that were handed over and those that were sent. -/
lemma Played.frames (hp : Played h n r ms es ls r') (hr : SessionOk r) :
    ∃ new, Grows r r' new ∧
      ls.filterMap Logged.sentFrame = (sentFrames new).map Prod.fst ∧
      ls.filterMap Logged.receivedFrame = es.filterMap SessionEvent.arrived := by
  induction hp with
  | nil => exact ⟨[], .of_trace rfl, rfl, rfl⟩
  | @cons n r r₁ r₂ r' m ms es ls hpause hmessage hrest ih =>
      obtain ⟨hr₁, new₁, hgrows₁⟩ := grows_of_run (run_of_pauses hpause) hr
      obtain ⟨hr₂, new₂, hgrows₂⟩ := grows_of_run hmessage hr₁
      obtain ⟨new, hgrows, hsent, hreceived⟩ := ih hr₂
      refine ⟨_, hgrows₁.trans (hgrows₂.trans hgrows), ?_, ?_⟩
      · simp only [loggedFor, List.filterMap_append, filterMap_sentFrame, sentFrame_received,
          hgrows₁.logged, hgrows₂.logged, hsent, sentFrames, List.map_append, List.nil_append,
          List.append_assoc]
      · simp only [loggedFor, List.filterMap_append, filterMap_receivedFrame, receivedFrame_sent,
          hreceived, arrived_pauseEvents, arrived_messageEvents, List.nil_append, List.append_nil]
  | @unfit n r r₁ r' m hpause hunfit =>
      obtain ⟨-, new, hgrows⟩ := grows_of_run (run_of_pauses hpause) hr
      have hlast : Grows r₁ r' [] := .of_trace (srHandleHwinfo_requests hunfit.hwinfo).2.2
      refine ⟨_, hgrows.trans hlast, ?_, ?_⟩
      · rw [filterMap_sentFrame, hgrows.logged, List.append_nil]
      · rw [receivedFrame_sent, arrived_pauseEvents]

/-! ### The text of the log -/

/-- What a reader of the log finds for a frame, if `k` packets were logged before. -/
def Logged.entry (h : Host) (k : ℕ) (l : Logged) : PcapSfPkthdr × List UInt8 :=
  (⟨(h.time k).1 % 4294967296, (h.time k).2 % 4294967296, (l.frame.take 1024).length,
    (l.frame.take 1024).length⟩, l.frame.take 1024)

/-- The calls of `sr_log_packet` for the frames. -/
lemma Log.play_file (hlen : ∀ l ∈ ls, l.frame.length < 2147483648) (file : Option (List UInt8))
    (k : ℕ) :
    ∃ calls : List LogCall, calls.map LogCall.entry = ls.mapIdx (fun i l => l.entry h (k + i)) ∧
      ((⟨file, k⟩ : Log).play h ls).file = logAll h.order file calls := by
  induction ls generalizing file k with
  | nil => exact ⟨[], rfl, rfl⟩
  | cons l ls ih =>
      obtain ⟨calls, hentries, hfile⟩ := ih (fun l' hl' => hlen l' (List.mem_cons_of_mem _ hl'))
        (srLogPacket h.order (h.time k) file (l.frame ++ l.behind h) l.frame.length) (k + 1)
      refine ⟨⟨l.frame, l.behind h, h.time k, hlen l (by simp)⟩ :: calls, ?_, hfile⟩
      rw [List.map_cons, hentries, List.mapIdx_cons, Nat.add_zero]
      simp only [Nat.add_assoc, Nat.add_comm 1]
      rfl

/-- The log is read back: it has the frames, with their first 1024 bytes. -/
lemma readDump_play (hlen : ∀ l ∈ ls, l.frame.length < 2147483648) :
    ∃ text, ((⟨some (dumpHeader h.order), 0⟩ : Log).play h ls).file = some text ∧
      readDump text = some (dumpInfo, ls.mapIdx fun i l => l.entry h i) := by
  obtain ⟨calls, hentries, hfile⟩ := Log.play_file (h := h) hlen (some (dumpHeader h.order)) 0
  rw [logAll_eq] at hfile
  refine ⟨_, hfile, ?_⟩
  rw [readDump_dumpHeader, Records.read_write, map_pair_record, hentries]
  simp only [Nat.zero_add]

/-! ### Lengths -/

/-- The frames that are handed over are as long as the messages permit. -/
lemma Played.arrived_length (hp : Played h n r ms es ls r') (hm : ∀ m ∈ ms, LongEnough m) :
    ∀ f ∈ es.filterMap SessionEvent.arrived, f.length ≤ 9976 := by
  induction hp with
  | nil => simp
  | @cons n r r₁ r₂ r' m ms es ls hpause hmessage hrest ih =>
      have hrest := ih fun m' hm' => hm m' (List.mem_cons_of_mem _ hm')
      intro f hf
      rw [List.filterMap_append, List.filterMap_append, arrived_pauseEvents, List.nil_append,
        arrived_messageEvents, List.mem_append] at hf
      rcases hf with hf | hf
      · rw [receivedFrames] at hf
        split_ifs at hf with hover
        · rw [List.mem_singleton] at hf
          obtain ⟨hge, hle⟩ := hm m (by simp) hover.1
          rw [hf, messageFrame, take_packetArgs hge hle, List.length_drop]
          omega
        · simp at hf
      · exact hrest f hf
  | unfit hpause hunfit =>
      rw [arrived_pauseEvents]
      simp

/-- No frame is longer, from an empty queue on. -/
lemma Played.length_le (hp : Played h n r ms es ls r') (hr : SessionOk r)
    (hsource : Sourced (ReceivedIn es) (NamedIn r es) r) (htrace : r.trace = [])
    (hm : ∀ m ∈ ms, LongEnough m) : ∀ l ∈ ls, l.frame.length ≤ 9976 := by
  have harrived := hp.arrived_length hm
  have hreceived : ∀ f, ReceivedIn es f → f.length ≤ 9976 := by
    rintro f ⟨e, he, hf⟩
    exact harrived f (List.mem_filterMap.2 ⟨e, he, hf⟩)
  obtain ⟨new, ⟨hnew, -⟩, hsentFrames, hreceivedFrames⟩ := hp.frames hr
  rw [htrace, List.nil_append] at hnew
  -- the closing message has nothing to do with the trace
  have htraced : ∀ o ∈ r'.trace, HasSource (ReceivedIn es) (NamedIn r es) r'.trace o.2 := by
    rcases hp.run with hrun | ⟨r₁, hrun, m, -, hunfit⟩
    · exact (sourced_of_run hr.wf hsource (fun _ hf => hf) (fun _ _ hi => hi) hrun).2.sent
    · rw [(srHandleHwinfo_requests hunfit.hwinfo).2.2]
      exact (sourced_of_run hr.wf hsource (fun _ hf => hf) (fun _ _ hi => hi) hrun).2.sent
  rintro (f | f) hl
  · exact harrived f (hreceivedFrames ▸ List.mem_filterMap.2 ⟨_, hl, rfl⟩)
  · have hf : f ∈ (sentFrames new).map Prod.fst :=
      hsentFrames ▸ List.mem_filterMap.2 ⟨_, hl, rfl⟩
    obtain ⟨⟨f, iface⟩, hmem, rfl⟩ := List.mem_map.1 hf
    obtain ⟨t, origin, ho⟩ := of_mem_sentFrames hmem
    rw [← hnew] at ho
    exact (htraced _ ho).length_le hreceived rfl

end SimpleRouter
