/-
The program as a whole (`main` of `sr_main.c`).

The routing table is loaded, if no template is asked for, the session is opened, the table
is loaded from the file that was named, and then the main loop reads messages until one of
them ends it.  While it waits, the thread of the ARP cache makes its passes and time goes
by.  These are the schedules that are modelled here: the thread may as well run while a
message is handled, which `Threads` is about.

What is written to the log is not decided by the router: `sr_read_from_server_expect` logs
the frames it hands over, and `sr_send_packet` those it is given.
-/
import SimpleRouter.Handshake
import SimpleRouter.MainLoop
import SimpleRouter.Provenance
import SimpleRouter.Dump

namespace SimpleRouter

open Bytes CString Runs

/-! ### The environment -/

/-- What happens while the main loop waits for a message. -/
inductive Pause where
  /-- `sr_arpcache_timeout` makes a pass. -/
  | sweep
  /-- `d` seconds go by. -/
  | tick (d : ℕ)
deriving DecidableEq, Repr

/-- The event for the router. -/
def Pause.event : Pause → Event
  | .sweep => .sweep
  | .tick d => .tick d

/-- The options, with the defaults where an option was not given.  With `-h` the program
prints its usage and does nothing else. -/
structure Options where
  host : List UInt8
  user : Option (List UInt8)
  topo : ℕ
  rtable : List UInt8
  template : Option (List UInt8)
  logfile : Option (List UInt8)
deriving DecidableEq, Repr

/-- What `main` finds when it starts, besides its options. -/
structure Host where
  world : World
  /-- The files that can be read, before the program writes any.  Files are told apart by
  their names, and nobody else writes to them. -/
  file : List UInt8 → Option (List UInt8)
  /-- The name of the user who runs the program, if it is known. -/
  pwName : Option (List UInt8)
  inetAton : List UInt8 → Option Ip
  /-- `BUFSIZ`. -/
  bufsiz : ℕ
  /-- What the buffers of `sr_load_rt` hold before its first and its second call. -/
  buffers : RtBuffers × RtBuffers
  /-- The bytes of the template that are not written to if there is none, and what is
  behind them. -/
  template : Vector UInt8 29
  behind : List UInt8
  now : ℕ
  junk : ℕ → ℕ → UInt8
  order : ByteOrder
  /-- What `gettimeofday` returns, the first time, the second time, and so on. -/
  time : ℕ → ℕ × ℕ
  /-- What happens before the first message, before the second one, and so on; nothing
  happens while a message is handled. -/
  pauses : ℕ → List Pause

/-! ### The log -/

/-- What the logger has written, if there is a log, and the number of packets that were
logged. -/
structure Log where
  file : Option (List UInt8)
  calls : ℕ
deriving DecidableEq, Repr

/-- A call of `sr_log_packet`. -/
def Log.add (h : Host) (g : Log) (buf : List UInt8) (len : ℤ) : Log :=
  ⟨srLogPacket h.order (h.time g.calls) g.file buf len, g.calls + 1⟩

/-- The frames that `sr_send_packet` logs: those that have room for a header. -/
def loggedFrames (obs : List (ℕ × Obs)) : List Frame :=
  obs.filterMap fun o =>
    match o.2 with
    | .sent _ _ _ .tooShort => none
    | .sent _ _ frame _ => some frame
    | _ => none

/-- What was observed between two states. -/
def observed (s s' : Router) : List (ℕ × Obs) := s'.trace.drop s.trace.length

/-- The log after the frames that were sent between two states. -/
def Log.sent (h : Host) (g : Log) (s s' : Router) : Log :=
  (loggedFrames (observed s s')).foldl (fun g frame => g.add h frame frame.length) g

/-- The frame of a packet message, as it is handed to the router. -/
def messageFrame (junk bytes : List UInt8) : Frame :=
  (packetArgs junk bytes).packet.take (packetArgs junk bytes).len.toNat

/-- The frame of the message is handed to the router. -/
def HandsOver (s : Router) (junk : List UInt8) (m : Message) : Prop :=
  m.command = vnsPacket ∧
    (srArpReqNotForUs s.ifList (messageFrame junk m.bytes)
      (packetArgs junk m.bytes).interface).toOption = some false

instance (s : Router) (junk : List UInt8) (m : Message) : Decidable (HandsOver s junk m) :=
  inferInstanceAs (Decidable (_ ∧ _))

/-- The log after a message has arrived. -/
def Log.received (h : Host) (g : Log) (s : Router) (m : Message) : Log :=
  if HandsOver s h.world.junk m then
    g.add h (packetArgs h.world.junk m.bytes).packet (logLen m.bytes.length)
  else g

/-! ### The main loop -/

/-- The state of the main loop. -/
structure LoopState where
  /-- The number of messages so far. -/
  handled : ℕ
  session : Except Stop Session
  log : Log

/-- The router after a pause. -/
def pauseRouter (fuel : ℕ) (s : Router) (pauses : List Pause) : Except Fault Router :=
  runWith (step fuel) s (pauses.map Pause.event)

/-- The switch of the main loop, with what happens before the message arrives: the thread of
the ARP cache makes its passes then, and none while the message is handled. -/
def loopDispatch (h : Host) (fuel : ℕ) (st : LoopState) (m : Message) : ℤ × LoopState :=
  let stop (e : Stop) : ℤ × LoopState :=
    (-1, { st with handled := st.handled + 1, session := .error e })
  match st.session with
  | .error e => stop e
  | .ok s =>
      match pauseRouter fuel s.router (h.pauses st.handled) with
      | .error f => stop (.fault f)
      | .ok router =>
          match serverSwitch h.world fuel { s with router := router } m with
          | .error e => stop e
          | .ok (ret, s') =>
              let log := (st.log.sent h s.router router).received h router m
              (ret, ⟨st.handled + 1, .ok s', log.sent h router s'.router⟩)

/-! ### Starting -/

/-- How the program ends. -/
inductive Exit where
  /-- With an exit code; the session, and what the logger has written. -/
  | code (n : ℕ) (s : Session) (log : Option (List UInt8))
  /-- In the middle of a call. -/
  | stopped (e : Stop)

/-- `something_silly`. -/
def somethingSilly : List UInt8 :=
  [115, 111, 109, 101, 116, 104, 105, 110, 103, 95, 115, 105, 108, 108, 121]

/-- The name that goes into `sr->user`; without the option, `sr_set_user` chooses it. -/
def userOption (h : Host) (o : Options) : List UInt8 :=
  match o.user with
  | some user => user
  | none => h.pwName.getD somethingSilly

/-- `rtable.vrhost`. -/
def rtableVrhost : List UInt8 := rtablePrefix ++ [118, 114, 104, 111, 115, 116]

/-- The file of the log, if one is opened; `-` stands for the standard output. -/
def Options.logName (o : Options) : Option (List UInt8) := o.logfile.filter (· ≠ [45])

/-- The text of a file: what was written to it last, or what was there before.  The file of
the log is emptied when it is opened; what goes into it is held back until a packet is
logged. -/
def fileText (h : Host) (logName : Option (List UInt8)) (s : Session) (name : List UInt8) :
    Option (List UInt8) :=
  match s.files.find? (·.1 = name) with
  | some file => some file.2
  | none => if logName = some name then some [] else h.file name

/-- The text of a file when the program has ended, if `log` is what the logger has written.
Where a routing table was written to the file of the log, which is open all the while, the
two are mixed; nothing is said about this case. -/
def finalText (h : Host) (o : Options) (s : Session) (log : Option (List UInt8))
    (name : List UInt8) : Option (List UInt8) :=
  match s.files.find? (·.1 = name) with
  | some file => if o.logName = some name then none else some file.2
  | none => if o.logName = some name then log else h.file name

/-- The session with another routing table. -/
def Session.withTable (s : Session) (table : List SrRt) : Session :=
  { s with router := { s.router with routingTable := table } }

/-- `sr_load_rt_wrap`, and what is done next: the program exits if the table cannot be
loaded.  The result is `none` if there are more lines than the fuel. -/
def srLoadRtWrap (h : Host) (b : RtBuffers) (logName : Option (List UInt8)) (s : Session)
    (name : List UInt8) (log : Option (List UInt8)) (next : Session → Option Exit) : Option Exit :=
  match srLoadRt h.inetAton h.bufsiz b s.router.routingTable (fileText h logName s name) with
  | none => none
  | some (ret, table) =>
      if ret ≠ 0 then some (.code 1 (s.withTable table) log) else next (s.withTable table)

/-- `sr_init_instance`, and the fields that `main` sets from the options. -/
def initialSession (h : Host) (o : Options) : Session where
  router := Router.init [] [] h.now h.junk
  strings := Strings.init (userOption h o) o.host o.template h.template h.behind
  topoId := o.topo
  files := []
  control := []
  requests := 0

/-- `sr_init`, the main loop, and the end of `main`. -/
def runLoop (h : Host) (fuel readFuel : ℕ) (s : Session) (log : Option (List UInt8))
    (as : List Arrival) : Option Exit :=
  match mainLoop h.world.junk (loopDispatch h fuel) readFuel fuel ⟨0, .ok s, ⟨log, 0⟩⟩ as with
  | none => none
  | some (st, _) =>
      match st.session with
      | .error e => some (.stopped e)
      | .ok s => some (.code 0 s st.log.file)

/-- The second half of `main`, from `sr_connect_to_server` on. -/
def connectAndRun (h : Host) (o : Options) (fuel readFuel : ℕ) (s : Session)
    (log : Option (List UInt8)) (as : List Arrival) : Option Exit :=
  match srConnectToServer h.world readFuel s as with
  | none => none
  | some (_, .error e, _) => some (.stopped e)
  | some (ret, .ok s, as) =>
      if ret = -1 then some (.code 1 s log)
      else
        let name := if o.template.isSome ∧ o.rtable = rtableVrhost then rtableVrhost else o.rtable
        srLoadRtWrap h h.buffers.2 o.logName s name log fun s => runLoop h fuel readFuel s log as

/-- The middle of `main`: the file for the log is opened.  What is passed on is the part that
the logger writes; `finalText` says when this is the text of a file. -/
def openLogAndRun (h : Host) (o : Options) (fuel readFuel : ℕ) (s : Session) (as : List Arrival) :
    Option Exit :=
  match o.logfile with
  | none => connectAndRun h o fuel readFuel s none as
  | some name =>
      match srDumpOpen h.order h.world.writable name 0 packetDumpSize with
      | none => some (.code 1 s none)
      | some text => connectAndRun h o fuel readFuel s (some text) as

/-- `main`; `as` is what arrives from the server. -/
def srMain (h : Host) (o : Options) (fuel readFuel : ℕ) (as : List Arrival) : Option Exit :=
  if o.template.isNone then
    srLoadRtWrap h h.buffers.1 none (initialSession h o) o.rtable none fun s =>
      openLogAndRun h o fuel readFuel s as
  else openLogAndRun h o fuel readFuel (initialSession h o) as

/-! ### A message -/

variable {w : World} {h : Host} {o : Options} {fuel readFuel n : ℕ} {s s' s₁ s₂ : Session}
  {r r' : Router} {m : Message} {ret : ℤ}

/-- What a message for the program itself does to a session. -/
inductive Aside (w : World) (s : Session) (m : Message) : Session → Prop
  | none : Aside w s m s
  /-- A routing table is written to a file. -/
  | table (hm : m.command = vnsRtable) (hroom : (rtableName w.junk m.bytes).length < 40) :
      Aside w s m (s.tabled w.junk m.bytes)
  /-- The program is asked to authenticate itself. -/
  | reply {ret : ℤ} {got : List UInt8} (hm : m.command = vnsAuthRequest)
      (h : srHandleAuthRequest (w.auth s.requests) s.strings.userName w.junk m.bytes
        = some (ret, got)) : Aside w s m (s.replied got)

lemma Aside.router (h : Aside w s m s') : s'.router = s.router := by
  cases h with
  | none => rfl
  | table hm hroom => rfl
  | reply hm h => rfl

/-- What the switch does. -/
inductive Switched (w : World) (fuel : ℕ) (s : Session) (m : Message) : ℤ → Session → Prop
  | packet {router : Router} (hm : m.command = vnsPacket)
      (h : readPacketMessage fuel s.router w.junk m.bytes = .ok router) :
      Switched w fuel s m 1 { s with router := router }
  | hwinfo {router : Router} (hm : m.command = vnsHwinfo)
      (h : srHandleHwinfo s.router (hwEntries m.bytes) = .ok router)
      (hver : srVerifyRoutingTable router.ifList router.routingTable = 0) :
      Switched w fuel s m 1 { s with router := router }
  | unfit {router : Router} (hm : m.command = vnsHwinfo)
      (h : srHandleHwinfo s.router (hwEntries m.bytes) = .ok router)
      (hver : srVerifyRoutingTable router.ifList router.routingTable ≠ 0) :
      Switched w fuel s m (-1) { s with router := router }
  | plain {ret : ℤ} {s' : Session} (hpacket : m.command ≠ vnsPacket)
      (hinfo : m.command ≠ vnsHwinfo) (h : Aside w s m s') : Switched w fuel s m ret s'

lemma serverSwitch_cases (h : serverSwitch w fuel s m = .ok (ret, s')) :
    Switched w fuel s m ret s' := by
  rw [serverSwitch] at h
  by_cases hpacket : m.command = vnsPacket
  · rw [if_pos hpacket] at h
    cases hread : readPacketMessage fuel s.router w.junk m.bytes with
    | error f => simp [hread] at h
    | ok router =>
        simp only [hread, Except.ok.injEq, Prod.mk.injEq] at h
        obtain ⟨rfl, rfl⟩ := h
        exact .packet hpacket hread
  rw [if_neg hpacket] at h
  by_cases hinfo : m.command = vnsHwinfo
  · rw [if_neg (by rw [hinfo]; decide), if_neg (by rw [hinfo]; decide), if_pos hinfo] at h
    cases hhw : srHandleHwinfo s.router (hwEntries m.bytes) with
    | error f => simp [hhw] at h
    | ok router =>
        simp only [hhw] at h
        split_ifs at h with hver
        · rw [Except.ok.injEq, Prod.mk.injEq] at h
          obtain ⟨rfl, rfl⟩ := h
          exact .unfit hinfo hhw hver
        · rw [Except.ok.injEq, Prod.mk.injEq] at h
          obtain ⟨rfl, rfl⟩ := h
          exact .hwinfo hinfo hhw (not_not.1 hver)
  refine .plain hpacket hinfo ?_
  obtain ⟨command, bytes⟩ := m
  simp only at hpacket hinfo
  rw [if_neg hinfo] at h
  by_cases htable : command = vnsRtable
  · subst htable
    have h : serverSwitch w fuel s ⟨vnsRtable, bytes⟩ = .ok (ret, s') := h
    rw [serverSwitch_rtable] at h
    split_ifs at h with hroom hopen
    · rw [Except.ok.injEq, Prod.mk.injEq] at h
      rw [← h.2]
      exact .table rfl (show (rtableName w.junk bytes).length < 40 by omega)
    · rw [Except.ok.injEq, Prod.mk.injEq] at h
      rw [← h.2]
      exact .none
  by_cases hauth : command = vnsAuthRequest
  · subst hauth
    have h : serverSwitch w fuel s ⟨vnsAuthRequest, bytes⟩ = .ok (ret, s') := h
    rw [serverSwitch_authRequest, answerAuth] at h
    cases hanswer : srHandleAuthRequest (w.auth s.requests) s.strings.userName w.junk bytes with
    | none => simp [hanswer, bind, Except.bind] at h
    | some p =>
        simp only [hanswer, bind, Except.bind, Except.ok.injEq, Prod.mk.injEq] at h
        rw [← h.2]
        exact .reply rfl hanswer
  · rw [if_neg htable, if_neg hauth] at h
    split_ifs at h
    all_goals
      rw [Except.ok.injEq, Prod.mk.injEq] at h
      rw [← h.2]
      exact .none

/-- The event for the router, if the message is one. -/
def messageEvents (junk : List UInt8) (s : Router) (m : Message) : List SessionEvent :=
  if HandsOver s junk m then
    [.data (.recv (messageFrame junk m.bytes) (packetArgs junk m.bytes).interface)]
  else if m.command = vnsHwinfo then [.hwinfo (hwEntries m.bytes)]
  else []

lemma messageEvents_of_ne (hpacket : m.command ≠ vnsPacket) (hinfo : m.command ≠ vnsHwinfo)
    (junk : List UInt8) (r : Router) : messageEvents junk r m = [] := by
  rw [messageEvents, if_neg (fun h => hpacket h.1), if_neg hinfo]

/-- The interfaces that are announced do not fit the routes. -/
structure Unfit (s : Router) (m : Message) (s' : Router) : Prop where
  command : m.command = vnsHwinfo
  hwinfo : srHandleHwinfo s (hwEntries m.bytes) = .ok s'
  verify : srVerifyRoutingTable s'.ifList s'.routingTable ≠ 0

lemma run_of_readPacketMessage {junk : List UInt8} (hm : m.command = vnsPacket)
    (h : readPacketMessage fuel r junk m.bytes = .ok r') :
    Run SessionStep r (messageEvents junk r m) r' := by
  rw [readPacketMessage, readVnspacket, bind_eq_ok] at h
  obtain ⟨notForUs, hfilter, h⟩ := h
  cases notForUs with
  | true =>
      rw [if_pos rfl, Except.ok.injEq] at h
      have hnot : ¬ HandsOver r junk m := by
        rintro ⟨-, hpass⟩
        rw [messageFrame, hfilter] at hpass
        simp [Except.toOption] at hpass
      rw [messageEvents, if_neg hnot, if_neg (by rw [hm]; decide), h]
      exact .nil _
  | false =>
      rw [if_neg Bool.false_ne_true, bind_eq_ok] at h
      obtain ⟨p, hcall, h⟩ := h
      rw [Except.ok.injEq] at h
      rw [messageEvents, if_pos ⟨hm, by rw [messageFrame, hfilter]; rfl⟩]
      refine .single ⟨fuel, ?_⟩
      rw [sessionStep, step, messageFrame, hcall, ← h]
      rfl

/-- What a message does to the router. -/
lemma Switched.router (h : Switched w fuel s m ret s') :
    Run SessionStep s.router (messageEvents w.junk s.router m) s'.router ∨
      ret = -1 ∧ Unfit s.router m s'.router := by
  cases h with
  | packet hm hread => exact Or.inl (run_of_readPacketMessage hm hread)
  | hwinfo hm hinfo hver =>
      left
      have hpacket : ¬ HandsOver s.router w.junk m := by
        rintro ⟨hpacket, -⟩
        rw [hm] at hpacket
        exact absurd hpacket (by decide)
      rw [messageEvents, if_neg hpacket, if_pos hm]
      exact .single ⟨fuel, by rw [sessionStep, hinfo]; exact if_pos hver⟩
  | unfit hm hinfo hver => exact Or.inr ⟨rfl, hm, hinfo, hver⟩
  | plain hpacket hinfo haside =>
      left
      rw [messageEvents_of_ne hpacket hinfo, haside.router]
      exact .nil _

end SimpleRouter
