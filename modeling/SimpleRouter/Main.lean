/-
Runs of the whole program.

A program that ends of itself has loaded a routing table, has opened a session, and has
played the messages of the server to its router.  What is known about sessions holds of it:
its routes are those of the file it was told to use, and its log has the frames that it
handled and sent.
-/
import SimpleRouter.Playback
import SimpleRouter.Hwinfo
import SimpleRouter.LoadRt

namespace SimpleRouter

open Bytes CString CText Runs

variable {h : Host} {o : Options} {fuel readFuel : ℕ} {s s' s₁ : Session} {r r' : Router}
  {as as₁ : List Arrival} {log log₁ logName : Option (List UInt8)} {name text : List UInt8}
  {b : RtBuffers} {next : Session → Option Exit} {table : List SrRt} {ms : List Message} {n : ℕ}
  {es : List SessionEvent} {ls : List Logged}

/-! ### Starting -/

/-- The program has come to its main loop. -/
inductive Started (h : Host) (o : Options) (readFuel : ℕ) (as : List Arrival) :
    Session → Option (List UInt8) → List Arrival → Prop
  | intro {prev table : List SrRt} {ret : ℤ} {s : Session} {as₁ : List Arrival} (hret : ret ≠ -1)
      (hprev : o.template ≠ none ∧ prev = [] ∨ o.template = none ∧
        srLoadRt h.inetAton h.bufsiz h.buffers.1 [] (h.file o.rtable) = some (0, prev))
      (hconnect : srConnectToServer h.world readFuel ((initialSession h o).withTable prev) as
        = some (ret, .ok s, as₁))
      (hload : srLoadRt h.inetAton h.bufsiz h.buffers.2 prev (fileText h o.logName s o.rtable)
        = some (0, table)) :
      Started h o readFuel as (s.withTable table) (o.logfile.map fun _ => dumpHeader h.order) as₁

lemma srLoadRtWrap_eq_zero
    (hwrap : srLoadRtWrap h b logName s name log next = some (.code 0 s' log₁)) :
    ∃ table, srLoadRt h.inetAton h.bufsiz b s.router.routingTable (fileText h logName s name)
        = some (0, table) ∧ next (s.withTable table) = some (.code 0 s' log₁) := by
  rw [srLoadRtWrap] at hwrap
  cases hload : srLoadRt h.inetAton h.bufsiz b s.router.routingTable (fileText h logName s name) with
  | none => simp [hload] at hwrap
  | some p =>
      obtain ⟨ret, table⟩ := p
      simp only [hload] at hwrap
      split_ifs at hwrap with hret
      · simp at hwrap
      · exact ⟨table, by rw [not_not.1 hret], hwrap⟩

lemma connectAndRun_eq_zero
    (hrun : connectAndRun h o fuel readFuel s log as = some (.code 0 s' log₁)) :
    ∃ ret s₁ as₁ table, srConnectToServer h.world readFuel s as = some (ret, .ok s₁, as₁) ∧
      ret ≠ -1 ∧ srLoadRt h.inetAton h.bufsiz h.buffers.2 s₁.router.routingTable
        (fileText h o.logName s₁ o.rtable) = some (0, table) ∧
      runLoop h fuel readFuel (s₁.withTable table) log as₁ = some (.code 0 s' log₁) := by
  rw [connectAndRun] at hrun
  rcases hconnect : srConnectToServer h.world readFuel s as with _ | ⟨ret, _ | s₁, as₁⟩
  · simp [hconnect] at hrun
  · simp [hconnect] at hrun
  · simp only [hconnect] at hrun
    split_ifs at hrun with hret hname
    · simp at hrun
    all_goals
      obtain ⟨table, hload, hloop⟩ := srLoadRtWrap_eq_zero hrun
    · rw [← hname.2] at hload
      exact ⟨ret, s₁, as₁, table, rfl, hret, hload, hloop⟩
    · exact ⟨ret, s₁, as₁, table, rfl, hret, hload, hloop⟩

lemma openLogAndRun_eq_zero
    (hrun : openLogAndRun h o fuel readFuel s as = some (.code 0 s' log₁)) :
    connectAndRun h o fuel readFuel s (o.logfile.map fun _ => dumpHeader h.order) as
      = some (.code 0 s' log₁) := by
  rw [openLogAndRun] at hrun
  cases hlog : o.logfile with
  | none =>
      rw [hlog] at hrun
      exact hrun
  | some name =>
      simp only [hlog, srDumpOpen] at hrun
      split_ifs at hrun
      · exact hrun
      · simp at hrun

/-- What has been done when the program comes to its main loop. -/
lemma started_of_srMain (hmain : srMain h o fuel readFuel as = some (.code 0 s' log)) :
    ∃ s₁ log₁ as₁, Started h o readFuel as s₁ log₁ as₁ ∧
      runLoop h fuel readFuel s₁ log₁ as₁ = some (.code 0 s' log) := by
  have hstart : ∀ prev, (o.template ≠ none ∧ prev = [] ∨ o.template = none ∧
        srLoadRt h.inetAton h.bufsiz h.buffers.1 [] (h.file o.rtable) = some (0, prev)) →
      openLogAndRun h o fuel readFuel ((initialSession h o).withTable prev) as
        = some (.code 0 s' log) →
      ∃ s₁ log₁ as₁, Started h o readFuel as s₁ log₁ as₁ ∧
        runLoop h fuel readFuel s₁ log₁ as₁ = some (.code 0 s' log) := by
    intro prev hprev hopen
    obtain ⟨ret, s₁, as₁, table, hconnect, hret, hload, hloop⟩ :=
      connectAndRun_eq_zero (openLogAndRun_eq_zero hopen)
    rw [srConnectToServer_router hconnect] at hload
    exact ⟨_, _, _, .intro hret hprev hconnect hload, hloop⟩
  rw [srMain] at hmain
  split_ifs at hmain with htemplate
  · obtain ⟨prev, hload, hopen⟩ := srLoadRtWrap_eq_zero hmain
    exact hstart prev (Or.inr ⟨Option.isNone_iff_eq_none.1 htemplate, hload⟩) hopen
  · exact hstart [] (Or.inl ⟨fun hnone => htemplate (by rw [hnone]; rfl), rfl⟩) hmain

/-- The router has not done anything so far. -/
lemma Started.router (hs : Started h o readFuel as s log as₁) :
    s.router = Router.init [] s.router.routingTable h.now h.junk := by
  obtain ⟨hret, hprev, hconnect, hload⟩ := hs
  rw [Session.withTable, srConnectToServer_router hconnect]
  rfl

lemma follows_of_runLoop (hrun : runLoop h fuel readFuel s log₁ as = some (.code 0 s' log)) :
    ∃ st, Follows h.world.junk (loopDispatch h fuel) (.failed ∈ as) ⟨0, .ok s, ⟨log₁, 0⟩⟩
        (avail as) st ∧ st.session = .ok s' ∧ st.log.file = log := by
  rw [runLoop] at hrun
  cases hloop : mainLoop h.world.junk (loopDispatch h fuel) readFuel fuel ⟨0, .ok s, ⟨log₁, 0⟩⟩ as with
  | none => simp [hloop] at hrun
  | some p =>
      obtain ⟨st, as'⟩ := p
      simp only [hloop] at hrun
      refine ⟨st, follows_of_mainLoop hloop, ?_⟩
      cases hst : st.session with
      | error e => simp [hst] at hrun
      | ok s₁ =>
          simp only [hst, Option.some.injEq, Exit.code.injEq] at hrun
          exact ⟨by rw [hrun.2.1], hrun.2.2⟩

/-! ### A sample run -/

/-- The options `-v h -u abc -t 3 -r rtable.vrhost -l l`, with a template or none. -/
def sampleOptions (template : Option (List UInt8)) : Options where
  host := [104]
  user := some [97, 98, 99]
  topo := 3
  rtable := rtableVrhost
  template := template
  logfile := some [108]

/-- A machine with a routing table of one line, on which the thread of the ARP cache makes a
pass before the second message. -/
def sampleHost (n : ℕ) : Host where
  world := sampleWorld n
  file := fun _ => some (sampleRtLine 2)
  pwName := none
  inetAton := dottedQuad
  bufsiz := 8192
  buffers := (⟨[], [], [], []⟩, ⟨[], [], [], []⟩)
  template := Vector.replicate 29 7
  behind := []
  now := 1
  junk := fun _ _ => 0
  order := .little
  time := fun k => (1700000000 + k, 5)
  pauses := fun n => if n = 1 then [.tick 1, .sweep] else []

/-- The interfaces are announced, an ARP request arrives, and the session is closed; a
routing table comes first, if there is one. -/
def sampleStream (table : List UInt8) : List Arrival :=
  sampleArrivals ++ leftover (table ++ sampleHwinfo
    ++ packetMessage sampleArpRequest (sampleName 0) ++ be32s [8, vnsClose])

/-- The routing table of the server. -/
def sampleRtable : List UInt8 :=
  be32s [40 + (sampleRtLine 3).length, vnsRtable] ++ strncpy 32 [118, 114, 104, 111, 115, 116]
    ++ sampleRtLine 3

/-- The program has ended of itself, and has written a log; `P` holds then. -/
def endsWith (P : Session → List UInt8 → Bool) : Option Exit → Bool
  | some (.code 0 s (some text)) => P s text
  | _ => false

lemma exists_of_endsWith {P : Session → List UInt8 → Bool} {e : Option Exit} (he : endsWith P e) :
    ∃ s text, e = some (.code 0 s (some text)) ∧ P s text := by
  rcases e with _ | ⟨_ | n, s, _ | text⟩ | _
  · simp [endsWith] at he
  · simp [endsWith] at he
  · exact ⟨s, text, rfl, he⟩
  · simp [endsWith] at he
  · simp [endsWith] at he
  · simp [endsWith] at he

/-! ### The session -/

/-- A program that ends of itself, and whose thread for the ARP cache has made its passes
between the messages, has played the messages of the server, as they are found behind those
of the handshake, to a router with an empty queue and the table of the file; what was played
is a run of this router, perhaps up to a last message about interfaces that do not fit the
routes. -/
theorem main_plays (hmain : srMain h o fuel readFuel as = some (.code 0 s' log)) :
    ∃ s₁ log₁ as₁ msgs rest es ls, Started h o readFuel as s₁ log₁ as₁ ∧
      avail as₁ = msgs.flatten ++ rest ∧ (∀ m ∈ msgs, Framable m) ∧
      s₁.router = Router.init [] s₁.router.routingTable h.now h.junk ∧
      Played h 0 s₁.router (commanded h.world.junk msgs) es ls s'.router ∧
      (Run SessionStep s₁.router es s'.router ∨
        ∃ r, Run SessionStep s₁.router es r ∧ EndsUnfit (commanded h.world.junk msgs) r s'.router) := by
  obtain ⟨s₁, log₁, as₁, hstarted, hloop⟩ := started_of_srMain hmain
  obtain ⟨st, hfollows, hst, -⟩ := follows_of_runLoop hloop
  obtain ⟨msgs, rest, es, ls, hsplit, hmsgs, hplayed, -⟩ := played_of_follows hfollows rfl hst
  exact ⟨s₁, log₁, as₁, msgs, rest, es, ls, hstarted, hsplit, hmsgs, hstarted.router, hplayed,
    hplayed.run⟩

/-- With a template, the program works with the routing table of the server. -/
theorem main_plays_sample :
    ∃ s' log, srMain (sampleHost 70) (sampleOptions (some [116])) 5 10001 (sampleStream sampleRtable)
        = some (.code 0 s' log) ∧ s'.router.trace.length = 1 ∧
      ∃ s₁ log₁ as₁ msgs rest es ls,
        Started (sampleHost 70) (sampleOptions (some [116])) 10001 (sampleStream sampleRtable) s₁
          log₁ as₁ ∧
        avail as₁ = msgs.flatten ++ rest ∧ (∀ m ∈ msgs, Framable m) ∧
        s₁.router = Router.init [] s₁.router.routingTable 1 (fun _ _ => 0) ∧
        Played (sampleHost 70) 0 s₁.router (commanded [] msgs) es ls s'.router ∧
        (Run SessionStep s₁.router es s'.router ∨
          ∃ r, Run SessionStep s₁.router es r ∧ EndsUnfit (commanded [] msgs) r s'.router) := by
  obtain ⟨s', text, hmain, hlen⟩ := exists_of_endsWith
    (show endsWith (fun s _ => s.router.trace.length = 1) (srMain (sampleHost 70)
      (sampleOptions (some [116])) 5 10001 (sampleStream sampleRtable)) by decide +kernel)
  exact ⟨s', some text, hmain, of_decide_eq_true hlen, main_plays hmain⟩

/-! ### The log -/

lemma sessionOk_init (rt : List SrRt) (now : ℕ) (junk : ℕ → ℕ → UInt8) :
    SessionOk (Router.init [] rt now junk) :=
  ⟨wf_init .., by simp [Router.init, Router.findReq]⟩

lemma Started.logText (hs : Started h o readFuel as s log as₁) :
    log = o.logfile.map fun _ => dumpHeader h.order := by
  cases hs
  rfl

/-- Messages that the loop has framed are not too long. -/
lemma longEnough_commanded {junk : List UInt8} {msgs : List (List UInt8)}
    (hmsgs : ∀ m ∈ msgs, Framable m)
    (hlong : ∀ m ∈ msgs, u32 (m ++ junk) 4 = vnsPacket → 24 ≤ m.length) :
    ∀ m ∈ commanded junk msgs, LongEnough m := by
  intro m hm hcmd
  obtain ⟨bytes, hbytes, rfl⟩ := List.mem_map.1 hm
  exact ⟨hlong bytes hbytes hcmd, (hmsgs bytes hbytes).le⟩

/-- What the program reads of the stream before its main loop are whole messages. -/
lemma Started.consumes (hs : Started h o readFuel as s log as₁) :
    ∃ msgs : List (List UInt8), (∀ m ∈ msgs, Framable m) ∧ avail as = msgs.flatten ++ avail as₁ := by
  obtain ⟨hret, hprev, hconnect, hload⟩ := hs
  exact srConnectToServer_consumes hret hconnect

lemma logfile_of_logName (hname : o.logName = some name) : o.logfile = some name :=
  (Option.filter_eq_some_iff.1 hname).1

/-- The file of the log has what the logger has written. -/
lemma finalText_of_log (hname : o.logName = some name) (hfiles : ∀ f ∈ s.files, f.1 ≠ name) :
    finalText h o s log name = log := by
  have hnone : s.files.find? (·.1 = name) = none := by
    rw [List.find?_eq_none]
    exact fun f hf => by simpa using hfiles f hf
  rw [finalText, hnone]
  exact if_pos hname

/-- The messages that the server sends for frames have room for their header. -/
def RoomForHeaders (junk l : List UInt8) : Prop :=
  ∀ m ∈ framed l.length l, u32 (m ++ junk) 4 = vnsPacket → 24 ≤ m.length

instance (junk l : List UInt8) : Decidable (RoomForHeaders junk l) :=
  inferInstanceAs (Decidable (∀ _ ∈ _, _))

lemma Started.longEnough {msgs : List (List UInt8)} {rest : List UInt8}
    (hs : Started h o readFuel as s log as₁) (hroom : RoomForHeaders h.world.junk (avail as))
    (hmsgs : ∀ m ∈ msgs, Framable m) (hsplit : avail as₁ = msgs.flatten ++ rest) :
    ∀ m ∈ commanded h.world.junk msgs, LongEnough m := by
  obtain ⟨before, hbefore, havail⟩ := hs.consumes
  have hall : ∀ m ∈ before ++ msgs, Framable m := by
    intro m hm
    rcases List.mem_append.1 hm with hm | hm
    · exact hbefore m hm
    · exact hmsgs m hm
  have hstream : avail as = (before ++ msgs).flatten ++ rest := by
    rw [havail, hsplit, List.flatten_append, List.append_assoc]
  have hcount : (before ++ msgs).length ≤ (avail as).length := by
    have hle := length_le_flatten hall
    exact hle.trans (hstream ▸ (List.prefix_append _ rest).length_le)
  refine longEnough_commanded hmsgs fun m hm => hroom m ?_
  have hmem : m ∈ framed (avail as).length ((before ++ msgs).flatten ++ rest) :=
    mem_framed hall hcount m (List.mem_append_right _ hm)
  rwa [← hstream] at hmem

/-- The file of the log, if it is one and no routing table was written to it.  As it is read
back, it has the frames of the session and nothing else, with their first 1024 bytes and the
times when they were logged: those that were sent, all of them and in the order in which they
were sent, among those that were handed to the router. -/
theorem log_tells_session (hmain : srMain h o fuel readFuel as = some (.code 0 s' log))
    (hname : o.logName = some name) (hfiles : ∀ f ∈ s'.files, f.1 ≠ name)
    (hroom : RoomForHeaders h.world.junk (avail as)) :
    ∃ s₁ log₁ as₁ msgs rest es ls text, Started h o readFuel as s₁ log₁ as₁ ∧
      avail as₁ = msgs.flatten ++ rest ∧ (∀ m ∈ msgs, Framable m) ∧
      Played h 0 s₁.router (commanded h.world.junk msgs) es ls s'.router ∧
      finalText h o s' log name = some text ∧
      readDump text = some (dumpInfo, ls.mapIdx fun i l => l.entry h i) ∧
      ls.filterMap Logged.sentFrame = (sentFrames s'.router.trace).map Prod.fst ∧
      ls.filterMap Logged.receivedFrame = es.filterMap SessionEvent.arrived := by
  obtain ⟨s₁, log₁, as₁, hstarted, hloop⟩ := started_of_srMain hmain
  obtain ⟨st, hfollows, hst, hfile⟩ := follows_of_runLoop hloop
  obtain ⟨msgs, rest, es, ls, hsplit, hmsgs, hplayed, hlog⟩ := played_of_follows hfollows rfl hst
  have hlong := hstarted.longEnough hroom hmsgs hsplit
  rw [hlog hlong] at hfile
  have hinit := hstarted.router
  have hok : SessionOk s₁.router := hinit ▸ sessionOk_init _ _ _
  have htrace : s₁.router.trace = [] := by rw [hinit]; rfl
  have hsource : Sourced (ReceivedIn es) (NamedIn s₁.router es) s₁.router := by
    rw [hinit]
    exact sourced_init
  have hlen : ∀ l ∈ ls, l.frame.length < 2147483648 := by
    intro l hl
    have := hplayed.length_le hok hsource htrace hlong l hl
    omega
  obtain ⟨new, ⟨hnew, -⟩, hsent, hreceived⟩ := hplayed.frames hok
  rw [htrace, List.nil_append] at hnew
  have hstart := hstarted.logText
  rw [logfile_of_logName hname, Option.map_some] at hstart
  obtain ⟨text, htext, hread⟩ := readDump_play (h := h) hlen
  rw [hstart, htext] at hfile
  refine ⟨s₁, log₁, as₁, msgs, rest, es, ls, text, hstarted, hsplit, hmsgs, hplayed, ?_, hread,
    by rw [hnew, hsent], hreceived⟩
  rw [finalText_of_log hname hfiles, hfile]

/-- The ARP request and the reply to it. -/
theorem log_tells_session_sample :
    ∃ (s' : Session) (log : Option (List UInt8)) (text : List UInt8) (ls : List Logged),
      srMain (sampleHost 108) (sampleOptions none) 5 10001 (sampleStream [])
        = some (.code 0 s' log) ∧ ls.length = 2 ∧
      finalText (sampleHost 108) (sampleOptions none) s' log [108] = some text ∧
      readDump text = some (dumpInfo, ls.mapIdx fun i l => l.entry (sampleHost 108) i) ∧
      ls.filterMap Logged.sentFrame = (sentFrames s'.router.trace).map Prod.fst := by
  obtain ⟨s', text, hmain, hlen⟩ := exists_of_endsWith
    (show endsWith (fun s text => (readDump text).map (fun p => p.2.length) = some 2 ∧ s.files = [])
      (srMain (sampleHost 108) (sampleOptions none) 5 10001 (sampleStream [])) by decide +kernel)
  obtain ⟨hlen, hnofiles⟩ := of_decide_eq_true hlen
  have hfiles : ∀ f ∈ s'.files, f.1 ≠ [108] := by simp [hnofiles]
  obtain ⟨s₁, log₁, as₁, msgs, rest, es, ls, text', -, -, -, -, htext, hread, hsent, -⟩ :=
    log_tells_session hmain rfl hfiles (by decide +kernel)
  have hsame : text = text' :=
    Option.some.inj ((finalText_of_log rfl hfiles).symm.trans htext)
  rw [hsame, hread, Option.map_some, Option.some.injEq, List.length_mapIdx] at hlen
  exact ⟨s', some text, text', ls, hmain, hlen, htext, hread, hsent⟩

/-! ### The routes -/

lemma routingTable_of_run (hrun : Run SessionStep r es r') (hr : WF r) :
    WF r' ∧ r'.routingTable = r.routingTable := by
  refine hrun.invariant (I := fun t => WF t ∧ t.routingTable = r.routingTable) ?_ ⟨hr, rfl⟩
  rintro t e u - ⟨ht, hroutes⟩ hst
  obtain ⟨hu, hroutes'⟩ := hst.routes ht
  exact ⟨hu, hroutes'.trans hroutes⟩

lemma Played.routingTable (hp : Played h n r ms es ls r') (hr : WF r) :
    r'.routingTable = r.routingTable := by
  rcases hp.run with hrun | ⟨r₁, hrun, m, -, hunfit⟩
  · exact (routingTable_of_run hrun hr).2
  · rw [srHandleHwinfo_routingTable hunfit.hwinfo, (routingTable_of_run hrun hr).2]

/-- The lines of the text have what the loader expects. -/
def Loadable (bufsiz : ℕ) (text : List UInt8) : Prop :=
  ∀ l ∈ lines text, l.length < bufsiz ∧ 4 ≤ (rtFields l).length ∧ ∀ w ∈ rtFields l, w.length < 32

/-- A text that is loaded replaces the table before, unless it is empty. -/
lemma faithfulTable_of_srLoadRt {prev : List SrRt} (ht : Loadable h.bufsiz text)
    (hload : srLoadRt h.inetAton h.bufsiz b prev (some text) = some (0, table)) :
    FaithfulTable h.inetAton text table ∨ text = [] ∧ table = prev := by
  rw [srLoadRt, loadRtLoop_eq (fun l hl => (ht l hl).1) (length_lines_le text),
    Option.some.injEq] at hload
  rcases eq_or_ne (lines text) [] with hnil | hne
  · rw [hnil, loadRtLines, Prod.mk.injEq] at hload
    exact Or.inr ⟨lines_eq_nil_iff.1 hnil, hload.2.symm⟩
  · left
    obtain ⟨entries, htable, hall⟩ := forall₂_loadRtLines hload (fun l hl => (ht l hl).2.1)
      (fun l hl => (ht l hl).2.2) hne
    rw [if_neg Bool.false_ne_true, List.nil_append] at htable
    have hfilter : (lines text).filter (fun l => rtFields l ≠ []) = lines text := by
      refine List.filter_eq_self.2 fun l hl => ?_
      have hfour := (ht l hl).2.1
      simp only [ne_eq, decide_not, Bool.not_eq_eq_eq_not, Bool.not_true, decide_eq_false_iff_not]
      intro hnil
      rw [hnil] at hfour
      simp at hfour
    rw [FaithfulTable, hfilter, htable]
    exact hall

/-- The server has sent the message `m` for a routing table, behind two messages with which
it authenticates the user. -/
def SendsTable (h : Host) (as : List Arrival) (m : List UInt8) : Prop :=
  ∃ m₁ m₂ rest, Framable m₁ ∧ Framable m₂ ∧ Framable m ∧ avail as = m₁ ++ (m₂ ++ (m ++ rest)) ∧
    u32 (m ++ h.world.junk) 4 = vnsRtable

/-- The table of the server is for the file that is named by the options. -/
structure SentTable (h : Host) (o : Options) (as : List Arrival) (m : List UInt8) : Prop where
  template : (initialSession h o).strings.templateName ≠ []
  sends : SendsTable h as m
  name : rtableName h.world.junk m = o.rtable

/-- The text that the routing table is loaded from. -/
inductive TableText (h : Host) (o : Options) (as : List Arrival) (text : List UInt8) : Prop
  /-- There is no template, and the file is loaded before anything is written. -/
  | own (ho : o.template = none) (hfile : h.file o.rtable = some text)
  /-- The table of the server is used. -/
  | sent {m : List UInt8} (hm : SentTable h o as m) (htext : text = rtableText h.world.junk m)
  /-- The file has been emptied, since it is also that of the log. -/
  | emptied (ho : o.template ≠ none) (hno : ∀ m, ¬ SentTable h o as m)
      (hlog : o.logName = some o.rtable) (htext : text = [])
  /-- There is a template, and nothing was written to the file. -/
  | kept (ho : o.template ≠ none) (hno : ∀ m, ¬ SentTable h o as m)
      (hlog : o.logName ≠ some o.rtable) (hfile : h.file o.rtable = some text)

/-- Without a template `sr->template` is empty. -/
lemma templateName_none (ho : o.template = none) :
    (initialSession h o).strings.templateName = [] := by
  rw [initialSession, ho]
  rfl

lemma SentTable.template_ne_none {m : List UInt8} (hm : SentTable h o as m) :
    o.template ≠ none :=
  fun ho => hm.template (templateName_none ho)

/-- The server has sent one table. -/
lemma SendsTable.unique {m m' : List UInt8} (hm : SendsTable h as m) (hm' : SendsTable h as m') :
    m = m' := by
  obtain ⟨m₁, m₂, rest, h₁, h₂, h₃, havail, -⟩ := hm
  obtain ⟨m₁', m₂', rest', h₁', h₂', h₃', havail', -⟩ := hm'
  obtain ⟨-, hrest₁⟩ := framable_append_inj h₁ h₁' (havail.symm.trans havail')
  obtain ⟨-, hrest₂⟩ := framable_append_inj h₂ h₂' hrest₁
  exact (framable_append_inj h₃ h₃' hrest₂).1

/-- What the table is loaded from is determined. -/
lemma TableText.unique {text' : List UInt8} (ht : TableText h o as text)
    (ht' : TableText h o as text') : text = text' := by
  cases ht with
  | own ho hfile =>
      cases ht' with
      | own _ hfile' => exact Option.some.inj (hfile.symm.trans hfile')
      | sent hm' _ => exact absurd ho hm'.template_ne_none
      | emptied ho' _ _ _ => exact absurd ho ho'
      | kept ho' _ _ _ => exact absurd ho ho'
  | sent hm htext =>
      cases ht' with
      | own ho' _ => exact absurd ho' hm.template_ne_none
      | sent hm' htext' => rw [htext, htext', hm.sends.unique hm'.sends]
      | emptied _ hno' _ _ => exact absurd hm (hno' _)
      | kept _ hno' _ _ => exact absurd hm (hno' _)
  | emptied ho hno hlog htext =>
      cases ht' with
      | own ho' _ => exact absurd ho' ho
      | sent hm' _ => exact absurd hm' (hno _)
      | emptied _ _ _ htext' => rw [htext, htext']
      | kept _ _ hlog' _ => exact absurd hlog hlog'
  | kept ho hno hlog hfile =>
      cases ht' with
      | own ho' _ => exact absurd ho' ho
      | sent hm' _ => exact absurd hm' (hno _)
      | emptied _ _ hlog' _ => exact absurd hlog' hlog
      | kept _ _ _ hfile' => exact Option.some.inj (hfile.symm.trans hfile')

lemma fileText_of_nil (hfiles : s.files = []) :
    fileText h logName s name = if logName = some name then some [] else h.file name := by
  rw [fileText, hfiles]
  rfl

lemma fileText_of_singleton {f : List UInt8 × List UInt8} (hfiles : s.files = [f]) :
    fileText h logName s name = if f.1 = name then some f.2
      else if logName = some name then some [] else h.file name := by
  rw [fileText, hfiles]
  by_cases hname : f.1 = name
  · rw [List.find?_cons_of_pos (by simpa using hname), if_pos hname]
  · rw [List.find?_cons_of_neg (by simpa using hname), if_neg hname]
    rfl

lemma srLoadRt_nil (b : RtBuffers) (prev : List SrRt) :
    srLoadRt h.inetAton h.bufsiz b prev (some []) = some (0, prev) := rfl

/-- What is in the file when the session is open and the table is loaded. -/
lemma fileText_of_connect {prev : List SrRt} {ret : ℤ} (hret : ret ≠ -1)
    (hconnect : srConnectToServer h.world readFuel ((initialSession h o).withTable prev) as
      = some (ret, .ok s, as₁)) :
    (∃ m, SentTable h o as m ∧
        fileText h o.logName s o.rtable = some (rtableText h.world.junk m)) ∨
      (∀ m, ¬ SentTable h o as m) ∧ fileText h o.logName s o.rtable
        = if o.logName = some o.rtable then some [] else h.file o.rtable := by
  rcases srConnectToServer_cases hconnect with
    ⟨hfail, -⟩ | ⟨m₁, m₂, as₂, reply, hm₁, hm₂, havail, -, hopen⟩
  · exact absurd hfail hret
  have hopened := openSession_inv hopen
  generalize hl : avail as₂ = l, avail as₁ = rest at hopened
  rw [hl] at havail
  cases hopened with
  | cut hgot => exact absurd rfl hret
  | noTable htemplate => exact absurd rfl hret
  | plain htemplate => exact Or.inr ⟨fun m hm => hm.template htemplate, fileText_of_nil rfl⟩
  | @table m rest htemplate hm hcmd =>
      have hsends : SendsTable h as m := ⟨m₁, m₂, rest, hm₁, hm₂, hm, havail, hcmd⟩
      rw [fileText_of_singleton (f := (rtableName h.world.junk m, rtableText h.world.junk m)) rfl]
      by_cases hname : rtableName h.world.junk m = o.rtable
      · exact Or.inl ⟨m, ⟨htemplate, hsends, hname⟩, if_pos hname⟩
      · refine Or.inr ⟨fun m' hm' => hname ?_, if_neg hname⟩
        rw [hsends.unique hm'.sends, hm'.name]

/-- The table that the program works with is the one that is loaded from this text, into
buffers that hold what they held at one of the two calls. -/
lemma Started.tableText (hs : Started h o readFuel as s log as₁) :
    ∃ text b, TableText h o as text ∧ (b = h.buffers.1 ∨ b = h.buffers.2) ∧
      srLoadRt h.inetAton h.bufsiz b [] (some text) = some (0, s.router.routingTable) := by
  cases hs with
  | @intro prev table ret s as₁ hret hprev hconnect hload =>
      change ∃ text b, _ ∧ _ ∧ srLoadRt h.inetAton h.bufsiz b [] (some text) = some (0, table)
      rcases hprev with ⟨hsome, rfl⟩ | ⟨hnone, hprev⟩
      · rcases fileText_of_connect hret hconnect with ⟨m, hm, htext⟩ | ⟨hno, htext⟩
        · rw [htext] at hload
          exact ⟨_, _, .sent hm rfl, Or.inr rfl, hload⟩
        · rw [htext] at hload
          split_ifs at hload with hlog
          · exact ⟨_, _, .emptied hsome hno hlog rfl, Or.inr rfl, hload⟩
          · cases hfile : h.file o.rtable with
            | none => simp [hfile, srLoadRt] at hload
            | some text =>
                rw [hfile] at hload
                exact ⟨text, _, .kept hsome hno hlog hfile, Or.inr rfl, hload⟩
      · cases hfile : h.file o.rtable with
        | none => simp [hfile, srLoadRt] at hprev
        | some text =>
            rw [hfile] at hprev
            rcases fileText_of_connect hret hconnect with ⟨m, hm, -⟩ | ⟨-, htext⟩
            · exact absurd hnone hm.template_ne_none
            rw [htext] at hload
            split_ifs at hload with hlog
            · -- the second call reads an empty file, and keeps the table of the first one
              rw [srLoadRt_nil, Option.some.injEq, Prod.mk.injEq] at hload
              rw [hload.2] at hprev
              exact ⟨text, _, .own hnone hfile, Or.inl rfl, hprev⟩
            · rw [hfile] at hload
              by_cases hempty : text = []
              · subst hempty
                rw [srLoadRt_nil, Option.some.injEq, Prod.mk.injEq] at hload hprev
                rw [← hload.2, ← hprev.2]
                exact ⟨[], _, .own hnone hfile, Or.inr rfl, srLoadRt_nil _ _⟩
              · -- the table of the first call is let go of
                exact ⟨text, _, .own hnone hfile, Or.inr rfl, srLoadRt_of_ne_nil hempty hload []⟩

/-- The routes of a session are those that `sr_load_rt` takes from one text: that of the file
named by the options, or that which the server has sent for a file of this name, or none if
this file is emptied for the log.  If the lines of the text have what the loader expects,
there is one route for each. -/
theorem routes_from_text (hmain : srMain h o fuel readFuel as = some (.code 0 s' log)) :
    ∃ text b, TableText h o as text ∧ (∀ text', TableText h o as text' → text' = text) ∧
      (b = h.buffers.1 ∨ b = h.buffers.2) ∧
      srLoadRt h.inetAton h.bufsiz b [] (some text) = some (0, s'.router.routingTable) ∧
      (Loadable h.bufsiz text → FaithfulTable h.inetAton text s'.router.routingTable) := by
  obtain ⟨s₁, log₁, as₁, hstarted, hloop⟩ := started_of_srMain hmain
  obtain ⟨st, hfollows, hst, -⟩ := follows_of_runLoop hloop
  obtain ⟨msgs, rest, es, ls, -, -, hplayed, -⟩ := played_of_follows hfollows rfl hst
  obtain ⟨text, b, htext, hb, hload⟩ := hstarted.tableText
  rw [hplayed.routingTable (hstarted.router ▸ wf_init ..)]
  refine ⟨text, b, htext, fun text' htext' => htext'.unique htext, hb, hload, fun hloadable => ?_⟩
  rcases faithfulTable_of_srLoadRt hloadable hload with hfaithful | ⟨rfl, hnil⟩
  · exact hfaithful
  · rw [hnil]
    exact .nil

/-- The table of the server has the name of the file. -/
theorem routes_from_text_sample :
    ∃ s' log text b, srMain (sampleHost 70) (sampleOptions (some [116])) 5 10001
        (sampleStream sampleRtable) = some (.code 0 s' log) ∧
      TableText (sampleHost 70) (sampleOptions (some [116])) (sampleStream sampleRtable) text ∧
      srLoadRt dottedQuad 8192 b [] (some text) = some (0, s'.router.routingTable) ∧
      s'.router.routingTable.length = 1 := by
  obtain ⟨s', log, hmain, hlen⟩ := exists_of_endsWith
    (show endsWith (fun s _ => s.router.routingTable.length = 1) (srMain (sampleHost 70)
      (sampleOptions (some [116])) 5 10001 (sampleStream sampleRtable)) by decide +kernel)
  obtain ⟨text, b, htext, -, -, hload, -⟩ := routes_from_text hmain
  exact ⟨s', some log, text, b, hmain, htext, hload, of_decide_eq_true hlen⟩

end SimpleRouter
