/-
The handshake.

Whatever arrives, in whatever pieces: the client asks for a topology only after the server
has asked it to authenticate itself, it has answered, and the server has accepted the
answer; until then it sends nothing else, and it handles no frame.  A server that keeps to
the protocol is served.
-/
import SimpleRouter.Session

namespace SimpleRouter

open Bytes CString

variable {w : World} {fuel expected : ℕ} {s s' : Session} {st st' : Except Stop Session}
  {as as' : List Arrival} {m rest : List UInt8} {ret : ℤ}
  {next : Except Stop Session → List Arrival → Option (ℤ × Except Stop Session × List Arrival)}

/-! ### The commands of the handshake -/

lemma serverDispatch_close (m : List UInt8) :
    serverDispatch w fuel (.ok s) ⟨vnsClose, m⟩ = (0, .ok s) := rfl

lemma serverDispatch_authStatus (m : List UInt8) :
    serverDispatch w fuel (.ok s) ⟨vnsAuthStatus, m⟩
      = (if srHandleAuthStatus w.junk m = 0 then -1 else 1, .ok s) := by
  simp [serverDispatch, serverSwitch, vnsPacket, vnsClose, vnsBanner, vnsHwinfo, vnsRtable,
    vnsAuthRequest, vnsAuthStatus]

/-- The session after an authentication request, of which the server has got `got`. -/
def Session.replied (s : Session) (got : List UInt8) : Session :=
  { s with control := s.control ++ [got], requests := s.requests + 1 }

lemma serverSwitch_authRequest (m : List UInt8) :
    serverSwitch w fuel s ⟨vnsAuthRequest, m⟩
      = (answerAuth w s m >>= fun p => .ok (if p.1 = 0 then -1 else 1, p.2)) := by
  simp [serverSwitch, vnsPacket, vnsClose, vnsBanner, vnsHwinfo, vnsRtable, vnsAuthRequest]

lemma serverDispatch_authRequest {got : List UInt8}
    (h : srHandleAuthRequest (w.auth s.requests) s.strings.userName w.junk m = some (ret, got)) :
    serverDispatch w fuel (.ok s) ⟨vnsAuthRequest, m⟩
      = (if ret = 0 then -1 else 1, .ok (s.replied got)) := by
  have hanswer : answerAuth w s m = .ok (ret, s.replied got) := by
    rw [answerAuth, h]
    rfl
  rw [serverDispatch, serverSwitch_authRequest, hanswer]
  rfl

lemma serverDispatch_authRequest_none
    (h : srHandleAuthRequest (w.auth s.requests) s.strings.userName w.junk m = none) :
    serverDispatch w fuel (.ok s) ⟨vnsAuthRequest, m⟩ = (-1, .error .overflow) := by
  rw [serverDispatch, serverSwitch_authRequest, answerAuth, h]
  rfl

/-- The name of the file that a routing table is written to. -/
def rtableName (junk bytes : List UInt8) : List UInt8 := rtablePrefix ++ rtableId junk bytes

/-- The session after a routing table. -/
def Session.tabled (s : Session) (junk bytes : List UInt8) : Session :=
  { s with files := (rtableName junk bytes, rtableText junk bytes) :: s.files }

/-- A routing table is written if there is room for the name of the file and the file can
be opened. -/
lemma serverSwitch_rtable (m : List UInt8) :
    serverSwitch w fuel s ⟨vnsRtable, m⟩ =
      if 40 < (rtableName w.junk m).length + 1 then .error .overflow
      else if w.writable (rtableName w.junk m) then .ok (1, s.tabled w.junk m) else .ok (-1, s) := by
  have hswitch : serverSwitch w fuel s ⟨vnsRtable, m⟩
      = (srHandleRtable w s m >>= fun p => .ok (if p.1 = 0 then -1 else 1, p.2)) := by
    simp [serverSwitch, vnsPacket, vnsClose, vnsBanner, vnsHwinfo, vnsRtable]
  rw [hswitch, srHandleRtable, rtableName]
  split_ifs
  · rfl
  · rfl
  · rfl

lemma serverDispatch_rtable (m : List UInt8) :
    serverDispatch w fuel (.ok s) ⟨vnsRtable, m⟩ =
      if 40 < (rtableName w.junk m).length + 1 then (-1, .error .overflow)
      else if w.writable (rtableName w.junk m) then (1, .ok (s.tabled w.junk m)) else (-1, .ok s) := by
  rw [serverDispatch, serverSwitch_rtable]
  split_ifs
  · rfl
  · rfl
  · rfl

/-! ### Reading what is expected -/

/-- A call that returns has read a message with the expected command, or one that closes
the session, or else it has read nothing. -/
lemma expectThen_inv (hexpected : expected ≠ 0)
    (h : expectThen w fuel expected (.ok s) as next = some (ret, st', as')) :
    ret = -1 ∧ st' = .ok s ∨
      ∃ m as₁, Framable m ∧ avail as = m ++ avail as₁ ∧ u32 (m ++ w.junk) 4 = expected ∧
        ((serverDispatch w fuel (.ok s) ⟨expected, m⟩).1 ≠ 1 ∧ ret = -1 ∧
            st' = (serverDispatch w fuel (.ok s) ⟨expected, m⟩).2 ∨
          (serverDispatch w fuel (.ok s) ⟨expected, m⟩).1 = 1 ∧
            next (serverDispatch w fuel (.ok s) ⟨expected, m⟩).2 as₁ = some (ret, st', as')) := by
  rw [expectThen] at h
  cases hread : srReadFromServerExpect w.junk (serverDispatch w fuel) fuel expected (.ok s) as with
  | none => simp [hread] at h
  | some p =>
      obtain ⟨r, st₁, as₁⟩ := p
      simp only [hread] at h
      rcases srReadFromServerExpect_inv hread with ⟨rfl, rfl⟩ | ⟨m, hm, havail, -, hcmd, hdisp⟩
      · rw [if_pos (by decide), Option.some.injEq, Prod.mk.injEq, Prod.mk.injEq] at h
        exact Or.inl ⟨h.1.symm, h.2.1.symm⟩
      · rcases hcmd with hzero | hcmd | hclose
        · exact absurd hzero hexpected
        · right
          rw [hcmd] at hdisp
          refine ⟨m, as₁, hm, havail, hcmd, ?_⟩
          rw [hdisp]
          by_cases hr : r = 1
          · rw [if_neg (by simpa using hr)] at h
            exact Or.inr ⟨hr, h⟩
          · rw [if_pos hr, Option.some.injEq, Prod.mk.injEq, Prod.mk.injEq] at h
            exact Or.inl ⟨hr, h.1.symm, h.2.1.symm⟩
        · left
          rw [hclose, serverDispatch_close, Prod.mk.injEq] at hdisp
          rw [← hdisp.1, ← hdisp.2, if_pos (by decide), Option.some.injEq, Prod.mk.injEq,
            Prod.mk.injEq] at h
          exact ⟨h.1.symm, h.2.1.symm⟩

/-- The server has asked for authentication, and has accepted the answer. -/
structure Authenticated (w : World) (s : Session) (reply m₁ m₂ : List UInt8) : Prop where
  request : u32 (m₁ ++ w.junk) 4 = vnsAuthRequest
  answered : ∃ ret, ret ≠ 0 ∧
    srHandleAuthRequest (w.auth s.requests) s.strings.userName w.junk m₁ = some (ret, reply)
  status : u32 (m₂ ++ w.junk) 4 = vnsAuthStatus
  accepted : u8 (m₂ ++ w.junk) 8 ≠ 0

/-- What an attempt to open the session comes to; the streams are those before and after
it. -/
inductive Opened (w : World) (s : Session) : ℤ → Session → List UInt8 → List UInt8 → Prop where
  /-- The message was not sent as a whole. -/
  | cut {got rest : List UInt8} (h : got <+: openMessage s.strings s.topoId) :
      Opened w s (-1) { s with control := s.control ++ [got] } rest rest
  /-- The routing table did not come, or could not be written. -/
  | noTable {l rest : List UInt8} (h : s.strings.templateName ≠ []) :
      Opened w s (-1) { s with control := s.control ++ [openMessage s.strings s.topoId] } l rest
  /-- The session is open. -/
  | plain {rest : List UInt8} (h : s.strings.templateName = []) :
      Opened w s 0 { s with control := s.control ++ [openMessage s.strings s.topoId] } rest rest
  /-- The session is open, and the routing table is written. -/
  | table {m rest : List UInt8} (h : s.strings.templateName ≠ []) (hm : Framable m)
      (hcmd : u32 (m ++ w.junk) 4 = vnsRtable) :
      Opened w s 0
        ({ s with control := s.control ++ [openMessage s.strings s.topoId] }.tabled w.junk m)
        (m ++ rest) rest

lemma prefix_sendBuffer (sent : Written) (buf : List UInt8) :
    (sendBuffer sent buf).2 <+: buf := by
  cases sent with
  | failed => exact List.nil_prefix
  | count k => exact List.take_prefix _ _

lemma openSession_inv (h : openSession w fuel (.ok s) as = some (ret, .ok s', as')) :
    Opened w s ret s' (avail as) (avail as') := by
  rw [openSession] at h
  simp only at h
  by_cases hall : (sendBuffer w.opening (openMessage s.strings s.topoId)).1 = true
  · have hgot := sendBuffer_of_eq ((sendBuffer_fst _ _).1 hall)
    rw [hgot] at h
    simp only [Bool.not_true, Bool.false_eq_true, if_false] at h
    by_cases htemplate : s.strings.templateName = []
    · rw [if_neg (by simp [htemplate]), Option.some.injEq, Prod.mk.injEq, Prod.mk.injEq,
        Except.ok.injEq] at h
      obtain ⟨rfl, rfl, rfl⟩ := h
      exact .plain htemplate
    · rw [if_pos (List.length_pos_iff.2 htemplate)] at h
      rcases expectThen_inv (by decide) h with ⟨rfl, hst⟩ | ⟨m, as₁, hm, havail, hcmd, hret⟩
      · obtain rfl := Except.ok.inj hst
        exact .noTable htemplate
      · rw [serverDispatch_rtable] at hret
        split_ifs at hret with hroom hopen
        · rcases hret with ⟨-, -, hst⟩ | ⟨hone, -⟩
          · simp at hst
          · simp at hone
        · rcases hret with ⟨hne, -⟩ | ⟨-, hret⟩
          · exact absurd rfl hne
          · rw [Option.some.injEq, Prod.mk.injEq, Prod.mk.injEq, Except.ok.injEq] at hret
            obtain ⟨rfl, rfl, rfl⟩ := hret
            rw [havail]
            exact .table htemplate hm hcmd
        · rcases hret with ⟨-, rfl, hst⟩ | ⟨hone, -⟩
          · obtain rfl := Except.ok.inj hst
            exact .noTable htemplate
          · simp at hone
  · rw [if_pos (by simpa using hall), Option.some.injEq, Prod.mk.injEq, Prod.mk.injEq,
      Except.ok.injEq] at h
    obtain ⟨rfl, rfl, rfl⟩ := h
    exact .cut (prefix_sendBuffer _ _)

/-! ### A server that keeps to the protocol -/

/-- What the client finds when it is asked to authenticate itself, so that it can answer. -/
structure CanAnswer (env : AuthEnv) (user line : List UInt8) : Prop where
  key : env.keyLine = some line
  memory : env.memory = true
  sent : env.sent = .count (12 + user.length + 20)

/-- A message that the server sends, and its command. -/
structure Sends (m : List UInt8) (command : ℕ) : Prop where
  wellFormed : WellFormed m
  command : u32 m 4 = command

lemma dispatched_of_sends {command : ℕ} (h : Sends m command) : dispatched m = ⟨command, m⟩ := by
  rw [dispatched, h.command]

/-- A message that is expected is dispatched. -/
lemma expectThen_of_sends (w : World) (st : Except Stop Session)
    (next : Except Stop Session → List Arrival → Option (ℤ × Except Stop Session × List Arrival))
    (hm : Sends m expected) (hfuel : 10000 < fuel)
    (havail : avail as = m ++ rest) :
    ∃ as', avail as' = rest ∧ (.failed ∈ as' ↔ .failed ∈ as) ∧
      expectThen w fuel expected st as next =
        if (serverDispatch w fuel st ⟨expected, m⟩).1 ≠ 1 then
          some (-1, (serverDispatch w fuel st ⟨expected, m⟩).2, as')
        else next (serverDispatch w fuel st ⟨expected, m⟩).2 as' := by
  have hexp : Expected expected m := Or.inr (Or.inl hm.command)
  obtain ⟨as', hrest, hfail, hread⟩ : ∃ as', avail as' = rest ∧
      (.failed ∈ as' ↔ .failed ∈ as) ∧
      srReadFromServerExpect w.junk (serverDispatch w fuel) fuel expected st as
        = some ((serverDispatch w fuel st (dispatched m)).1,
          (serverDispatch w fuel st (dispatched m)).2, as') :=
    srReadFromServerExpect_wellFormed hm.wellFormed hfuel havail hexp
  rw [dispatched_of_sends hm] at hread
  exact ⟨as', hrest, hfail, by rw [expectThen, hread]⟩

/-- The reply to an authentication request, as the client sends it. -/
def World.reply (w : World) (s : Session) (line m : List UInt8) : List UInt8 :=
  replyTo s.strings.userName (m.drop 8) (hashedKey (w.auth s.requests).stack line)

/-- The session after it was opened. -/
def Session.opened (s : Session) : Session :=
  { s with control := s.control ++ [openMessage s.strings s.topoId] }

/-- The connection is there, and `send` takes what the client sends. -/
structure Usable (w : World) (s : Session) (line : List UInt8) : Prop where
  resolves : w.resolves = true
  socket : w.socket = true
  connects : w.connects = true
  auth : CanAnswer (w.auth s.requests) s.strings.userName line
  opening : w.opening = .count (openMessage s.strings s.topoId).length

section Serve

variable {line m₁ m₂ m₃ rest' : List UInt8} (hw : Usable w s line)
  (hrequest : Sends m₁ vnsAuthRequest) (hstatus : Sends m₂ vnsAuthStatus) (hok : u8 m₂ 8 ≠ 0)
  (hfuel : 10000 < fuel)

include hw hrequest hstatus hok hfuel

/-- Up to the message that opens the session. -/
lemma srConnectToServer_authenticated (havail : avail as = m₁ ++ (m₂ ++ rest)) :
    ∃ as₂, avail as₂ = rest ∧ srConnectToServer w fuel s as
      = openSession w fuel (.ok (s.replied (w.reply s line m₁))) as₂ := by
  have hauth := hw.auth
  have hreply : srHandleAuthRequest (w.auth s.requests) s.strings.userName w.junk m₁
      = some (1, w.reply s line m₁) := by
    rw [srHandleAuthRequest_of_some hauth.key hrequest.wellFormed, if_pos hauth.memory,
      sendBuffer_of_eq (by rw [hauth.sent, length_replyTo])]
    rfl
  have haccept : srHandleAuthStatus w.junk m₂ ≠ 0 := by
    have hlen : 8 < m₂.length := by
      by_contra hle
      exact hok (by rw [u8, List.getD_eq_default _ _ (not_lt.1 hle)])
    rw [srHandleAuthStatus, u8_append_left hlen]
    intro hzero
    exact hok (UInt8.toNat_inj.1 (by exact_mod_cast hzero))
  obtain ⟨as₁, havail₁, -, hread₁⟩ := expectThen_of_sends w (.ok s)
    (fun st as => expectThen w fuel vnsAuthStatus st as (openSession w fuel)) hrequest hfuel havail
  obtain ⟨as₂, havail₂, -, hread₂⟩ := expectThen_of_sends w (.ok (s.replied (w.reply s line m₁)))
    (openSession w fuel) hstatus hfuel havail₁
  rw [serverDispatch_authRequest hreply, if_neg (fun h => h rfl)] at hread₁
  rw [serverDispatch_authStatus, if_neg haccept, if_neg (fun h => h rfl)] at hread₂
  refine ⟨as₂, havail₂, ?_⟩
  rw [srConnectToServer, if_neg (by simp [hw.resolves]), if_neg (by simp [hw.socket]),
    if_neg (by simp [hw.connects]), hread₁]
  exact hread₂

/-- The session is opened with a topology. -/
lemma srConnectToServer_plain (htemplate : s.strings.templateName = [])
    (havail : avail as = m₁ ++ (m₂ ++ rest)) :
    ∃ as', avail as' = rest ∧ srConnectToServer w fuel s as
      = some (0, .ok (s.replied (w.reply s line m₁)).opened, as') := by
  obtain ⟨as₂, havail₂, hconnect⟩ := srConnectToServer_authenticated hw hrequest hstatus hok hfuel
    havail
  refine ⟨as₂, havail₂, ?_⟩
  rw [hconnect, openSession]
  simp only [Session.replied, sendBuffer_of_eq hw.opening]
  rw [if_neg (by simp), if_neg (by simp [htemplate])]
  rfl

/-- The session is opened with a template. -/
lemma srConnectToServer_table (htemplate : s.strings.templateName ≠ []) (htable : Sends m₃ vnsRtable)
    (hname : (rtableName w.junk m₃).length < 40) (hwritable : w.writable (rtableName w.junk m₃) = true)
    (havail : avail as = m₁ ++ (m₂ ++ (m₃ ++ rest'))) :
    ∃ as', avail as' = rest' ∧ srConnectToServer w fuel s as
      = some (0, .ok ((s.replied (w.reply s line m₁)).opened.tabled w.junk m₃), as') := by
  obtain ⟨as₂, havail₂, hconnect⟩ := srConnectToServer_authenticated hw hrequest hstatus hok hfuel
    havail
  obtain ⟨as₃, havail₃, -, hread⟩ := expectThen_of_sends w
    (.ok (s.replied (w.reply s line m₁)).opened) (fun st as => some (0, st, as)) htable hfuel havail₂
  have htabled : serverDispatch w fuel (.ok (s.replied (w.reply s line m₁)).opened) ⟨vnsRtable, m₃⟩
      = (1, .ok ((s.replied (w.reply s line m₁)).opened.tabled w.junk m₃)) := by
    rw [serverDispatch_rtable, if_neg (by omega), if_pos hwritable]
  rw [htabled, if_neg (fun h => h rfl)] at hread
  refine ⟨as₃, havail₃, ?_⟩
  rw [hconnect, openSession]
  simp only [Session.replied, sendBuffer_of_eq hw.opening]
  rw [if_neg (by simp), if_pos (List.length_pos_iff.2 htemplate)]
  exact hread

end Serve

/-- A server that asks for authentication and accepts the answer, and sends a routing table
if it was asked for one, is served, in whatever pieces its messages arrive: it gets the
answer and the message that opens the session, and the client takes no byte more from the
stream than these messages. -/
theorem handshake_completes {line m₁ m₂ rest : List UInt8} (hw : Usable w s line)
    (hrequest : Sends m₁ vnsAuthRequest) (hstatus : Sends m₂ vnsAuthStatus) (hok : u8 m₂ 8 ≠ 0)
    (hfuel : 10000 < fuel) (havail : avail as = m₁ ++ (m₂ ++ rest)) :
    (s.strings.templateName = [] →
      ∃ as', avail as' = rest ∧ srConnectToServer w fuel s as
        = some (0, .ok (s.replied (w.reply s line m₁)).opened, as')) ∧
      (s.strings.templateName ≠ [] → ∀ m₃ rest', rest = m₃ ++ rest' → Sends m₃ vnsRtable →
        (rtableName w.junk m₃).length < 40 → w.writable (rtableName w.junk m₃) = true →
        ∃ as', avail as' = rest' ∧ srConnectToServer w fuel s as
          = some (0, .ok ((s.replied (w.reply s line m₁)).opened.tabled w.junk m₃), as')) := by
  constructor
  · intro htemplate
    exact srConnectToServer_plain hw hrequest hstatus hok hfuel htemplate havail
  · rintro htemplate m₃ rest' rfl htable hname hwritable
    exact srConnectToServer_table hw hrequest hstatus hok hfuel htemplate htable hname hwritable
      havail

/-! ### A sample session -/

/-- The program with the options `-u abc -v h`, and a template or none. -/
def sampleSession (template : Option (List UInt8)) : Session where
  router := sampleRouter
  strings := Strings.init [97, 98, 99] [104] template (Vector.replicate 29 7) []
  topoId := 3
  files := []
  control := []
  requests := 0

/-- A world in which everything works; the message that opens a session has `n` bytes. -/
def sampleWorld (n : ℕ) : World where
  resolves := true
  socket := true
  connects := true
  auth := fun _ => sampleAuthEnv (List.replicate 64 107)
  opening := .count n
  writable := fun _ => true
  junk := []

/-- The user is accepted. -/
def sampleStatus : List UInt8 := be32s [9, vnsAuthStatus] ++ [1]

lemma sends_sampleRequest : Sends sampleRequest vnsAuthRequest := ⟨wellFormed_sampleRequest, by decide⟩

lemma sends_sampleStatus : Sends sampleStatus vnsAuthStatus :=
  ⟨⟨by decide, by decide, by decide⟩, by decide⟩

lemma usable_sample :
    Usable (sampleWorld 108) (sampleSession none) (List.replicate 64 107) :=
  ⟨rfl, rfl, rfl, ⟨by decide +kernel, rfl, by decide +kernel⟩, by decide +kernel⟩

/-- The request in two pieces, with an interruption. -/
def sampleArrivals : List Arrival :=
  [.data 0 [0, 0], .interrupted, .data 12 (sampleRequest.drop 4 ++ sampleStatus)]

theorem handshake_completes_sample :
    ∃ as', avail as' = [] ∧ srConnectToServer (sampleWorld 108) 10001 (sampleSession none)
        sampleArrivals
      = some (0, .ok ((sampleSession none).replied ((sampleWorld 108).reply (sampleSession none)
        (List.replicate 64 107) sampleRequest)).opened, as') :=
  (handshake_completes usable_sample sends_sampleRequest sends_sampleStatus (by decide) (by decide)
    (by decide +kernel)).1 (by decide +kernel)

/-! ### Any server -/

/-- The handshake has ended before the server accepted the user: nothing was sent, or an answer
to the authentication request at the head of the stream. -/
def EndsEarly (w : World) (s : Session) (as : List Arrival) (s' : Session) : Prop :=
  s' = s ∨ ∃ m rest r got, Framable m ∧ avail as = m ++ rest ∧
    u32 (m ++ w.junk) 4 = vnsAuthRequest ∧
    srHandleAuthRequest (w.auth s.requests) s.strings.userName w.junk m = some (r, got) ∧
    s' = s.replied got

/-- A handshake that returns stops before the server has accepted the user, or it gets to the
message that opens the session. -/
lemma srConnectToServer_cases
    (h : srConnectToServer w fuel s as = some (ret, .ok s', as')) :
    ret = -1 ∧ EndsEarly w s as s' ∨
      ∃ m₁ m₂ as₂ reply, Framable m₁ ∧ Framable m₂ ∧ avail as = m₁ ++ (m₂ ++ avail as₂) ∧
        Authenticated w s reply m₁ m₂ ∧
        openSession w fuel (.ok (s.replied reply)) as₂ = some (ret, .ok s', as') := by
  have hclosed : some (-1, (.ok s : Except Stop Session), as) = some (ret, .ok s', as') →
      ret = -1 ∧ s' = s := by
    intro h
    rw [Option.some.injEq, Prod.mk.injEq, Prod.mk.injEq, Except.ok.injEq] at h
    exact ⟨h.1.symm, h.2.1.symm⟩
  rw [srConnectToServer] at h
  split_ifs at h
  · exact Or.inl ⟨(hclosed h).1, Or.inl (hclosed h).2⟩
  · exact Or.inl ⟨(hclosed h).1, Or.inl (hclosed h).2⟩
  · exact Or.inl ⟨(hclosed h).1, Or.inl (hclosed h).2⟩
  rcases expectThen_inv (by decide) h with ⟨rfl, hst⟩ | ⟨m₁, as₁, hm₁, havail₁, hcmd₁, hret₁⟩
  · exact Or.inl ⟨rfl, Or.inl (Except.ok.inj hst)⟩
  cases hanswer : srHandleAuthRequest (w.auth s.requests) s.strings.userName w.junk m₁ with
  | none =>
      rw [serverDispatch_authRequest_none hanswer] at hret₁
      rcases hret₁ with ⟨-, -, hst⟩ | ⟨hone, -⟩
      · simp at hst
      · simp at hone
  | some p =>
      obtain ⟨r, got⟩ := p
      have hearly : ∀ s', (.ok s' : Except Stop Session) = .ok (s.replied got) →
          EndsEarly w s as s' := fun s' hst =>
        Or.inr ⟨m₁, avail as₁, r, got, hm₁, havail₁, hcmd₁, hanswer, Except.ok.inj hst⟩
      rw [serverDispatch_authRequest hanswer] at hret₁
      rcases hret₁ with ⟨-, rfl, hst⟩ | ⟨hr, hret₁⟩
      · exact Or.inl ⟨rfl, hearly _ hst⟩
      rcases expectThen_inv (by decide) hret₁ with ⟨rfl, hst⟩ | ⟨m₂, as₂, hm₂, havail₂, hcmd₂, hret₂⟩
      · exact Or.inl ⟨rfl, hearly _ hst⟩
      rw [serverDispatch_authStatus] at hret₂
      rcases hret₂ with ⟨-, rfl, hst⟩ | ⟨hok, hret₂⟩
      · exact Or.inl ⟨rfl, hearly _ hst⟩
      right
      refine ⟨m₁, m₂, as₂, got, hm₁, hm₂, by rw [havail₁, havail₂], ⟨hcmd₁, ⟨r, ?_, hanswer⟩,
        hcmd₂, ?_⟩, hret₂⟩
      · rintro rfl
        simp at hr
      · intro hzero
        rw [srHandleAuthStatus, hzero] at hok
        simp at hok

/-- The handshake has nothing to do with the router. -/
lemma srConnectToServer_router (h : srConnectToServer w fuel s as = some (ret, .ok s', as')) :
    s'.router = s.router := by
  rcases srConnectToServer_cases h with
    ⟨-, rfl | ⟨m, rest, r, got, -, -, -, -, rfl⟩⟩ | ⟨m₁, m₂, as₂, reply, -, -, -, -, hopen⟩
  · rfl
  · rfl
  · have hopened := openSession_inv hopen
    generalize avail as₂ = l, avail as' = rest at hopened
    cases hopened with
    | cut hgot => rfl
    | noTable htemplate => rfl
    | plain htemplate => rfl
    | table htemplate hm hcmd => rfl

/-- A handshake that succeeds takes whole messages from the stream. -/
lemma srConnectToServer_consumes (hret : ret ≠ -1)
    (h : srConnectToServer w fuel s as = some (ret, .ok s', as')) :
    ∃ msgs : List (List UInt8), (∀ m ∈ msgs, Framable m) ∧ avail as = msgs.flatten ++ avail as' := by
  rcases srConnectToServer_cases h with ⟨hfail, -⟩ | ⟨m₁, m₂, as₂, reply, hm₁, hm₂, havail, -, hopen⟩
  · exact absurd hfail hret
  · have hopened := openSession_inv hopen
    generalize hl : avail as₂ = l, avail as' = rest at hopened
    rw [havail, hl]
    cases hopened with
    | cut hgot => exact absurd rfl hret
    | noTable htemplate => exact absurd rfl hret
    | plain htemplate => exact ⟨[m₁, m₂], by simp [hm₁, hm₂], by simp⟩
    | @table m rest htemplate hm hcmd => exact ⟨[m₁, m₂, m], by simp [hm₁, hm₂, hm], by simp⟩

/-- Before the server has accepted the user, the client sends an answer to its
authentication request at the most; and it handles no frame before the session is open.  All
messages are found at the head of the stream, one behind the other. -/
theorem nothing_before_authentication
    (h : srConnectToServer w fuel s as = some (ret, .ok s', as')) :
    ret = -1 ∧ EndsEarly w s as s' ∨
      ∃ m₁ m₂ rest reply, Framable m₁ ∧ Framable m₂ ∧ avail as = m₁ ++ (m₂ ++ rest) ∧
        Authenticated w s reply m₁ m₂ ∧ Opened w (s.replied reply) ret s' rest (avail as') := by
  rcases srConnectToServer_cases h with hearly | ⟨m₁, m₂, as₂, reply, hm₁, hm₂, havail, hauth, hopen⟩
  · exact Or.inl hearly
  · exact Or.inr ⟨m₁, m₂, avail as₂, reply, hm₁, hm₂, havail, hauth, openSession_inv hopen⟩

/-- The sample session. -/
theorem nothing_before_authentication_sample :
    ∃ s' as', srConnectToServer (sampleWorld 108) 10001 (sampleSession none) sampleArrivals
        = some (0, .ok s', as') ∧
      ∃ m₁ m₂ rest reply, Framable m₁ ∧ Framable m₂ ∧ avail sampleArrivals = m₁ ++ (m₂ ++ rest) ∧
        Authenticated (sampleWorld 108) (sampleSession none) reply m₁ m₂ ∧
        Opened (sampleWorld 108) ((sampleSession none).replied reply) 0 s' rest (avail as') := by
  obtain ⟨as', -, hconnect⟩ := srConnectToServer_plain usable_sample sends_sampleRequest
    sends_sampleStatus (by decide) (show 10000 < 10001 by decide) (by decide +kernel)
    (show avail sampleArrivals = sampleRequest ++ (sampleStatus ++ []) by decide +kernel)
  refine ⟨_, as', hconnect, ?_⟩
  rcases nothing_before_authentication hconnect with ⟨hret, -⟩ | h
  · simp at hret
  · exact h

end SimpleRouter
