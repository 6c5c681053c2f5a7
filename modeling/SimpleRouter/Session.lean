/-
A session with the server (`sr_connect_to_server` and the main loop).

`serverSwitch` is the `switch` over the commands of `sr_read_from_server_expect`.  A
session begins with a handshake: the client answers an authentication request, waits for
the status, asks for its topology, and, if it has asked by a template, waits for the
routing table.  Then the main loop reads message after message until one of the calls
does not return 1.

What the program does not decide itself is in `World`: files, memory, and what the calls
of the network library return.
-/
import SimpleRouter.Auth
import SimpleRouter.Hwinfo
import SimpleRouter.Assertions

namespace SimpleRouter

open Bytes CString

/-- What the program depends on. -/
structure World where
  /-- `gethostbyname` finds the server. -/
  resolves : Bool
  /-- `socket` returns a socket. -/
  socket : Bool
  /-- `connect` succeeds. -/
  connects : Bool
  /-- What the handler of authentication requests finds, the first time, the second time,
  and so on. -/
  auth : ℕ → AuthEnv
  /-- What `send` returns for the message that opens the session. -/
  opening : Written
  /-- The files that can be opened for writing. -/
  writable : List UInt8 → Bool
  /-- The memory behind the buffer of a message. -/
  junk : List UInt8

/-- `struct sr_instance`, with what the program has written to files and sent to the
server besides frames. -/
structure Session where
  router : Router
  strings : Strings
  topoId : ℕ
  /-- The files that were written, the last one first, each with its name. -/
  files : List (List UInt8 × List UInt8)
  /-- What the server got for each authentication request, and when the session was
  opened. -/
  control : List (List UInt8)
  /-- The number of authentication requests so far. -/
  requests : ℕ

/-- Why a call does not return. -/
inductive Stop where
  | fault (f : Fault)
  /-- An array is written to behind its end. -/
  | overflow
deriving DecidableEq, Repr

/-- `VNSOPEN`. -/
def vnsOpen : ℕ := 1

/-- `VNSBANNER`. -/
def vnsBanner : ℕ := 8

/-- `VNS_OPEN_TEMPLATE`. -/
def vnsOpenTemplate : ℕ := 64

/-! ### The commands -/

/-- `rtable.`, which the names of the files begin with. -/
def rtablePrefix : List UInt8 := [114, 116, 97, 98, 108, 101, 46]

/-- `rtable->mVirtualHostID`, as `strcat` sees it. -/
def rtableId (junk bytes : List UInt8) : List UInt8 :=
  ((bytes ++ junk).drop 8).takeWhile (· ≠ 0)

/-- `rtable->rtable`, as much of it as is written. -/
def rtableText (junk bytes : List UInt8) : List UInt8 :=
  ((bytes ++ junk).drop 40).take (rtableLen (u32 bytes 0)).toNat

/-- `sr_handle_rtable`; the array `fn` has room for 40 characters. -/
def srHandleRtable (w : World) (s : Session) (bytes : List UInt8) : Except Stop (ℤ × Session) :=
  let fn := rtablePrefix ++ rtableId w.junk bytes
  if 40 < fn.length + 1 then .error .overflow
  else if w.writable fn then .ok (1, { s with files := (fn, rtableText w.junk bytes) :: s.files })
  else .ok (0, s)

/-- The case `VNS_AUTH_REQUEST`, with `sr_handle_auth_request`. -/
def answerAuth (w : World) (s : Session) (bytes : List UInt8) : Except Stop (ℤ × Session) :=
  match srHandleAuthRequest (w.auth s.requests) s.strings.userName w.junk bytes with
  | none => .error .overflow
  | some (ret, got) =>
      .ok (ret, { s with control := s.control ++ [got], requests := s.requests + 1 })

/-- The `switch` of `sr_read_from_server_expect`: what is returned, and the session. -/
def serverSwitch (w : World) (fuel : ℕ) (s : Session) (m : Message) : Except Stop (ℤ × Session) :=
  if m.command = vnsPacket then
    match readPacketMessage fuel s.router w.junk m.bytes with
    | .error f => .error (.fault f)
    | .ok router => .ok (1, { s with router := router })
  else if m.command = vnsClose then .ok (0, s)
  else if m.command = vnsBanner then .ok (1, s)
  else if m.command = vnsHwinfo then
    match srHandleHwinfo s.router (hwEntries m.bytes) with
    | .error f => .error (.fault f)
    | .ok router =>
        if srVerifyRoutingTable router.ifList router.routingTable ≠ 0 then
          .ok (-1, { s with router := router })
        else .ok (1, { s with router := router })
  else if m.command = vnsRtable then do
    let (ret, s) ← srHandleRtable w s m.bytes
    .ok (if ret = 0 then -1 else 1, s)
  else if m.command = vnsAuthRequest then do
    let (ret, s) ← answerAuth w s m.bytes
    .ok (if ret = 0 then -1 else 1, s)
  else if m.command = vnsAuthStatus then
    .ok (if srHandleAuthStatus w.junk m.bytes = 0 then -1 else 1, s)
  else .ok (1, s)

/-- The switch, for a session that may have stopped. -/
def serverDispatch (w : World) (fuel : ℕ) (st : Except Stop Session) (m : Message) :
    ℤ × Except Stop Session :=
  match st with
  | .error e => (-1, .error e)
  | .ok s =>
      match serverSwitch w fuel s m with
      | .error e => (-1, .error e)
      | .ok (ret, s) => (ret, .ok s)

/-! ### The handshake -/

/-- The message that opens the session: `c_open_template` or `c_open`. -/
def openMessage (m : Strings) (topoId : ℕ) : List UInt8 :=
  if 0 < m.templateName.length then
    be32s [70, vnsOpenTemplate] ++ strncpy 30 m.template ++ strncpy 32 m.host
  else
    be32s [108, vnsOpen] ++ be16 topoId ++ [0, 0] ++ strncpy 32 m.host ++ strncpy 32 m.user
      ++ List.replicate 32 0

/-- `if(sr_read_from_server_expect(sr, expected) != 1) return -1;`, and what is done next.
The result is `none` if a call takes longer than the fuel. -/
def expectThen (w : World) (fuel expected : ℕ) (st : Except Stop Session) (as : List Arrival)
    (next : Except Stop Session → List Arrival → Option (ℤ × Except Stop Session × List Arrival)) :
    Option (ℤ × Except Stop Session × List Arrival) :=
  match srReadFromServerExpect w.junk (serverDispatch w fuel) fuel expected st as with
  | none => none
  | some (ret, st, as) => if ret ≠ 1 then some (-1, st, as) else next st as

/-- The end of `sr_connect_to_server`: the session is opened. -/
def openSession (w : World) (fuel : ℕ) (st : Except Stop Session) (as : List Arrival) :
    Option (ℤ × Except Stop Session × List Arrival) :=
  match st with
  | .error e => some (-1, .error e, as)
  | .ok s =>
      let (all, got) := sendBuffer w.opening (openMessage s.strings s.topoId)
      let s := { s with control := s.control ++ [got] }
      if !all then some (-1, .ok s, as)
      else if 0 < s.strings.templateName.length then
        expectThen w fuel vnsRtable (.ok s) as fun st as => some (0, st, as)
      else some (0, .ok s, as)

/-- `sr_connect_to_server`: what is returned, the session, and what is still to be read. -/
def srConnectToServer (w : World) (fuel : ℕ) (s : Session) (as : List Arrival) :
    Option (ℤ × Except Stop Session × List Arrival) :=
  if !w.resolves then some (-1, .ok s, as)
  else if !w.socket then some (-1, .ok s, as)
  else if !w.connects then some (-1, .ok s, as)
  else
    expectThen w fuel vnsAuthRequest (.ok s) as fun st as =>
      expectThen w fuel vnsAuthStatus st as (openSession w fuel)

/-! ### The main loop -/

/-- The main loop: the session and what is still to be read when it ends. -/
def mainLoop {σ : Type} (junk : List UInt8) (dispatch : σ → Message → ℤ × σ) (readFuel : ℕ) :
    ℕ → σ → List Arrival → Option (σ × List Arrival)
  | 0, _, _ => none
  | fuel + 1, s, as =>
      match srReadFromServer junk dispatch readFuel s as with
      | none => none
      | some (ret, s, as) =>
          if ret = 1 then mainLoop junk dispatch readFuel fuel s as else some (s, as)

/-! ### One call -/

section Read

variable {σ : Type} {junk : List UInt8} {dispatch : σ → Message → ℤ × σ} {s s' : σ}
  {as as' : List Arrival} {fuel total expected : ℕ} {buf buf' : List UInt8} {ret : ℤ}

/-- What a loop has read when it ends. -/
lemma readLoop_inv (h : readLoop fuel total buf as = .done buf' as') (hle : buf.length ≤ total) :
    ∃ bs, buf' = buf ++ bs ∧ avail as = bs ++ avail as' ∧ buf'.length = total ∧
      (.failed ∈ as' ↔ .failed ∈ as) := by
  induction fuel generalizing buf as with
  | zero => simp [readLoop] at h
  | succ fuel ih =>
      rw [readLoop] at h
      by_cases hlt : buf.length < total
      · rw [if_pos hlt] at h
        rcases recvRetry_cases (n := total - buf.length) (by omega) as with
          ⟨bs, as₁, hrecv, -, hbs, havail, hfail⟩ | ⟨-, -, as₁, hrecv⟩ | ⟨hnil, hfail, hrecv⟩
        · rw [hrecv] at h
          obtain ⟨bs₂, hbuf, havail₂, hlen, hfail₂⟩ := ih h (by rw [List.length_append]; omega)
          refine ⟨bs ++ bs₂, by rw [hbuf, List.append_assoc], ?_, hlen, hfail₂.trans hfail⟩
          rw [havail, havail₂, List.append_assoc]
        · rw [hrecv] at h
          simp at h
        · -- the connection is closed
          rw [hrecv] at h
          obtain ⟨bs₂, hbuf, havail₂, hlen, hfail₂⟩ := ih h (by rw [List.append_nil]; exact hle)
          rw [List.append_nil] at hbuf
          exact ⟨bs₂, hbuf, by rw [hnil]; exact havail₂, hlen, hfail₂.trans (by simp [hfail])⟩
      · rw [if_neg hlt] at h
        obtain ⟨rfl, rfl⟩ := Reading.done.inj h
        exact ⟨[], by simp, rfl, by omega, Iff.rfl⟩

/-- A message that a call can be made for: its length word gives its length, or less than
the word itself is long. -/
structure Framable (m : List UInt8) : Prop where
  ge : 4 ≤ m.length
  le : m.length ≤ 10000
  word : u32 m 0 = m.length ∨ u32 m 0 < 4 ∧ m.length = 4

/-- A call that returns reads a message and passes it to the switch, or it returns -1 and
does nothing. -/
lemma srReadFromServerExpect_inv
    (h : srReadFromServerExpect junk dispatch fuel expected s as = some (ret, s', as')) :
    ret = -1 ∧ s' = s ∨
      ∃ m, Framable m ∧ avail as = m ++ avail as' ∧ (.failed ∈ as' ↔ .failed ∈ as) ∧
        (expected = 0 ∨ u32 (m ++ junk) 4 = expected ∨ u32 (m ++ junk) 4 = vnsClose) ∧
        dispatch s ⟨u32 (m ++ junk) 4, m⟩ = (ret, s') := by
  rw [srReadFromServerExpect] at h
  cases hword : readLoop fuel 4 [] as with
  | outOfFuel => simp [hword] at h
  | failed as₁ =>
      simp only [hword, Option.some.injEq, Prod.mk.injEq] at h
      exact Or.inl ⟨h.1.symm, h.2.1.symm⟩
  | done word as₁ =>
      obtain ⟨bs₁, hbs₁, havail₁, hlen₁, hfail₁⟩ := readLoop_inv hword (by simp)
      simp only [hword] at h
      by_cases hbad : badLength (u32 word 0)
      · rw [if_pos hbad, Option.some.injEq, Prod.mk.injEq, Prod.mk.injEq] at h
        exact Or.inl ⟨h.1.symm, h.2.1.symm⟩
      · rw [if_neg hbad] at h
        cases hbody : readLoop fuel (u32 word 0 - 4) [] as₁ with
        | outOfFuel => simp [hbody] at h
        | failed as₂ =>
            simp only [hbody, Option.some.injEq, Prod.mk.injEq] at h
            exact Or.inl ⟨h.1.symm, h.2.1.symm⟩
        | done body as₂ =>
            obtain ⟨bs₂, hbs₂, havail₂, hlen₂, hfail₂⟩ := readLoop_inv hbody (by simp)
            rw [List.nil_append] at hbs₁ hbs₂
            subst hbs₁ hbs₂
            have hframable : Framable (word ++ body) := by
              rw [badLength_iff] at hbad
              have hu32 : u32 (word ++ body) 0 = u32 word 0 := u32_append_left (by omega)
              refine ⟨?_, ?_, ?_⟩
              · rw [List.length_append]
                omega
              · rw [List.length_append]
                omega
              · rw [List.length_append, hu32]
                omega
            simp only [hbody] at h
            split_ifs at h with hexp
            · rw [Option.some.injEq, Prod.mk.injEq, Prod.mk.injEq] at h
              exact Or.inl ⟨h.1.symm, h.2.1.symm⟩
            · simp only [Option.some.injEq, Prod.mk.injEq] at h
              obtain ⟨hret, hs', rfl⟩ := h
              refine Or.inr ⟨word ++ body, hframable, ?_, hfail₂.trans hfail₁, ?_,
                Prod.ext hret hs'⟩
              · rw [havail₁, havail₂, List.append_assoc]
              · tauto

/-- The call for a dispatcher, from the call for one that notes what it is asked for. -/
lemma srReadFromServerExpect_record :
    srReadFromServerExpect junk dispatch fuel expected s as
      = (srReadFromServerExpect junk (fun _ m => (0, some (dispatch s m))) fuel expected none as).map
          fun p => match p.2.1 with
            | none => (p.1, s, p.2.2)
            | some q => (q.1, q.2, p.2.2) := by
  rw [srReadFromServerExpect, srReadFromServerExpect]
  cases readLoop fuel 4 [] as with
  | outOfFuel => rfl
  | failed as₁ => rfl
  | done word as₁ =>
      by_cases hbad : badLength (u32 word 0)
      · simp only [hbad, if_true]
        rfl
      · simp only [hbad, if_false]
        cases readLoop fuel (u32 word 0 - 4) [] as₁ with
        | outOfFuel => rfl
        | failed as₂ => rfl
        | done body as₂ =>
            simp only
            split_ifs with hexp
            · rfl
            · rfl

/-- A call for a whole message, with what it returns. -/
lemma srReadFromServerExpect_wellFormed {m rest : List UInt8} (hm : WellFormed m)
    (hfuel : 10000 < fuel) (havail : avail as = m ++ rest) (hexp : Expected expected m) :
    ∃ as', avail as' = rest ∧ (.failed ∈ as' ↔ .failed ∈ as) ∧
      srReadFromServerExpect junk dispatch fuel expected s as
        = some ((dispatch s (dispatched m)).1, (dispatch s (dispatched m)).2, as') := by
  obtain ⟨ret, as', hret, hrest⟩ : ∃ ret as', srReadFromServerExpect junk
      (fun _ m => (0, some (dispatch s m))) fuel expected none as
        = some (ret, deliver (fun _ m => (0, some (dispatch s m))) none (expected, m), as') ∧
      avail as' = rest := srReadFromServerExpect_message hm hfuel havail
  rw [deliver, if_pos hexp] at hret
  refine ⟨as', hrest, ?_, ?_⟩
  · rcases srReadFromServerExpect_inv hret with ⟨-, hnone⟩ | ⟨m', -, -, hfail, -⟩
    · simp at hnone
    · exact hfail
  · rw [srReadFromServerExpect_record, hret]
    rfl

end Read

end SimpleRouter
