/-
The mutual recursion of `handle_arpreq` as a big-step relation.

`Exec c s s'` says that the call `c`, either `handle_arpreq` on a request or its
loop over the packets that are left to be given up, returns and leads from `s`
to `s'`.  There is one rule for each thing that can happen; a packet of the
loop is skipped, or reported without a route back, or reported by an error that
is queued on the request of the next hop on the way back, which is then handled
in turn.  `exec_of_handleArpreq` and `returns_of_exec` say that the
relation holds exactly when the function returns for some fuel.
-/
import SimpleRouter.Effects

namespace SimpleRouter

open Bytes CString

/-! ### The way back -/

/-- The source address of a queued packet. -/
def SrPacket.src (pkt : SrPacket) : Ip := ip32 pkt.buf 26

/-- The next hop under which an error sent to `dst` is queued when its source
address is taken from the route: there must be a route with an existing
interface that has an address. -/
def returnHop (s : Router) (dst : Ip) : Option Ip :=
  match lookupRoute s dst with
  | none => none
  | some (rt, i) => if i.ip = 0 then none else some (nextHop rt dst)

variable {s s' s₁ s₂ : Router} {id nid a : ReqId} {req : SrArpreq} {pkt : SrPacket}
  {rest pkts : List SrPacket}

lemma returnHop_congr (hif : s'.ifList = s.ifList) (hrt : s'.routingTable = s.routingTable)
    (dst : Ip) : returnHop s' dst = returnHop s dst := by
  rw [returnHop, returnHop, lookupRoute_congr hif hrt]

lemma returnSource_eq (s : Router) (dst : Ip) :
    returnSource s dst = match lookupRoute s dst with
      | none => 0
      | some (_, i) => i.ip := by
  rw [returnSource, lookupRoute]
  cases rtExactMatch s.routingTable dst with
  | none => rfl
  | some rt =>
      simp only [Option.bind_some]
      cases srGetInterface s.ifList rt.interface with
      | none => rfl
      | some i => rfl

lemma returnHop_eq_none_iff {dst : Ip} : returnHop s dst = none ↔ returnSource s dst = 0 := by
  rw [returnHop, returnSource_eq]
  cases lookupRoute s dst with
  | none => simp
  | some p => simp

lemma returnSource_congr (hif : s'.ifList = s.ifList) (hrt : s'.routingTable = s.routingTable)
    (dst : Ip) : returnSource s' dst = returnSource s dst := by
  rw [returnSource_eq, returnSource_eq, lookupRoute_congr hif hrt]

/-! ### The call relation -/

/-- `difftime(now, req->sent) >= 1.0` and `req->times_sent >= 5`. -/
def Expired (now : ℕ) (r : SrArpreq) : Prop := 1 ≤ now - r.sent ∧ 5 ≤ r.timesSent

instance (now : ℕ) (r : SrArpreq) : Decidable (Expired now r) :=
  inferInstanceAs (Decidable (_ ∧ _))

/-- The state after `send_icmp_error` has been called for a packet of `id` and has
read its IP header. -/
def noted (s : Router) (id : ReqId) (pkt : SrPacket) : Router :=
  (s.emit (.icmpError 3 1 (.giveUp id pkt.fid))).noteRead pkt.buf 14 20

/-- The state after the quoted bytes have been read as well. -/
def quoted (s : Router) (id : ReqId) (pkt : SrPacket) : Router :=
  (noted s id pkt).noteRead pkt.buf 14 28

/-- The host-unreachable error for a packet. -/
def unreachableFrame (s : Router) (id : ReqId) (pkt : SrPacket) : Frame :=
  icmpErrorFrame 3 1 (returnSource s pkt.src) pkt.src ((noted s id pkt).peek pkt.buf 14 28)

/-- A call of `handle_arpreq`, or its loop over the packets that are left. -/
inductive Call where
  | handle (id : ReqId)
  | giveUp (id : ReqId) (pkts : List SrPacket)

/-- `Exec c s s'`: the call `c` returns and leads from `s` to `s'`. -/
inductive Exec : Call → Router → Router → Prop
  /-- Less than a second has passed. -/
  | idle {s : Router} {id : ReqId} {req : SrArpreq} (hf : s.findReq id = some req)
      (ht : s.now - req.sent < 1) : Exec (.handle id) s s
  /-- Another ARP request is broadcast. -/
  | retry {s : Router} {id : ReqId} {req : SrArpreq} (hf : s.findReq id = some req)
      (ht : 1 ≤ s.now - req.sent) (hn : req.timesSent < 5) :
      Exec (.handle id) s (retryArp s req)
  /-- The request is given up. -/
  | expire {s s' : Router} {id : ReqId} {req : SrArpreq} (hf : s.findReq id = some req)
      (hx : Expired s.now req) (hloop : Exec (.giveUp id req.packets) s s') :
      Exec (.handle id) s (srArpreqDestroy s' id)
  /-- No packet is left. -/
  | done {s : Router} {id : ReqId} : Exec (.giveUp id []) s s
  /-- A packet without an IP header is skipped. -/
  | short {s s' : Router} {id : ReqId} {pkt : SrPacket} {rest : List SrPacket}
      (hl : pkt.buf.length < 34) (hrest : Exec (.giveUp id rest) s s') :
      Exec (.giveUp id (pkt :: rest)) s s'
  /-- There is no way back to the sender of the packet. -/
  | mute {s s' : Router} {id : ReqId} {pkt : SrPacket} {rest : List SrPacket}
      (hl : 34 ≤ pkt.buf.length) (hsrc : returnSource s pkt.src = 0)
      (hlive : (s.findReq id).isSome) (hrest : Exec (.giveUp id rest) (noted s id pkt) s') :
      Exec (.giveUp id (pkt :: rest)) s s'
  /-- An error is queued, and the request it is queued on is handled. -/
  | report {s s₁ s₂ s' : Router} {id nid : ReqId} {pkt : SrPacket} {rest : List SrPacket}
      (hl : 34 ≤ pkt.buf.length) (hsrc : returnSource s pkt.src ≠ 0)
      (hq : routeAndQueue (quoted s id pkt) (unreachableFrame s id pkt) = (s₁, some nid))
      (hcall : Exec (.handle nid) s₁ s₂) (hlive : (s₂.findReq id).isSome)
      (hrest : Exec (.giveUp id rest) s₂ s') : Exec (.giveUp id (pkt :: rest)) s s'

/-! ### The relation and the function -/

lemma bind_eq_ok {α β : Type} {x : Except Fault α} {f : α → Except Fault β} {b : β} :
    (x >>= f) = .ok b ↔ ∃ a, x = .ok a ∧ f a = .ok b := by
  cases x with
  | error e => simp [bind, Except.bind]
  | ok a => simp [bind, Except.bind]

lemma map_eq_ok {α β : Type} {x : Except Fault α} {f : α → β} {b : β} :
    x.map f = .ok b ↔ ∃ a, x = .ok a ∧ f a = b := by
  cases x with
  | error e => simp [Except.map]
  | ok a => simp [Except.map]

lemma length_icmpErrorFrame {type code : UInt8} {src dst : Ip} {data : List UInt8}
    (hdata : data.length = 28) : (icmpErrorFrame type code src dst data).length = 70 := by
  have hip : (icmpErrorIpHdr src dst).length = 20 := by
    rw [icmpErrorIpHdr, length_patch] <;> simp
  have hmsg : (icmpErrorMsg type code data).length = 36 := by
    rw [icmpErrorMsg, length_patch] <;> simp [hdata]
  simp [icmpErrorFrame, hip, hmsg]

/-- The header of an ICMP error, in front of a message. -/
lemma ip32_icmpErrorFrame_dst {type code : UInt8} {src dst : Ip} {data : List UInt8} :
    ip32 (icmpErrorFrame type code src dst data) 30 = dst := by
  rfl

lemma ip32_icmpErrorFrame_src {type code : UInt8} {src dst : Ip} {data : List UInt8} :
    ip32 (icmpErrorFrame type code src dst data) 26 = src := by
  rfl

/-- The source address of an error to `dst`, when the caller proposes `srcIp`. -/
def errorSource (s : Router) (srcIp dst : Ip) : Ip :=
  if srcIp = 0 then returnSource s dst else srcIp

/-- `send_icmp_error` on a frame with an IP header. -/
lemma sendIcmpError_eq (handle : Router → ReqId → Except Fault Router) (s : Router) (cause : Cause)
    (type code : UInt8) {orig : Frame} (srcIp : Ip) (hl : 34 ≤ orig.length) :
    sendIcmpError handle s cause type code orig srcIp =
      if errorSource s srcIp (ip32 orig 26) = 0 then
        .ok ((s.emit (.icmpError type code cause)).noteRead orig 14 20)
      else
        (routeAndSend handle
          (((s.emit (.icmpError type code cause)).noteRead orig 14 20).noteRead orig 14 28)
          (icmpErrorFrame type code (errorSource s srcIp (ip32 orig 26)) (ip32 orig 26)
            (((s.emit (.icmpError type code cause)).noteRead orig 14 20).peek orig 14 28))).map
          Prod.snd := by
  have hsrc : ipSrc ((s.emit (.icmpError type code cause)).peek orig 14 20) = ip32 orig 26 := by
    rw [Router.peek_eq_slice _ (by omega), ipSrc, ip32_slice (by omega)]
  have hback : returnSource ((s.emit (.icmpError type code cause)).noteRead orig 14 20)
      (ip32 orig 26) = returnSource s (ip32 orig 26) := returnSource_congr rfl rfl _
  rw [sendIcmpError]
  simp only [if_neg (show ¬ orig.length < 14 + 20 by omega), Router.load, hsrc, hback,
    ← errorSource.eq_1]
  split_ifs with hz
  · rfl
  · cases routeAndSend handle
        (((s.emit (.icmpError type code cause)).noteRead orig 14 20).noteRead orig 14 28)
        (icmpErrorFrame type code (errorSource s srcIp (ip32 orig 26)) (ip32 orig 26)
          (((s.emit (.icmpError type code cause)).noteRead orig 14 20).peek orig 14 28)) with
    | error e => rfl
    | ok p => rfl

/-- `send_icmp_error` on a packet of a request that is given up. -/
lemma sendIcmpError_giveUp (handle : Router → ReqId → Except Fault Router) (s : Router)
    (id : ReqId) (pkt : SrPacket) (hl : 34 ≤ pkt.buf.length) :
    sendIcmpError handle s (.giveUp id pkt.fid) 3 1 pkt.buf 0 =
      if returnSource s pkt.src = 0 then .ok (noted s id pkt)
      else (routeAndSend handle (quoted s id pkt) (unreachableFrame s id pkt)).map Prod.snd := by
  have hsrc : errorSource s 0 (ip32 pkt.buf 26) = returnSource s pkt.src := if_pos rfl
  rw [sendIcmpError_eq handle s _ 3 1 0 hl, hsrc]
  rfl

lemma routeAndSend_eq_ok_iff {handle : Router → ReqId → Except Fault Router} {frame : Frame}
    {rc : ℤ} :
    routeAndSend handle s frame = .ok (rc, s') ↔
      (routeAndQueue s frame = (s', none) ∧ rc = -1) ∨
        ∃ s₁ nid, routeAndQueue s frame = (s₁, some nid) ∧ handle s₁ nid = .ok s' ∧ rc = 0 := by
  rw [routeAndSend]
  rcases hq : routeAndQueue s frame with ⟨s₁, _ | nid⟩
  · simp [and_comm, eq_comm]
  · simp only [bind_eq_ok, Except.ok.injEq, Prod.mk.injEq, reduceCtorEq, and_false, false_and,
      Option.some.injEq, false_or]
    constructor
    · rintro ⟨s₂, hs₂, rfl, rfl⟩
      exact ⟨s₁, nid, ⟨rfl, rfl⟩, hs₂, rfl⟩
    · rintro ⟨s₃, nid', ⟨rfl, rfl⟩, h, rfl⟩
      exact ⟨s', h, rfl, rfl⟩

/-- A call of `route_and_send` that returns has found no route, or it has queued the frame
and handled the request it is on. -/
lemma routeAndSend_cases {handle : Router → ReqId → Except Fault Router} {frame : Frame} {rc : ℤ}
    (hw : WF s) (h : routeAndSend handle s frame = .ok (rc, s')) :
    (frame.length < 34 ∧ s' = s) ∨
    (34 ≤ frame.length ∧ lookupRoute s (ip32 frame 30) = none ∧ s' = s.noteRead frame 14 20) ∨
    (34 ≤ frame.length ∧ ∃ rt i s₁ nid, lookupRoute s (ip32 frame 30) = some (rt, i) ∧
      Queues ((s.noteRead frame 14 20).emit
          (.accepted (nextHop rt (ip32 frame 30)) (routedPacket s frame i)))
        (nextHop rt (ip32 frame 30)) (routedPacket s frame i) s₁ nid ∧
      handle s₁ nid = .ok s') := by
  rw [routeAndSend_eq_ok_iff] at h
  rcases routeAndQueue_cases hw frame with
    ⟨hlen, hq⟩ | ⟨hlen, hroute, hq⟩ | ⟨hlen, rt, i, s₁, nid, hroute, hq, hqs⟩
  · rw [hq] at h
    rcases h with ⟨h, -⟩ | ⟨s₁, nid, h, -⟩
    · obtain rfl : s = s' := by simpa using h
      exact Or.inl ⟨hlen, rfl⟩
    · simp at h
  · rw [hq] at h
    rcases h with ⟨h, -⟩ | ⟨s₁, nid, h, -⟩
    · obtain rfl : s.noteRead frame 14 20 = s' := by simpa using h
      exact Or.inr (Or.inl ⟨hlen, hroute, rfl⟩)
    · simp at h
  · rw [hq] at h
    rcases h with ⟨h, -⟩ | ⟨s₂, nid', h, hcall, -⟩
    · simp at h
    · obtain ⟨rfl, rfl⟩ : s₁ = s₂ ∧ nid = nid' := by simpa using h
      exact Or.inr (Or.inr ⟨hlen, rt, i, s₁, nid, hroute, hqs, hcall⟩)

/-- A call of `send_icmp_error` that returns has found no source for the error, or it has
passed the error on. -/
lemma sendIcmpError_cases {handle : Router → ReqId → Except Fault Router} {cause : Cause}
    {type code : UInt8} {orig : Frame} {srcIp : Ip} (hl : 34 ≤ orig.length)
    (h : sendIcmpError handle s cause type code orig srcIp = .ok s') :
    (errorSource s srcIp (ip32 orig 26) = 0 ∧
      s' = (s.emit (.icmpError type code cause)).noteRead orig 14 20) ∨
    (errorSource s srcIp (ip32 orig 26) ≠ 0 ∧ ∃ rc, routeAndSend handle
      (((s.emit (.icmpError type code cause)).noteRead orig 14 20).noteRead orig 14 28)
      (icmpErrorFrame type code (errorSource s srcIp (ip32 orig 26)) (ip32 orig 26)
        (((s.emit (.icmpError type code cause)).noteRead orig 14 20).peek orig 14 28))
      = .ok (rc, s')) := by
  rw [sendIcmpError_eq handle s cause type code srcIp hl] at h
  split_ifs at h with hsrc
  · rw [Except.ok.injEq] at h
    exact Or.inl ⟨hsrc, h.symm⟩
  · rw [map_eq_ok] at h
    obtain ⟨⟨rc, s₁⟩, hsend, rfl⟩ := h
    exact Or.inr ⟨hsrc, rc, hsend⟩

/-- The error for a packet with a way back is queued. -/
lemma exists_routeAndQueue_quoted (id : ReqId) (hsrc : returnSource s pkt.src ≠ 0) :
    ∃ s₁ nid, routeAndQueue (quoted s id pkt) (unreachableFrame s id pkt) = (s₁, some nid) := by
  have hlen : 34 ≤ (unreachableFrame s id pkt).length := by
    rw [unreachableFrame, length_icmpErrorFrame (Router.length_peek _ _ _ _)]
    omega
  rw [returnSource_eq] at hsrc
  cases hroute : lookupRoute s pkt.src with
  | none => simp [hroute] at hsrc
  | some p =>
      obtain ⟨s₁, nid, h, -⟩ := routeAndQueue_of_route (s := quoted s id pkt) hlen hroute
      exact ⟨s₁, nid, h⟩

lemma exec_of_giveUpLoop {handle : Router → ReqId → Except Fault Router}
    (hh : ∀ s id s', handle s id = .ok s' → Exec (.handle id) s s')
    (h : giveUpLoop handle id pkts s = .ok s') : Exec (.giveUp id pkts) s s' := by
  induction pkts generalizing s with
  | nil =>
      rw [giveUpLoop, Except.ok.injEq] at h
      subst h
      exact .done
  | cons pkt rest ih =>
      rw [giveUpLoop] at h
      split_ifs at h with hl
      · exact .short hl (ih h)
      · rw [not_lt] at hl
        rw [bind_eq_ok] at h
        obtain ⟨s₂, hs₂, h⟩ := h
        rw [sendIcmpError_giveUp handle s id pkt hl] at hs₂
        split_ifs at h with hlive
        split_ifs at hs₂ with hsrc
        · rw [Except.ok.injEq] at hs₂
          subst hs₂
          exact .mute hl hsrc hlive (ih h)
        · obtain ⟨s₁, nid, hq⟩ := exists_routeAndQueue_quoted id hsrc
          rw [routeAndSend, hq] at hs₂
          cases hcall : handle s₁ nid with
          | error e => simp [hcall, bind, Except.bind, Except.map] at hs₂
          | ok s₃ =>
              obtain rfl : s₃ = s₂ := by
                simpa [hcall, bind, Except.bind, Except.map] using hs₂
              exact .report hl hsrc hq (hh _ _ _ hcall) hlive (ih h)

/-- A call that returns is derivable. -/
theorem exec_of_handleArpreq {fuel : ℕ} (h : handleArpreq fuel s id = .ok s') :
    Exec (.handle id) s s' := by
  induction fuel generalizing s id s' with
  | zero => simp [handleArpreq] at h
  | succ fuel ih =>
      rw [handleArpreq] at h
      cases hf : s.findReq id with
      | none => simp [hf] at h
      | some req =>
          simp only [hf] at h
          split_ifs at h with ht hn
          · rw [Except.ok.injEq] at h
            subst h
            exact .idle hf ht
          · rw [bind_eq_ok] at h
            obtain ⟨s₁, hloop, h⟩ := h
            rw [Except.ok.injEq] at h
            subst h
            exact .expire hf ⟨by omega, hn⟩ (exec_of_giveUpLoop (fun _ _ _ => ih) hloop)
          · rw [Except.ok.injEq] at h
            subst h
            exact .retry hf (by omega) (by omega)

/-! More fuel does not change what a call returns. -/

lemma giveUpLoop_mono {handle handle' : Router → ReqId → Except Fault Router}
    (hh : ∀ s id s', handle s id = .ok s' → handle' s id = .ok s')
    (h : giveUpLoop handle id pkts s = .ok s') : giveUpLoop handle' id pkts s = .ok s' := by
  induction pkts generalizing s with
  | nil => exact h
  | cons pkt rest ih =>
      rw [giveUpLoop] at h ⊢
      split_ifs at h ⊢ with hl
      · exact ih h
      · rw [not_lt] at hl
        rw [bind_eq_ok] at h ⊢
        obtain ⟨s₂, hs₂, h⟩ := h
        refine ⟨s₂, ?_, ?_⟩
        · rw [sendIcmpError_giveUp _ s id pkt hl] at hs₂ ⊢
          split_ifs at hs₂ ⊢ with hsrc
          · exact hs₂
          · obtain ⟨s₁, nid, hq⟩ := exists_routeAndQueue_quoted id hsrc
            rw [routeAndSend, hq] at hs₂ ⊢
            cases hcall : handle s₁ nid with
            | error e => simp [hcall, bind, Except.bind, Except.map] at hs₂
            | ok s₃ =>
                simp only [hcall, bind, Except.bind, Except.map] at hs₂
                simpa [hh _ _ _ hcall, bind, Except.bind, Except.map] using hs₂
        · split_ifs at h ⊢ with hlive
          exact ih h

lemma handleArpreq_mono {fuel fuel' : ℕ} (hle : fuel ≤ fuel')
    (h : handleArpreq fuel s id = .ok s') : handleArpreq fuel' s id = .ok s' := by
  induction fuel generalizing fuel' s id s' with
  | zero => simp [handleArpreq] at h
  | succ fuel ih =>
      obtain ⟨k, rfl⟩ : ∃ k, fuel' = k + 1 := ⟨fuel' - 1, by omega⟩
      rw [handleArpreq] at h ⊢
      cases hf : s.findReq id with
      | none => simp [hf] at h
      | some req =>
          simp only [hf] at h ⊢
          split_ifs at h ⊢ with ht hn
          · exact h
          · rw [bind_eq_ok] at h ⊢
            obtain ⟨s₁, hloop, h⟩ := h
            exact ⟨s₁, giveUpLoop_mono (fun _ _ _ => ih (by omega)) hloop, h⟩
          · exact h

/-- The function behind a call. -/
def Call.run (fuel : ℕ) (s : Router) : Call → Except Fault Router
  | .handle id => handleArpreq fuel s id
  | .giveUp id pkts => giveUpLoop (handleArpreq fuel) id pkts s

/-- A derivable call returns for some fuel. -/
theorem returns_of_exec {c : Call} (h : Exec c s s') : ∃ fuel, c.run fuel s = .ok s' := by
  induction h with
  | idle hf ht => exact ⟨1, by simp [Call.run, handleArpreq, hf, ht]⟩
  | @retry s id req hf ht hn =>
      refine ⟨1, ?_⟩
      simp only [Call.run, handleArpreq, hf]
      rw [if_neg (by omega), if_neg (by omega)]
  | @expire s s' id req hf hx _ ih =>
      obtain ⟨fuel, hloop⟩ := ih
      refine ⟨fuel + 1, ?_⟩
      simp only [Call.run] at hloop
      simp only [Call.run, handleArpreq, hf]
      rw [if_neg (by have := hx.1; omega), if_pos hx.2, hloop]
      rfl
  | done => exact ⟨0, rfl⟩
  | short hl _ ih =>
      obtain ⟨fuel, hloop⟩ := ih
      exact ⟨fuel, by rw [Call.run, giveUpLoop, if_pos (by omega)]; exact hloop⟩
  | @mute s s' id pkt rest hl hsrc hlive _ ih =>
      obtain ⟨fuel, hloop⟩ := ih
      refine ⟨fuel, ?_⟩
      rw [Call.run, giveUpLoop, if_neg (by omega), sendIcmpError_giveUp _ s id pkt hl, if_pos hsrc,
        bind_eq_ok]
      refine ⟨noted s id pkt, rfl, ?_⟩
      rw [if_pos (show ((noted s id pkt).findReq id).isSome from hlive)]
      exact hloop
  | @report s s₁ s₂ s' id nid pkt rest hl hsrc hq _ hlive _ ih₁ ih₂ =>
      obtain ⟨fuel₁, hcall⟩ := ih₁
      obtain ⟨fuel₂, hloop⟩ := ih₂
      refine ⟨max fuel₁ fuel₂, ?_⟩
      rw [Call.run, giveUpLoop, if_neg (by omega), sendIcmpError_giveUp _ s id pkt hl, if_neg hsrc,
        bind_eq_ok]
      refine ⟨s₂, ?_, ?_⟩
      · rw [routeAndSend, hq]
        simp [handleArpreq_mono (le_max_left _ _) hcall, bind, Except.bind, Except.map]
      · rw [if_pos hlive]
        exact giveUpLoop_mono (fun _ _ _ => handleArpreq_mono (le_max_right _ _)) hloop

/-- `handle_arpreq` returns on `id` in `s`. -/
def Returns (s : Router) (id : ReqId) : Prop := ∃ fuel s', handleArpreq fuel s id = .ok s'

lemma returns_iff_exec : Returns s id ↔ ∃ s', Exec (.handle id) s s' := by
  constructor
  · rintro ⟨fuel, s', h⟩
    exact ⟨s', exec_of_handleArpreq h⟩
  · rintro ⟨s', h⟩
    obtain ⟨fuel, h⟩ := returns_of_exec h
    exact ⟨fuel, s', h⟩

end SimpleRouter
