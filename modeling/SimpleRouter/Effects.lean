/-
What the functions that send a frame do to the state.

`core` forgets the trace and the record of reads.  Sending changes nothing
else, so each of these functions is described by the observation it appends
and by the equation that its core is the old one.
-/
import SimpleRouter.Queue

namespace SimpleRouter

open Bytes CString

/-- The state without trace and reads. -/
def Router.core (s : Router) : Router := { s with trace := [], reads := [] }

variable {s s' : Router} {o : Obs} {id : ReqId} {req : SrArpreq}

@[simp] lemma core_emit (s : Router) (o : Obs) : (s.emit o).core = s.core := rfl

@[simp] lemma core_noteRead (s : Router) (buf : List UInt8) (off n : ℕ) :
    (s.noteRead buf off n).core = s.core := rfl

section Core

variable (h : s'.core = s.core)

include h

lemma ifList_of_core : s'.ifList = s.ifList := (congrArg Router.ifList h :)
lemma routingTable_of_core : s'.routingTable = s.routingTable := (congrArg Router.routingTable h :)
lemma requests_of_core : s'.requests = s.requests := (congrArg Router.requests h :)
lemma entries_of_core : s'.entries = s.entries := (congrArg Router.entries h :)
lemma now_of_core : s'.now = s.now := (congrArg Router.now h :)
lemma nextId_of_core : s'.nextId = s.nextId := (congrArg Router.nextId h :)
lemma nextFid_of_core : s'.nextFid = s.nextFid := (congrArg Router.nextFid h :)

lemma findReq_of_core (a : ReqId) : s'.findReq a = s.findReq a := by
  rw [Router.findReq, Router.findReq, requests_of_core h]

lemma WF.of_core (hw : WF s) : WF s' := hw.congr (requests_of_core h) (nextId_of_core h)

end Core

/-! ### Sending a frame -/

/-- The disposition of a frame by the checks of `sr_send_packet`. -/
def sendVerdict (ifs : List SrIf) (buf : Frame) (iface : List UInt8) : Verdict :=
  if buf.length < 14 then .tooShort
  else if srEtherAddrsMatchInterface ifs buf iface then .passed else .mismatch

lemma peek_all (s : Router) (buf : List UInt8) : s.peek buf 0 buf.length = buf := by
  rw [s.peek_eq_slice (by omega), slice]
  simp

lemma srSendPacket_eq (s : Router) (origin : Origin) (buf : Frame) (iface : List UInt8) :
    srSendPacket s origin buf iface =
      (if buf.length < 14 then s else s.noteRead buf 0 buf.length).emit
        (.sent origin iface buf (sendVerdict s.ifList buf iface)) := by
  rw [srSendPacket, sendVerdict]
  by_cases hlen : buf.length < 14
  · simp only [hlen, if_true]
  · simp only [hlen, if_false, Router.load, peek_all, Router.noteRead_ifList]
    by_cases hm : srEtherAddrsMatchInterface s.ifList buf iface
    · simp only [hm, if_true]
    · simp only [hm]
      rfl

@[simp] lemma srSendPacket_core (s : Router) (origin : Origin) (buf : Frame)
    (iface : List UInt8) : (srSendPacket s origin buf iface).core = s.core := by
  rw [srSendPacket_eq, core_emit]
  split_ifs <;> rfl

@[simp] lemma sendArpReply_core (s : Router) (arp : List UInt8) (i : SrIf) :
    (sendArpReply s arp i).core = s.core :=
  srSendPacket_core _ _ _ _

lemma srSendPacket_trace (s : Router) (origin : Origin) (buf : Frame) (iface : List UInt8) :
    (srSendPacket s origin buf iface).trace =
      s.trace ++ [(s.now, .sent origin iface buf (sendVerdict s.ifList buf iface))] := by
  rw [srSendPacket_eq]
  split_ifs <;> rfl

/-- Sending reads the frame from end to end. -/
lemma srSendPacket_reads (s : Router) (origin : Origin) (buf : Frame) (iface : List UInt8) :
    ∀ r ∈ (srSendPacket s origin buf iface).reads, r ∈ s.reads ∨ r.InBounds := by
  rw [srSendPacket_eq]
  intro r hr
  split_ifs at hr
  · exact Or.inl hr
  · rcases List.mem_append.1 hr with hr | hr
    · exact Or.inl hr
    · rw [List.mem_singleton] at hr
      subst hr
      exact Or.inr (by simp [Read.InBounds])

/-- The frames the router has passed to `write`, with the names that were passed
along. -/
def sentFrames (trace : List (ℕ × Obs)) : List (Frame × List UInt8) :=
  trace.filterMap fun o =>
    match o.2 with
    | .sent _ iface frame .passed => some (frame, iface)
    | _ => none

lemma sentFrames_cons_passed (now : ℕ) (origin : Origin) (iface : List UInt8) (frame : Frame)
    (obs : List (ℕ × Obs)) :
    sentFrames ((now, .sent origin iface frame .passed) :: obs) = (frame, iface) :: sentFrames obs :=
  rfl

lemma sentFrames_cons_rejected {v : Verdict} (now : ℕ) (origin : Origin) (iface : List UInt8)
    (frame : Frame) (obs : List (ℕ × Obs)) (hv : v ≠ .passed) :
    sentFrames ((now, .sent origin iface frame v) :: obs) = sentFrames obs := by
  cases v with
  | passed => exact absurd rfl hv
  | tooShort => rfl
  | mismatch => rfl

lemma length_arpFrame (dhost : Mac) (iface : SrIf) (op : ℕ) (tha : Mac) (tip : Ip) :
    (arpFrame dhost iface op tha tip).length = 42 := rfl

/-! ### The retry -/

/-- The state in which the retry of `handle_arpreq` leaves the queue. -/
def bump (now : ℕ) (r : SrArpreq) : SrArpreq :=
  { r with sent := now, timesSent := r.timesSent + 1 }

/-- The frames a retry broadcasts: none if no packet is queued or its interface
does not exist, and otherwise one. -/
def retryObs (s : Router) (req : SrArpreq) : List (ℕ × Obs) :=
  match req.packets with
  | [] => []
  | pkt :: _ =>
      match srGetInterface s.ifList pkt.iface with
      | none => []
      | some i =>
          [(s.now, .sent (.arpRequest req.id req.ip) i.name
            (arpFrame broadcastMac i 1 ⟨0, 0, 0, 0, 0, 0⟩ req.ip)
            (sendVerdict s.ifList (arpFrame broadcastMac i 1 ⟨0, 0, 0, 0, 0, 0⟩ req.ip) i.name))]

lemma of_mem_retryObs {o : ℕ × Obs} (ho : o ∈ retryObs s req) :
    ∃ pkt rest i, req.packets = pkt :: rest ∧ srGetInterface s.ifList pkt.iface = some i ∧
      o = (s.now, .sent (.arpRequest req.id req.ip) i.name
        (arpFrame broadcastMac i 1 ⟨0, 0, 0, 0, 0, 0⟩ req.ip)
        (sendVerdict s.ifList (arpFrame broadcastMac i 1 ⟨0, 0, 0, 0, 0, 0⟩ req.ip) i.name)) := by
  rw [retryObs] at ho
  cases hp : req.packets with
  | nil => simp [hp] at ho
  | cons pkt rest =>
      simp only [hp] at ho
      cases hi : srGetInterface s.ifList pkt.iface with
      | none => simp [hi] at ho
      | some i =>
          simp only [hi, List.mem_singleton] at ho
          exact ⟨pkt, rest, i, rfl, hi, ho⟩

lemma sendArpRequest_core (s : Router) (id : ReqId) (target : Ip) (name : List UInt8) :
    (sendArpRequest s id target name).core = s.core := by
  rw [sendArpRequest]
  split
  · rfl
  · exact srSendPacket_core _ _ _ _

lemma retryArp_core (s : Router) (req : SrArpreq) :
    (retryArp s req).core = (s.modifyReq req.id (bump s.now)).core := by
  rw [retryArp]
  cases hp : req.packets with
  | nil => rfl
  | cons pkt rest =>
      have h := sendArpRequest_core s req.id req.ip pkt.iface
      have hnow := now_of_core h
      simp only [hnow]
      change (sendArpRequest s req.id req.ip pkt.iface).core.modifyReq req.id (bump s.now)
        = s.core.modifyReq req.id (bump s.now)
      rw [h]

lemma retryArp_trace (s : Router) (req : SrArpreq) :
    (retryArp s req).trace = s.trace ++ retryObs s req := by
  rw [retryArp, retryObs]
  cases hp : req.packets with
  | nil => simp
  | cons pkt rest =>
      simp only [Router.modifyReq_trace, sendArpRequest]
      cases hi : srGetInterface s.ifList pkt.iface with
      | none => simp
      | some i => simp [srSendPacket_trace]

lemma retryArp_reads (s : Router) (req : SrArpreq) :
    ∀ r ∈ (retryArp s req).reads, r ∈ s.reads ∨ r.InBounds := by
  intro r hr
  rw [retryArp] at hr
  cases hp : req.packets with
  | nil => simpa [hp] using Or.inl hr
  | cons pkt rest =>
      simp only [hp, Router.modifyReq_reads, sendArpRequest] at hr
      cases hi : srGetInterface s.ifList pkt.iface with
      | none => simp only [hi] at hr; exact Or.inl hr
      | some i =>
          simp only [hi] at hr
          exact srSendPacket_reads _ _ _ _ r hr

lemma retryArp_findReq (s : Router) (req : SrArpreq) (a : ReqId) :
    (retryArp s req).findReq a =
      if a = req.id then (s.findReq req.id).map (bump s.now) else s.findReq a := by
  rw [findReq_of_core (retryArp_core s req), findReq_modifyReq (f := bump s.now) fun _ => rfl]

lemma WF.retryArp (hw : WF s) (req : SrArpreq) : WF (retryArp s req) :=
  WF.of_core (retryArp_core s req) (hw.modifyReq (f := bump s.now) (fun _ => rfl) fun _ => rfl)

end SimpleRouter
