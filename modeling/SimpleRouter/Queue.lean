/-
The request queue as a map from identities to requests.

`WF` says that pending requests have distinct identities and distinct
addresses and that the next identity is fresh.  Under it, the operations of
`SimpleRouter.ArpCache` are map updates: `findReq` after an operation is
`findReq` before it, changed at one identity.  `Queues` is the one description
of what queueing a frame does, and `routeAndQueue_cases` the one description of
what the first part of `route_and_send` does; later files use these and do not
unfold the operations.
-/
import SimpleRouter.Router
import SimpleRouter.Lib.KeyedList

namespace SimpleRouter

open Bytes CString

/-- Pending requests are distinguished by identity and by address. -/
structure WF (s : Router) : Prop where
  ids_nodup : (s.requests.map (·.id)).Nodup
  ips_nodup : (s.requests.map (·.ip)).Nodup
  ids_lt : ∀ r ∈ s.requests, r.id < s.nextId

variable {s s' : Router} {id nid a : ReqId} {ip : Ip} {pkt : SrPacket} {req : SrArpreq}

/-! ### Lookups -/

lemma mem_of_findReq (h : s.findReq id = some req) : req ∈ s.requests :=
  List.mem_of_find?_eq_some h

lemma id_of_findReq (h : s.findReq id = some req) : req.id = id := by
  simpa using List.find?_some h

lemma findReq_eq_none_iff : s.findReq id = none ↔ ∀ r ∈ s.requests, r.id ≠ id :=
  KeyedList.find?_eq_none_iff

lemma findReq_isSome_iff : (s.findReq id).isSome ↔ id ∈ s.requests.map (·.id) := by
  simp [Router.findReq, List.find?_isSome]

namespace WF

lemma findReq_iff (hw : WF s) : s.findReq id = some req ↔ req ∈ s.requests ∧ req.id = id :=
  KeyedList.find?_eq_some_iff hw.ids_nodup

lemma findReq_of_mem (hw : WF s) (h : req ∈ s.requests) : s.findReq req.id = some req :=
  hw.findReq_iff.2 ⟨h, rfl⟩

lemma find_ip_iff (hw : WF s) :
    s.requests.find? (fun r => r.ip = ip) = some req ↔ req ∈ s.requests ∧ req.ip = ip :=
  KeyedList.find?_eq_some_iff hw.ips_nodup

/-- Two pending requests for one address are the same. -/
lemma eq_of_ip_eq (hw : WF s) {r r' : SrArpreq} (hr : r ∈ s.requests) (hr' : r' ∈ s.requests)
    (h : r.ip = r'.ip) : r = r' :=
  List.inj_on_of_nodup_map hw.ips_nodup hr hr' h

lemma findReq_nextId (hw : WF s) : s.findReq s.nextId = none := by
  rw [findReq_eq_none_iff]
  intro r hr
  exact (hw.ids_lt r hr).ne

/-- Well-formedness is about the queue only. -/
lemma congr (hw : WF s) (hr : s'.requests = s.requests) (hn : s'.nextId = s.nextId) : WF s' := by
  constructor
  · rw [hr]; exact hw.ids_nodup
  · rw [hr]; exact hw.ips_nodup
  · rw [hr, hn]; exact hw.ids_lt

lemma emit (hw : WF s) (o : Obs) : WF (s.emit o) := hw.congr rfl rfl

lemma noteRead (hw : WF s) (buf : List UInt8) (off n : ℕ) : WF (s.noteRead buf off n) :=
  hw.congr rfl rfl

lemma modifyReq (hw : WF s) {f : SrArpreq → SrArpreq} (hid : ∀ r, (f r).id = r.id)
    (hip : ∀ r, (f r).ip = r.ip) : WF (s.modifyReq id f) := by
  have hmap : ∀ g : SrArpreq → SrArpreq, (∀ r, (g r).id = r.id ∧ (g r).ip = r.ip) →
      ((s.requests.map g).map (·.id) = s.requests.map (·.id) ∧
        (s.requests.map g).map (·.ip) = s.requests.map (·.ip)) := by
    intro g hg
    constructor
    · rw [List.map_map]
      exact List.map_congr_left fun r _ => (hg r).1
    · rw [List.map_map]
      exact List.map_congr_left fun r _ => (hg r).2
  have hg : ∀ r, (if r.id = id then f r else r).id = r.id ∧
      (if r.id = id then f r else r).ip = r.ip := by
    intro r
    split_ifs
    · exact ⟨hid r, hip r⟩
    · exact ⟨rfl, rfl⟩
  obtain ⟨h₁, h₂⟩ := hmap _ hg
  refine ⟨by rw [Router.modifyReq, h₁]; exact hw.ids_nodup,
    by rw [Router.modifyReq, h₂]; exact hw.ips_nodup, ?_⟩
  intro r hr
  obtain ⟨r₀, hr₀, rfl⟩ := List.mem_map.1 hr
  rw [(hg r₀).1]
  exact hw.ids_lt r₀ hr₀

lemma srArpreqDestroy (hw : WF s) : WF (srArpreqDestroy s id) := by
  refine ⟨hw.ids_nodup.sublist (List.filter_sublist.map _),
    hw.ips_nodup.sublist (List.filter_sublist.map _), ?_⟩
  intro r hr
  exact hw.ids_lt r (List.mem_filter.1 hr).1

end WF

/-! ### Updates -/

lemma findReq_modifyReq {f : SrArpreq → SrArpreq} (hf : ∀ r, (f r).id = r.id) :
    (s.modifyReq id f).findReq a = if a = id then (s.findReq id).map f else s.findReq a :=
  KeyedList.find?_map_update hf

lemma findReq_srArpreqDestroy :
    (srArpreqDestroy s id).findReq a = if a = id then none else s.findReq a :=
  KeyedList.find?_filter_ne

/-- A request with one more packet in front of its list. -/
def SrArpreq.push (pkt : SrPacket) (r : SrArpreq) : SrArpreq :=
  { r with packets := pkt :: r.packets }

@[simp] lemma SrArpreq.push_id (r : SrArpreq) : (r.push pkt).id = r.id := rfl
@[simp] lemma SrArpreq.push_ip (r : SrArpreq) : (r.push pkt).ip = r.ip := rfl
@[simp] lemma SrArpreq.push_sent (r : SrArpreq) : (r.push pkt).sent = r.sent := rfl
@[simp] lemma SrArpreq.push_timesSent (r : SrArpreq) : (r.push pkt).timesSent = r.timesSent := rfl
@[simp] lemma SrArpreq.push_packets (r : SrArpreq) :
    (r.push pkt).packets = pkt :: r.packets := rfl

/-- What `sr_arpcache_queuereq` does: the packet goes in front of the list of
the request for `ip`, which is created in front of the queue if there is none. -/
inductive Queues (s : Router) (ip : Ip) (pkt : SrPacket) : Router → ReqId → Prop
  | old {req : SrArpreq} (hf : s.findReq req.id = some req) (hip : req.ip = ip) :
      Queues s ip pkt { s.modifyReq req.id (SrArpreq.push pkt) with nextFid := s.nextFid + 1 } req.id
  | new (hnone : ∀ r ∈ s.requests, r.ip ≠ ip) :
      Queues s ip pkt
        { s with
          requests := ⟨s.nextId, ip, 0, 0, [pkt]⟩ :: s.requests
          nextId := s.nextId + 1
          nextFid := s.nextFid + 1 }
        s.nextId

lemma queues_of_queuereq (hw : WF s) {packet : Frame} {iface : List UInt8}
    (hlen : packet.length ≠ 0) (h : srArpcacheQueuereq s ip packet iface = (s', nid)) :
    Queues s ip ⟨packet, strncpy 32 iface, s.nextFid⟩ s' nid := by
  rw [srArpcacheQueuereq] at h
  cases hfind : s.requests.find? (fun r => r.ip = ip) with
  | some r =>
      obtain ⟨hmem, hip⟩ := hw.find_ip_iff.1 hfind
      simp only [hfind, addPacket, hlen, if_false, Prod.mk.injEq] at h
      obtain ⟨rfl, rfl⟩ := h
      exact .old (hw.findReq_of_mem hmem) hip
  | none =>
      have hnone : ∀ r ∈ s.requests, r.ip ≠ ip := KeyedList.find?_eq_none_iff.1 hfind
      simp only [hfind, addPacket, hlen, if_false, Prod.mk.injEq] at h
      obtain ⟨rfl, rfl⟩ := h
      have hkeep : (s.requests.map fun r => if r.id = s.nextId then
          { r with packets := ⟨packet, strncpy 32 iface, s.nextFid⟩ :: r.packets } else r)
            = s.requests := by
        conv_rhs => rw [← List.map_id s.requests]
        exact List.map_congr_left fun r hr => if_neg (hw.ids_lt r hr).ne
      have hnew : Queues s ip ⟨packet, strncpy 32 iface, s.nextFid⟩ _ _ := Queues.new hnone
      simpa [Router.modifyReq, hkeep] using hnew

namespace Queues

lemma ifList (h : Queues s ip pkt s' nid) : s'.ifList = s.ifList := by cases h <;> rfl

lemma routingTable (h : Queues s ip pkt s' nid) : s'.routingTable = s.routingTable := by
  cases h <;> rfl

lemma now (h : Queues s ip pkt s' nid) : s'.now = s.now := by cases h <;> rfl

lemma trace (h : Queues s ip pkt s' nid) : s'.trace = s.trace := by cases h <;> rfl

lemma reads (h : Queues s ip pkt s' nid) : s'.reads = s.reads := by cases h <;> rfl

lemma nextFid (h : Queues s ip pkt s' nid) : s'.nextFid = s.nextFid + 1 := by cases h <;> rfl

lemma nextId_le (h : Queues s ip pkt s' nid) : s.nextId ≤ s'.nextId := by
  cases h with
  | old => exact le_rfl
  | new => exact Nat.le_succ _

lemma wf (hw : WF s) (h : Queues s ip pkt s' nid) : WF s' := by
  cases h with
  | old hf hip =>
      exact (hw.modifyReq (f := SrArpreq.push pkt) (fun _ => rfl) fun _ => rfl).congr rfl rfl
  | new hnone =>
      refine ⟨?_, ?_, ?_⟩
      · rw [List.map_cons, List.nodup_cons]
        refine ⟨?_, hw.ids_nodup⟩
        intro hmem
        obtain ⟨r, hr, hrid⟩ := List.mem_map.1 hmem
        exact (hw.ids_lt r hr).ne hrid
      · rw [List.map_cons, List.nodup_cons]
        refine ⟨?_, hw.ips_nodup⟩
        intro hmem
        obtain ⟨r, hr, hrip⟩ := List.mem_map.1 hmem
        exact hnone r hr hrip
      · intro r hr
        rcases List.mem_cons.1 hr with rfl | hr
        · exact Nat.lt_succ_self _
        · exact (hw.ids_lt r hr).trans (Nat.lt_succ_self _)

lemma findReq_of_ne (h : Queues s ip pkt s' nid) (ha : a ≠ nid) : s'.findReq a = s.findReq a := by
  cases h with
  | @old req hf hip =>
      change (s.modifyReq req.id (SrArpreq.push pkt)).findReq a = s.findReq a
      rw [findReq_modifyReq (f := SrArpreq.push pkt) fun _ => rfl, if_neg ha]
  | new hnone => exact List.find?_cons_of_neg (by simpa using Ne.symm ha)

/-- The request that holds the packet: an old one, or a fresh one. -/
lemma findReq_self (h : Queues s ip pkt s' nid) :
    ∃ req : SrArpreq, s'.findReq nid = some (req.push pkt) ∧ req.ip = ip ∧ req.id = nid ∧
      (s.findReq nid = some req ∨
        (nid = s.nextId ∧ (∀ r ∈ s.requests, r.ip ≠ ip) ∧ req = ⟨nid, ip, 0, 0, []⟩)) := by
  cases h with
  | @old req hf hip =>
      refine ⟨req, ?_, hip, rfl, Or.inl hf⟩
      change (s.modifyReq req.id (SrArpreq.push pkt)).findReq req.id = _
      rw [findReq_modifyReq (f := SrArpreq.push pkt) fun _ => rfl, if_pos rfl, hf]
      rfl
  | new hnone =>
      refine ⟨⟨s.nextId, ip, 0, 0, []⟩, ?_, rfl, rfl, Or.inr ⟨rfl, hnone, rfl⟩⟩
      exact List.find?_cons_of_pos (by simp)

/-- The packet is queued on the request for its address, if there is one. -/
lemma eq_id_of_ip_eq (hw : WF s) (h : Queues s ip pkt s' nid) (hf : s.findReq a = some req)
    (hip : req.ip = ip) : nid = a := by
  cases h with
  | @old req₀ hf₀ hip₀ =>
      have := hw.eq_of_ip_eq (mem_of_findReq hf₀) (mem_of_findReq hf) (hip₀.trans hip.symm)
      rw [this, id_of_findReq hf]
  | new hnone => exact absurd hip (hnone req (mem_of_findReq hf))

end Queues

/-! ### The first part of `route_and_send` -/

/-- The route to a destination, together with its interface. -/
def lookupRoute (s : Router) (dst : Ip) : Option (SrRt × SrIf) :=
  (rtExactMatch s.routingTable dst).bind fun rt =>
    (srGetInterface s.ifList rt.interface).map fun i => (rt, i)

/-- The packet that `route_and_send` queues for a frame. -/
def routedPacket (s : Router) (frame : Frame) (outIface : SrIf) : SrPacket :=
  ⟨patch (patch frame 6 outIface.addr.bytes) 12 (be16 ethertypeIp), strncpy 32 outIface.name,
    s.nextFid⟩

lemma length_routedPacket {frame : Frame} {i : SrIf} (h : 34 ≤ frame.length) :
    (routedPacket s frame i).buf.length = frame.length := by
  have h₁ : (patch frame 6 i.addr.bytes).length = frame.length := by
    rw [length_patch (by simp; omega)]
  rw [routedPacket, length_patch (by rw [h₁]; simp; omega), h₁]

lemma lookupRoute_congr (hif : s'.ifList = s.ifList) (hrt : s'.routingTable = s.routingTable)
    (dst : Ip) : lookupRoute s' dst = lookupRoute s dst := by
  rw [lookupRoute, lookupRoute, hif, hrt]

lemma lookupRoute_eq_some_iff {dst : Ip} {rt : SrRt} {i : SrIf} :
    lookupRoute s dst = some (rt, i) ↔
      rtExactMatch s.routingTable dst = some rt ∧ srGetInterface s.ifList rt.interface = some i := by
  simp only [lookupRoute, Option.bind_eq_some_iff, Option.map_eq_some_iff, Prod.mk.injEq]
  constructor
  · rintro ⟨rt', hrt, i', hi, rfl, rfl⟩
    exact ⟨hrt, hi⟩
  · rintro ⟨hrt, hi⟩
    exact ⟨rt, hrt, i, hi, rfl, rfl⟩

/-- A frame with a route is queued. -/
lemma routeAndQueue_of_route {frame : Frame} {rt : SrRt} {i : SrIf} (hlen : 34 ≤ frame.length)
    (hroute : lookupRoute s (ip32 frame 30) = some (rt, i)) :
    ∃ s' nid, routeAndQueue s frame = (s', some nid) ∧
      srArpcacheQueuereq ((s.noteRead frame 14 20).emit
          (.accepted (nextHop rt (ip32 frame 30)) (routedPacket s frame i)))
        (nextHop rt (ip32 frame 30)) (routedPacket s frame i).buf i.name = (s', nid) := by
  obtain ⟨hrt, hi⟩ := lookupRoute_eq_some_iff.1 hroute
  have hdst : ipDst (s.peek frame 14 20) = ip32 frame 30 := by
    rw [s.peek_eq_slice (by omega), ipDst, ip32_slice (by omega)]
  refine ⟨_, _, ?_, rfl⟩
  rw [routeAndQueue, if_neg (by omega)]
  simp only [Router.load, hdst, Router.noteRead_routingTable, Router.noteRead_ifList, hrt, hi,
    Router.noteRead_nextFid]
  rfl

/-- A frame without a route is only looked at. -/
lemma routeAndQueue_of_no_route {frame : Frame} (hlen : 34 ≤ frame.length)
    (hroute : lookupRoute s (ip32 frame 30) = none) :
    routeAndQueue s frame = (s.noteRead frame 14 20, none) := by
  have hdst : ipDst (s.peek frame 14 20) = ip32 frame 30 := by
    rw [s.peek_eq_slice (by omega), ipDst, ip32_slice (by omega)]
  rw [routeAndQueue, if_neg (by omega)]
  simp only [Router.load, hdst, Router.noteRead_routingTable, Router.noteRead_ifList]
  cases hrt : rtExactMatch s.routingTable (ip32 frame 30) with
  | none => rfl
  | some rt =>
      have hi : srGetInterface s.ifList rt.interface = none := by
        simpa [lookupRoute, hrt] using hroute
      simp only [hi]

/-- The state, and the request that holds the frame, when `route_and_send` has queued a
frame on a route. -/
def queuedOn (s : Router) (frame : Frame) (rt : SrRt) (i : SrIf) : Router × ReqId :=
  srArpcacheQueuereq ((s.noteRead frame 14 20).emit
      (.accepted (nextHop rt (ip32 frame 30)) (routedPacket s frame i)))
    (nextHop rt (ip32 frame 30)) (routedPacket s frame i).buf i.name

lemma queuedOn_trace (s : Router) (frame : Frame) (rt : SrRt) (i : SrIf) :
    (queuedOn s frame rt i).1.trace =
      s.trace ++ [(s.now, .accepted (nextHop rt (ip32 frame 30)) (routedPacket s frame i))] := by
  have hqueue : ∀ (t : Router) (ip : Ip) (f : Frame) (name : List UInt8),
      (srArpcacheQueuereq t ip f name).1.trace = t.trace := by
    intro t ip f name
    rw [srArpcacheQueuereq]
    cases t.requests.find? (fun r => r.ip = ip) with
    | none =>
        simp only [addPacket]
        split_ifs <;> rfl
    | some r =>
        simp only [addPacket]
        split_ifs <;> rfl
  exact hqueue _ _ _ _

/-- `route_and_send` has found a route, and the frame is about to be queued. -/
def acceptedOn (s : Router) (frame : Frame) (rt : SrRt) (i : SrIf) : Router :=
  (s.noteRead frame 14 20).emit (.accepted (nextHop rt (ip32 frame 30)) (routedPacket s frame i))

/-- What is on the queue then: the frame, with the addresses of its first hop, stands in
front of the packets of the request for the next hop, and nothing else has changed. -/
lemma queues_queuedOn (hw : WF s) {frame : Frame} (hlen : 34 ≤ frame.length) (rt : SrRt)
    (i : SrIf) :
    Queues (acceptedOn s frame rt i) (nextHop rt (ip32 frame 30)) (routedPacket s frame i)
      (queuedOn s frame rt i).1 (queuedOn s frame rt i).2 := by
  have hne : (routedPacket s frame i).buf.length ≠ 0 := by
    rw [length_routedPacket hlen]
    omega
  have hacc : WF (acceptedOn s frame rt i) := (hw.noteRead frame 14 20).emit _
  exact queues_of_queuereq hacc hne rfl

/-- `route_and_send` on a frame with an IP header. -/
lemma routeAndSend_eq (handle : Router → ReqId → Except Fault Router) (s : Router) {frame : Frame}
    (hlen : 34 ≤ frame.length) :
    routeAndSend handle s frame =
      match lookupRoute s (ip32 frame 30) with
      | none => .ok (-1, s.noteRead frame 14 20)
      | some (rt, i) =>
          (handle (queuedOn s frame rt i).1 (queuedOn s frame rt i).2).map fun s' => (0, s') := by
  cases hroute : lookupRoute s (ip32 frame 30) with
  | none => rw [routeAndSend, routeAndQueue_of_no_route hlen hroute]
  | some p =>
      obtain ⟨rt, i⟩ := p
      obtain ⟨s', nid, heq, hq⟩ := routeAndQueue_of_route hlen hroute
      have hon : queuedOn s frame rt i = (s', nid) := hq
      rw [routeAndSend, heq]
      simp only [hon]
      cases handle s' nid with
      | error f => rfl
      | ok s'' => rfl

/-- Either the frame is not queued, because it is too short or has no route, and
nothing but a read happens; or it is queued under its next hop. -/
theorem routeAndQueue_cases (hw : WF s) (frame : Frame) :
    (frame.length < 34 ∧ routeAndQueue s frame = (s, none)) ∨
    (34 ≤ frame.length ∧ lookupRoute s (ip32 frame 30) = none ∧
      routeAndQueue s frame = (s.noteRead frame 14 20, none)) ∨
    (34 ≤ frame.length ∧ ∃ rt i s' nid, lookupRoute s (ip32 frame 30) = some (rt, i) ∧
      routeAndQueue s frame = (s', some nid) ∧
      Queues ((s.noteRead frame 14 20).emit
          (.accepted (nextHop rt (ip32 frame 30)) (routedPacket s frame i)))
        (nextHop rt (ip32 frame 30)) (routedPacket s frame i) s' nid) := by
  by_cases hlen : frame.length < 34
  · exact Or.inl ⟨hlen, by rw [routeAndQueue, if_pos hlen]⟩
  · rw [not_lt] at hlen
    cases hroute : lookupRoute s (ip32 frame 30) with
    | none => exact Or.inr (Or.inl ⟨hlen, rfl, routeAndQueue_of_no_route hlen hroute⟩)
    | some p =>
        obtain ⟨rt, i⟩ := p
        obtain ⟨s', nid, heq, hq⟩ := routeAndQueue_of_route hlen hroute
        have hne : (routedPacket s frame i).buf.length ≠ 0 := by
          rw [length_routedPacket hlen]
          omega
        have hacc := (hw.noteRead frame 14 20).emit
          (.accepted (nextHop rt (ip32 frame 30)) (routedPacket s frame i))
        exact Or.inr (Or.inr ⟨hlen, rt, i, s', nid, rfl, heq, queues_of_queuereq hacc hne hq⟩)

end SimpleRouter
