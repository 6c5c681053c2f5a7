/-
Where frames come from.

The router sends two kinds of frames: ARP frames, which it makes up, and IP frames, which
have waited on the queue.  `Built` lists the datagrams that may wait there, and what they
are made of: frames that were received, forwarded or answered, and errors about frames that
were received or have waited themselves.  `ArpCause` says why an ARP frame is made up: it is
the answer to a request that was received, or asks for the next hop of a datagram that was
put on the queue.  A router that has received nothing has sent nothing.
-/
import SimpleRouter.Routes
import SimpleRouter.Forward
import SimpleRouter.Echo
import SimpleRouter.Filter

namespace SimpleRouter

open Bytes CString Runs

variable {R R' : Frame → Prop} {I I' : List UInt8 → SrIf → Prop} {past past' : List (ℕ × Obs)}
  {s s' s₁ : Router} {c : Call} {A : List ReqId} {id nid : ReqId} {frame packet f g : Frame}
  {interface : List UInt8} {fuel : ℕ} {rc : ℤ} {pkt : SrPacket} {i : SrIf}

/-! ### Datagrams -/

/-- The data of an error about a frame: 28 bytes from behind the Ethernet header on. -/
def Quotes (frame : Frame) (data : List UInt8) : Prop :=
  data.length = 28 ∧ ∃ more, data = (frame.drop 14 ++ more).take 28

/-- The frames that `route_and_send` is called for, if the frames in `R` are received; the
Ethernet header is not looked at. -/
inductive Built (R : Frame → Prop) : Frame → Prop
  /-- A frame for somewhere else. -/
  | forward {packet : Frame} (hr : R packet) (hv : ValidIp packet) (httl : ¬ u8 packet 22 ≤ 1) :
      Built R (transitFrame packet)
  /-- An echo request for the router. -/
  | echo {packet : Frame} (hr : R packet) (hv : ValidIp packet) (hecho : EchoRequest packet) :
      Built R (icmpEchoReply packet)
  /-- An error about a frame that was received. -/
  | arrival {packet : Frame} {type code : UInt8} {src : Ip} {data : List UInt8} (hr : R packet)
      (hv : ValidIp packet) (htc : type = 11 ∧ code = 0 ∨ type = 3 ∧ code = 0)
      (hdata : Quotes packet data) : Built R (icmpErrorFrame type code src (ip32 packet 26) data)
  /-- An error about a frame that has waited in vain. -/
  | giveUp {frame : Frame} {src : Ip} {data : List UInt8} (hb : Built R frame)
      (hdata : Quotes frame data) : Built R (icmpErrorFrame 3 1 src (ip32 frame 26) data)

lemma Built.mono (h : Built R f) (hR : ∀ f, R f → R' f) : Built R' f := by
  induction h with
  | forward hr hv httl => exact .forward (hR _ hr) hv httl
  | echo hr hv hecho => exact .echo (hR _ hr) hv hecho
  | arrival hr hv htc hdata => exact .arrival (hR _ hr) hv htc hdata
  | giveUp hb hdata ih => exact .giveUp ih hdata

/-- The frame carries such a datagram. -/
def Carries (R : Frame → Prop) (f : Frame) : Prop :=
  ∃ g, Built R g ∧ f.length = g.length ∧ f.drop 14 = g.drop 14

lemma Built.carries (h : Built R f) : Carries R f := ⟨f, h, rfl, rfl⟩

lemma Carries.mono (h : Carries R f) (hR : ∀ f, R f → R' f) : Carries R' f := by
  obtain ⟨g, hg, hlen, hdrop⟩ := h
  exact ⟨g, hg.mono hR, hlen, hdrop⟩

lemma drop_patch {α : Type*} {l bs : List α} {off k : ℕ} (h : off + bs.length ≤ k)
    (hk : k ≤ l.length) : (patch l off bs).drop k = l.drop k := by
  ext i x
  rw [List.getElem?_drop, List.getElem?_drop, getElem?_patch_of_ge (by omega) (by omega)]

/-- The Ethernet header may change. -/
lemma Carries.patch {bs : List UInt8} {off : ℕ} (h : Carries R f) (hoff : off + bs.length ≤ 14)
    (hlen : 14 ≤ f.length) : Carries R (patch f off bs) := by
  obtain ⟨g, hg, hsize, hdrop⟩ := h
  exact ⟨g, hg, by rw [length_patch (by omega), hsize], by rw [drop_patch hoff hlen, hdrop]⟩

/-- An error about a frame is an error about its datagram. -/
lemma Carries.giveUp {src : Ip} {data : List UInt8} (h : Carries R f) (hdata : Quotes f data) :
    Built R (icmpErrorFrame 3 1 src (ip32 f 26) data) := by
  obtain ⟨g, hg, -, hdrop⟩ := h
  have hbyte : ∀ (l : Frame) i, u8 l (14 + i) = u8 (l.drop 14) i := fun l i =>
    u8_eq_of_getElem?_eq List.getElem?_drop.symm
  have hip : ip32 f 26 = ip32 g 26 := by
    rw [ip32, ip32, hbyte f 12, hbyte f 13, hbyte f 14, hbyte f 15, hdrop, ← hbyte g 12,
      ← hbyte g 13, ← hbyte g 14, ← hbyte g 15]
  rw [Quotes, hdrop] at hdata
  rw [hip]
  exact .giveUp hg hdata

/-! ### ARP frames -/

/-- Why the interface `i` sends an ARP frame, if the names of the interfaces are those that
`I` says, and `past` was observed. -/
inductive ArpCause (R : Frame → Prop) (I : List UInt8 → SrIf → Prop) (past : List (ℕ × Obs))
    (i : SrIf) : Frame → Prop
  /-- A request for its address has come in on it. -/
  | answer {packet : Frame} {interface : List UInt8} (hr : R packet) (hask : ArpAsks packet i.ip)
      (hi : I interface i) :
      ArpCause R I past i (arpFrame (arSha (slice packet 14 28)) i 2 (arSha (slice packet 14 28))
        (arSip (slice packet 14 28)))
  /-- A packet that is to leave by it was put on the queue of the next hop `hop`. -/
  | question {t : ℕ} {hop : Ip} {pkt : SrPacket} (hacc : (t, .accepted hop pkt) ∈ past)
      (hc : Carries R pkt.buf) (hi : I pkt.iface i) :
      ArpCause R I past i (arpFrame broadcastMac i 1 ⟨0, 0, 0, 0, 0, 0⟩ hop)

lemma ArpCause.mono (h : ArpCause R I past i f) (hpast : past ⊆ past') :
    ArpCause R I past' i f := by
  cases h with
  | answer hr hask hi => exact .answer hr hask hi
  | question hacc hc hi => exact .question (hpast hacc) hc hi

lemma ArpCause.ethertype (h : ArpCause R I past i f) : ethertype f = ethertypeArp := by
  cases h with
  | answer hr hask hi => exact ethertype_arpFrame ..
  | question hacc hc hi => exact ethertype_arpFrame ..

lemma ArpCause.length (h : ArpCause R I past i f) : f.length = 42 := by
  cases h with
  | answer hr hask hi => exact length_arpFrame ..
  | question hacc hc hi => exact length_arpFrame ..

/-! ### States -/

/-- If the observation is the sending of a frame, then the frame has a source. -/
def HasSource (R : Frame → Prop) (I : List UInt8 → SrIf → Prop) (past : List (ℕ × Obs)) (o : Obs) :
    Prop :=
  ∀ origin iface f v, o = .sent origin iface f v →
    Carries R f ∨ ∃ i, i.name = iface ∧ ArpCause R I past i f

lemma HasSource.mono {o : Obs} (h : HasSource R I past o) (hpast : past ⊆ past') :
    HasSource R I past' o := by
  intro origin iface f v ho
  rcases h origin iface f v ho with hc | ⟨i, hname, hcause⟩
  · exact Or.inl hc
  · exact Or.inr ⟨i, hname, hcause.mono hpast⟩

/-- The packet has a source, and was put on the queue of the next hop. -/
structure Waiting (R : Frame → Prop) (past : List (ℕ × Obs)) (hop : Ip) (p : SrPacket) : Prop where
  len : 14 ≤ p.buf.length
  carries : Carries R p.buf
  accepted : ∃ t, (t, Obs.accepted hop p) ∈ past

lemma Waiting.mono {hop : Ip} (h : Waiting R past hop pkt) (hpast : past ⊆ past') :
    Waiting R past' hop pkt := by
  obtain ⟨t, ht⟩ := h.accepted
  exact ⟨h.len, h.carries, t, hpast ht⟩

/-- The frames that wait, and those that were sent, have a source; and the names are those
that `I` says. -/
structure Sourced (R : Frame → Prop) (I : List UInt8 → SrIf → Prop) (s : Router) : Prop where
  ifaces : ∀ name i, srGetInterface s.ifList name = some i → I name i
  waiting : ∀ r ∈ s.requests, ∀ p ∈ r.packets, Waiting R s.trace r.ip p
  sent : ∀ o ∈ s.trace, HasSource R I s.trace o.2

namespace Sourced

/-- Other interfaces, and the rest is the same. -/
lemma rename (h : Sourced R I s)
    (hifs : ∀ name i, srGetInterface s'.ifList name = some i → I name i) (hreq : s'.requests = s.requests) (htrace : s'.trace = s.trace) : Sourced R I s' := by
  refine ⟨hifs, ?_, ?_⟩
  · rw [hreq, htrace]
    exact h.waiting
  · rw [htrace]
    exact h.sent

lemma congr (h : Sourced R I s) (hifs : s'.ifList = s.ifList) (hreq : s'.requests = s.requests)
    (htrace : s'.trace = s.trace) : Sourced R I s' :=
  h.rename (by rw [hifs]; exact h.ifaces) hreq htrace

/-- Fewer requests, and more observations. -/
lemma extend (h : Sourced R I s) {new : List (ℕ × Obs)} (hifs : s'.ifList = s.ifList)
    (hreq : ∀ r ∈ s'.requests, ∃ r₀ ∈ s.requests, r.ip = r₀.ip ∧ r.packets = r₀.packets)
    (htrace : s'.trace = s.trace ++ new) (hnew : ∀ o ∈ new, HasSource R I s.trace o.2) :
    Sourced R I s' := by
  have hpast : s.trace ⊆ s'.trace := by
    rw [htrace]
    exact List.subset_append_left _ _
  refine ⟨by rw [hifs]; exact h.ifaces, ?_, ?_⟩
  · intro r hr p hp
    obtain ⟨r₀, hr₀, hip, hpk⟩ := hreq r hr
    rw [hpk] at hp
    rw [hip]
    exact (h.waiting r₀ hr₀ p hp).mono hpast
  · intro o ho
    rw [htrace] at ho
    rcases List.mem_append.1 ho with ho | ho
    · exact (h.sent o ho).mono hpast
    · exact (hnew o ho).mono hpast

lemma quiet (h : Sourced R I s) (hq : Quiet s s') : Sourced R I s' :=
  h.congr (ifList_of_core hq.core) (requests_of_core hq.core) hq.trace

lemma emit (h : Sourced R I s) {o : Obs} (ho : HasSource R I s.trace o) :
    Sourced R I (s.emit o) := by
  refine h.extend rfl (fun r hr => ⟨r, hr, rfl, rfl⟩) (Router.emit_trace s o) ?_
  intro o' ho'
  rw [List.mem_singleton] at ho'
  rw [ho']
  exact ho

lemma destroy (h : Sourced R I s) (id : ReqId) : Sourced R I (srArpreqDestroy s id) := by
  have hsame : (srArpreqDestroy s id).trace = s.trace ++ [] := (List.append_nil _).symm
  refine h.extend rfl ?_ hsame (by simp)
  intro r hr
  exact ⟨r, (List.mem_filter.1 hr).1, rfl, rfl⟩

/-- A packet is put on the queue. -/
lemma queue (h : Sourced R I s) (hw : WF s) {ip : Ip} (hq : Queues s ip pkt s' nid)
    (hpkt : Waiting R s.trace ip pkt) : Sourced R I s' := by
  refine ⟨by rw [hq.ifList]; exact h.ifaces, ?_, by rw [hq.trace]; exact h.sent⟩
  rw [hq.trace]
  cases hq with
  | @old req hf hip =>
      intro r hr p hp
      obtain ⟨r₀, hr₀, rfl⟩ := List.mem_map.1 hr
      split_ifs at hp ⊢ with hid
      · -- the request that is there for `ip` is the only one with this identity
        have hreq : r₀ = req := by
          have hfind := hw.findReq_of_mem hr₀
          rw [hid, hf, Option.some.injEq] at hfind
          exact hfind.symm
        rcases List.mem_cons.1 hp with rfl | hp
        · rw [SrArpreq.push_ip, hreq, hip]
          exact hpkt
        · exact h.waiting r₀ hr₀ p hp
      · exact h.waiting r₀ hr₀ p hp
  | new hnone =>
      intro r hr p hp
      rcases List.mem_cons.1 hr with rfl | hr
      · obtain rfl : p = pkt := by simpa using hp
        exact hpkt
      · exact h.waiting r hr p hp

end Sourced

lemma hasSource_of_not_sent {o : Obs} (h : ∀ origin iface f v, o ≠ .sent origin iface f v) :
    HasSource R I past o :=
  fun origin iface f v hsent => absurd hsent (h origin iface f v)

/-- The frame that is queued carries what it was made from. -/
lemma waiting_routedPacket {t : ℕ} {hop : Ip} (hb : Built R frame) (hlen : 34 ≤ frame.length)
    (hacc : (t, Obs.accepted hop (routedPacket s frame i)) ∈ past) :
    Waiting R past hop (routedPacket s frame i) := by
  refine ⟨by rw [length_routedPacket hlen]; omega, ?_, t, hacc⟩
  have hfirst : (patch frame 6 i.addr.bytes).length = frame.length :=
    length_patch (by simp; omega)
  exact (hb.carries.patch (by simp) (by omega)).patch (by simp [be16]) (by omega)

lemma quotes_peek (s : Router) (buf : Frame) : Quotes buf (s.peek buf 14 28) :=
  ⟨s.length_peek buf 14 28, _, rfl⟩

/-! ### Calls -/

/-- The packets that a loop has still to give up have a source. -/
def Call.Sourced (R : Frame → Prop) : Call → Prop
  | .handle _ => True
  | .giveUp _ pkts => ∀ p ∈ pkts, Carries R p.buf

lemma Sourced.retry (h : Sourced R I s) {req : SrArpreq} (hf : s.findReq id = some req) :
    Sourced R I (retryArp s req) := by
  have hifs : (retryArp s req).ifList = s.ifList := by
    rw [ifList_of_core (retryArp_core s req)]
    rfl
  refine h.extend hifs ?_ (retryArp_trace s req) ?_
  · intro r hr
    rw [requests_of_core (retryArp_core s req)] at hr
    obtain ⟨r₀, hr₀, rfl⟩ := List.mem_map.1 hr
    refine ⟨r₀, hr₀, ?_⟩
    split_ifs
    · exact ⟨rfl, rfl⟩
    · exact ⟨rfl, rfl⟩
  · -- the request is broadcast for the sake of its first packet
    intro o ho
    obtain ⟨p, rest, i, hp, hi, rfl⟩ := of_mem_retryObs ho
    have hwaits := h.waiting req (mem_of_findReq hf) p (by rw [hp]; exact List.mem_cons_self)
    obtain ⟨t, hacc⟩ := hwaits.accepted
    rintro origin iface f v hsent
    obtain ⟨-, rfl, rfl, -⟩ := Obs.sent.inj hsent
    exact Or.inr ⟨i, rfl, .question hacc hwaits.carries (h.ifaces _ _ hi)⟩

/-- Handling a request keeps the sources. -/
lemma Tidy.sourced (h : Tidy A c s s') (hs : Sourced R I s) (hc : c.Sourced R) :
    Sourced R I s' := by
  induction h with
  | idle hw hf ht => exact hs
  | retry hw hf ht hn hid => exact hs.retry hf
  | @expire A s s' id req hw hf hx hid hloop ih =>
      exact (ih hs fun p hp => (hs.waiting req (mem_of_findReq hf) p hp).carries).destroy id
  | done hw => exact hs
  | short hw hl hrest ih => exact ih hs fun p hp => hc p (List.mem_cons_of_mem _ hp)
  | @mute A s s' id pkt rest hw hl hsrc hrest ih =>
      have hnoted : Sourced R I (s.emit (.icmpError 3 1 (.giveUp id pkt.fid))) :=
        hs.emit (hasSource_of_not_sent (by simp))
      refine ih (hnoted.quiet (.noteRead _ pkt.buf 14 20 hl)) ?_
      exact fun p hp => hc p (List.mem_cons_of_mem _ hp)
  | @report A s s₁ s₂ s' id nid pkt rest hw hl hsrc hq hnid hcall hrest ih₁ ih₂ =>
      obtain ⟨rt, i, -, -, hqs⟩ := report_queues hw hsrc hq
      have herr : Built R (unreachableFrame s id pkt) :=
        (hc pkt (by simp)).giveUp (quotes_peek _ _)
      have hcore : (announced s id pkt (nextHop rt pkt.src) i).core = s.core := announced_core
      have hann : Sourced R I (announced s id pkt (nextHop rt pkt.src) i) := by
        refine hs.extend (ifList_of_core hcore) ?_ announced_trace ?_
        · intro r hr
          rw [requests_of_core hcore] at hr
          exact ⟨r, hr, rfl, rfl⟩
        intro o ho
        rw [List.mem_cons, List.mem_singleton] at ho
        rcases ho with rfl | rfl
        · exact hasSource_of_not_sent (by simp)
        · exact hasSource_of_not_sent (by simp)
      have hwaits : Waiting R (announced s id pkt (nextHop rt pkt.src) i).trace (nextHop rt pkt.src)
          (errPacket s id pkt i) := by
        refine waiting_routedPacket (t := s.now) herr (by rw [length_unreachableFrame]; omega) ?_
        rw [announced_trace]
        exact List.mem_append_right _ (List.mem_cons_of_mem _ (List.mem_singleton_self _))
      exact ih₂ (ih₁ (hann.queue (hw.of_core hcore) hqs hwaits) trivial)
        fun p hp => hc p (List.mem_cons_of_mem _ hp)

/-! ### Events -/

lemma routeAndSend_sourced (hw : WF s) (hs : Sourced R I s) (hb : Built R frame)
    (h : routeAndSend (handleArpreq fuel) s frame = .ok (rc, s')) : Sourced R I s' := by
  rcases routeAndSend_cases hw h with
    ⟨-, rfl⟩ | ⟨hlen, -, rfl⟩ | ⟨hlen, rt, i, s₁, nid, -, hqs, hcall⟩
  · exact hs
  · exact hs.quiet (.noteRead s frame 14 20 hlen)
  · have hacc : Sourced R I ((s.noteRead frame 14 20).emit
        (.accepted (nextHop rt (ip32 frame 30)) (routedPacket s frame i))) :=
      (hs.quiet (.noteRead s frame 14 20 hlen)).emit (hasSource_of_not_sent (by simp))
    have hw₀ := (hw.noteRead frame 14 20).emit
      (.accepted (nextHop rt (ip32 frame 30)) (routedPacket s frame i))
    have hwaits := waiting_routedPacket (t := s.now) hb hlen
      (List.mem_append_right s.trace (List.mem_singleton_self
        (s.now, Obs.accepted (nextHop rt (ip32 frame 30)) (routedPacket s frame i))))
    exact (tidy_of_handleArpreq (hqs.wf hw₀) hcall).sourced (hacc.queue hw₀ hqs hwaits) trivial

lemma sendIcmpError_sourced {type code : UInt8} {src : Ip} (hw : WF s) (hs : Sourced R I s)
    (hr : R packet) (hv : ValidIp packet) (htc : type = 11 ∧ code = 0 ∨ type = 3 ∧ code = 0)
    (h : sendIcmpError (handleArpreq fuel) s .arrival type code packet src = .ok s') :
    Sourced R I s' := by
  have hcomplain : Sourced R I (s.emit (.icmpError type code .arrival)) :=
    hs.emit (hasSource_of_not_sent (by simp))
  rcases sendIcmpError_cases hv.len h with ⟨-, rfl⟩ | ⟨-, rc, hsend⟩
  · exact hcomplain.quiet (.noteRead _ packet 14 20 hv.len)
  · refine routeAndSend_sourced (((hw.emit _).noteRead _ _ _).noteRead _ _ _) ?_
      (.arrival hr hv htc (quotes_peek _ _)) hsend
    exact hcomplain.congr rfl rfl rfl

lemma IpOutcome.sourced (hw : WF s) (hs : Sourced R I s) (hr : R packet)
    (h : IpOutcome (handleArpreq fuel) s packet interface s') : Sourced R I s' := by
  cases h with
  | dropped hq hno => exact hs.quiet hq
  | echoed hq hv hus hecho hsend =>
      exact routeAndSend_sourced (hq.wf hw) (hs.quiet hq) (.echo hr hv hecho) hsend
  | expired hq ht httl herr =>
      exact sendIcmpError_sourced (hq.wf hw) (hs.quiet hq) hr ht.valid (Or.inl ⟨rfl, rfl⟩) herr
  | forwarded hq ht httl hsend =>
      exact routeAndSend_sourced (hq.wf hw) (hs.quiet hq) (.forward hr ht.valid httl) hsend
  | unroutable hq ht httl hno herr =>
      exact sendIcmpError_sourced (hq.wf hw) (hs.quiet hq) hr ht.valid (Or.inr ⟨rfl, rfl⟩) herr

lemma hasSource_drainObs (sha : Mac) (sip : Ip) (hlen : 14 ≤ pkt.buf.length)
    (hc : Carries R pkt.buf) : HasSource R I past (drainObs s sha sip pkt).2 := by
  rintro origin iface f v h
  rw [drainObs, Obs.sent.injEq] at h
  rw [← h.2.2.1, drainFrame]
  left
  cases srGetInterface s.ifList pkt.iface with
  | none => exact hc.patch (by simp) hlen
  | some i =>
      have hfirst : (patch pkt.buf 6 i.addr.bytes).length = pkt.buf.length :=
        length_patch (by simp; omega)
      exact (hc.patch (by simp) hlen).patch (by simp) (by omega)

lemma ArpOutcome.sourced (hs : Sourced R I s) (hr : R packet)
    (htype : ethertype packet = ethertypeArp) (h : ArpOutcome s packet interface s') :
    Sourced R I s' := by
  cases h with
  | ignored hq hno => exact hs.quiet hq
  | @answered s₁ i hq hno hreq =>
      have hcore : (sendArpReply s₁ (slice packet 14 28) i).core = s₁.core :=
        sendArpReply_core _ _ _
      refine (hs.quiet hq).extend (ifList_of_core hcore) ?_ (srSendPacket_trace _ _ _ _) ?_
      · intro r hr
        rw [requests_of_core hcore] at hr
        exact ⟨r, hr, rfl, rfl⟩
      · intro o ho
        rw [List.mem_singleton] at ho
        rintro origin iface f v hsent
        rw [ho] at hsent
        obtain ⟨-, rfl, rfl, -⟩ := Obs.sent.inj hsent
        have hask : ArpAsks packet i.ip :=
          ⟨hreq.len, htype, hreq.hrd, hreq.pro, hreq.op, hreq.tip⟩
        exact Or.inr ⟨i, rfl, .answer hr hask (hs.ifaces _ _ hreq.iface)⟩
  | learned hq hr hnone => exact (hs.quiet hq).congr rfl rfl rfl
  | @drained s₁ s' req hq hr hf hip hcore htrace hreads =>
      have hifs : s'.ifList = s₁.ifList := by
        rw [ifList_of_core hcore]
        rfl
      refine hs.extend (hifs.trans (ifList_of_core hq.core)) ?_ htrace ?_
      · intro r hr
        rw [requests_of_core hcore] at hr
        have hmem : r ∈ s₁.requests := (List.mem_filter.1 hr).1
        rw [requests_of_core hq.core] at hmem
        exact ⟨r, hmem, rfl, rfl⟩
      · intro o ho
        obtain ⟨p, hp, rfl⟩ := List.mem_map.1 ho
        have hwaits := hs.waiting req (mem_of_findReq hf) p (List.mem_of_mem_filter hp)
        exact hasSource_drainObs _ _ hwaits.len hwaits.carries

lemma Outcome.sourced (hw : WF s) (hs : Sourced R I s) (hr : R packet)
    (h : Outcome (handleArpreq fuel) s packet interface s') : Sourced R I s' := by
  cases h with
  | ignored hq hno => exact hs.quiet hq
  | arp htype hq h => exact h.sourced (hs.quiet hq) hr htype
  | ip htype h => exact h.sourced hw hs hr

lemma sweepFrom_sourced {n : ℕ} {cur : Option ReqId} (hw : WF s) (hs : Sourced R I s)
    (h : sweepFrom (handleArpreq fuel) n s cur = .ok s') : Sourced R I s' := by
  induction n generalizing s cur with
  | zero =>
      rcases sweepFrom_cases h with ⟨-, rfl⟩ | ⟨m, id, next, s₁, hn, -⟩
      · exact hs
      · omega
  | succ n ih =>
      rcases sweepFrom_cases h with ⟨-, rfl⟩ | ⟨m, id, next, s₁, hn, -, hnext, hcall, hrest⟩
      · exact hs
      · obtain rfl : n = m := by omega
        have htidy := tidy_of_handleArpreq (hw.emit _) hcall
        exact ih htidy.wf
          (htidy.sourced (hs.emit (hasSource_of_not_sent (by simp))) trivial) hrest

/-- The event is the arrival of a frame. -/
def SessionEvent.arrived : SessionEvent → Option Frame
  | .data (.recv packet _) => some packet
  | _ => none

/-- What an event does to the sources. -/
lemma SessionStep.sourced {e : SessionEvent} (hw : WF s) (hs : Sourced R I s)
    (hR : ∀ packet, e.arrived = some packet → R packet)
    (hI : ∀ name i, srGetInterface s'.ifList name = some i → I name i) (h : SessionStep s e s') :
    Sourced R I s' := by
  cases e with
  | hwinfo entries =>
      obtain ⟨hreq, -, htrace⟩ := srHandleHwinfo_requests (hwinfo_of_sessionStep h)
      exact hs.rename hI hreq htrace
  | data e =>
      have hstep : Step s e s' := h
      cases e with
      | recv packet interface =>
          obtain ⟨fuel, hout⟩ := hstep.outcome hw
          exact hout.sourced hw hs (hR packet rfl)
      | sweep =>
          obtain ⟨fuel, hsweep⟩ := hstep
          rw [step, srArpcacheTimeout, srArpcacheSweepreqs] at hsweep
          have hw₁ : WF (expireEntries s) := hw.congr rfl rfl
          have hs₁ : Sourced R I (expireEntries s) := hs.congr rfl rfl rfl
          exact sweepFrom_sourced hw₁ hs₁ hsweep
      | tick d =>
          obtain ⟨fuel, htick⟩ := hstep
          rw [step, Except.ok.injEq] at htick
          subst htick
          exact hs.congr rfl rfl rfl

/-- A frame that was received in a run. -/
def ReceivedIn (es : List SessionEvent) (f : Frame) : Prop := ∃ e ∈ es, e.arrived = some f

/-- At some point of the run the name was that of the interface. -/
def NamedIn (s₀ : Router) (es : List SessionEvent) (name : List UInt8) (i : SrIf) : Prop :=
  ∃ es₁ es₂ s, es = es₁ ++ es₂ ∧ Run SessionStep s₀ es₁ s ∧ srGetInterface s.ifList name = some i

lemma sourced_of_run {es : List SessionEvent} {s₀ : Router} (hw : WF s₀) (hs : Sourced R I s₀)
    (hR : ∀ f, ReceivedIn es f → R f) (hI : ∀ name i, NamedIn s₀ es name i → I name i)
    (h : Run SessionStep s₀ es s) : WF s ∧ Sourced R I s := by
  refine h.invariant_of_reached (I := fun s => WF s ∧ Sourced R I s) ?_ ⟨hw, hs⟩
  rintro es₁ e es₂ u v hsplit hrun ⟨hu, hsu⟩ hst
  refine ⟨(hst.routes hu).1, hst.sourced hu hsu ?_ ?_⟩
  · intro packet hp
    exact hR packet ⟨e, by rw [hsplit]; simp, hp⟩
  · intro name i hi
    exact hI name i ⟨es₁ ++ [e], es₂, v, by rw [hsplit, List.append_assoc]; rfl,
      hrun.append (.single hst), hi⟩

/-! ### Runs -/

variable {ifs : List SrIf} {rt : List SrRt} {now : ℕ} {junk : ℕ → ℕ → UInt8}
  {es : List SessionEvent}

lemma sourced_init :
    Sourced R (NamedIn (Router.init ifs rt now junk) es) (Router.init ifs rt now junk) :=
  ⟨fun _ _ hi => ⟨[], es, _, rfl, .nil _, hi⟩, by simp [Router.init], by simp [Router.init]⟩

/-- The sources in a session. -/
lemma sourced_of_session (h : Run SessionStep (Router.init ifs rt now junk) es s) :
    Sourced (ReceivedIn es) (NamedIn (Router.init ifs rt now junk) es) s :=
  (sourced_of_run (wf_init ..) sourced_init (fun _ h => h) (fun _ _ h => h) h).2

lemma Built.exists_received (h : Built R f) : ∃ packet, R packet := by
  induction h with
  | forward hr hv httl => exact ⟨_, hr⟩
  | echo hr hv hecho => exact ⟨_, hr⟩
  | arrival hr hv htc hdata => exact ⟨_, hr⟩
  | giveUp hb hdata ih => exact ih

lemma Carries.exists_received (h : Carries R f) : ∃ packet, R packet := by
  obtain ⟨g, hg, -, -⟩ := h
  exact hg.exists_received

lemma ArpCause.exists_received (h : ArpCause R I past i f) : ∃ packet, R packet := by
  cases h with
  | answer hr hask hi => exact ⟨_, hr⟩
  | question hacc hc hi => exact hc.exists_received

lemma of_mem_sentFrames {trace : List (ℕ × Obs)} (h : (f, interface) ∈ sentFrames trace) :
    ∃ t origin, (t, Obs.sent origin interface f .passed) ∈ trace := by
  obtain ⟨⟨t, o⟩, ho, hsome⟩ := List.mem_filterMap.1 h
  cases o with
  | sent origin iface f' v =>
      cases v with
      | passed =>
          obtain ⟨rfl, rfl⟩ := Prod.mk.inj (Option.some.inj hsome)
          exact ⟨t, origin, ho⟩
      | tooShort => simp at hsome
      | mismatch => simp at hsome
  | _ => simp at hsome

lemma Built.length_le {n : ℕ} (hR : ∀ f, R f → f.length ≤ n) (h : Built R f) :
    f.length ≤ max n 70 := by
  cases h with
  | @forward packet hr hv httl =>
      have hlen := hR packet hr
      rw [length_transitFrame hv]
      omega
  | @echo packet hr hv hecho =>
      have hlen := hR packet hr
      rw [length_icmpEchoReply hv.hdrLen hecho.len]
      omega
  | arrival hr hv htc hdata =>
      rw [length_icmpErrorFrame hdata.1]
      exact Nat.le_max_right _ _
  | giveUp hb hdata =>
      rw [length_icmpErrorFrame hdata.1]
      exact Nat.le_max_right _ _

lemma Carries.length_le {n : ℕ} (hR : ∀ f, R f → f.length ≤ n) (h : Carries R f) :
    f.length ≤ max n 70 := by
  obtain ⟨g, hg, hlen, -⟩ := h
  rw [hlen]
  exact hg.length_le hR

lemma HasSource.length_le {n : ℕ} {o : Obs} (hR : ∀ f, R f → f.length ≤ n)
    (h : HasSource R I past o) {origin : Origin} {iface : List UInt8} {f : Frame} {v : Verdict}
    (ho : o = .sent origin iface f v) : f.length ≤ max n 70 := by
  rcases h origin iface f v ho with hc | ⟨i, -, hcause⟩
  · exact hc.length_le hR
  · rw [hcause.length]
    omega

/-- Frames do not grow: the longest frame that waits or is sent has no more bytes than the
longest one that was received, or than an error. -/
theorem frames_never_grow {n : ℕ} (h : Run SessionStep (Router.init ifs rt now junk) es s)
    (hn : ∀ f, ReceivedIn es f → f.length ≤ n) :
    (∀ r ∈ s.requests, ∀ p ∈ r.packets, p.buf.length ≤ max n 70) ∧
      ∀ t origin iface f v, (t, Obs.sent origin iface f v) ∈ s.trace → f.length ≤ max n 70 := by
  have hs := sourced_of_session h
  constructor
  · intro r hr p hp
    exact (hs.waiting r hr p hp).carries.length_le hn
  · intro t origin iface f v hsent
    exact (hs.sent _ hsent).length_le hn rfl

/-- A frame of 134 bytes waits, and a request for the next hop is sent. -/
theorem frames_never_grow_sample :
    ∃ s es, Run SessionStep sampleRouter es s ∧ s.requests.length = 1 ∧ s.trace ≠ [] ∧
      (∀ r ∈ s.requests, ∀ p ∈ r.packets, p.buf.length ≤ 134) ∧
      ∀ t origin iface f v, (t, Obs.sent origin iface f v) ∈ s.trace → f.length ≤ 134 := by
  obtain ⟨s, hrun, hlen⟩ := exists_run_of_leadsTo sessionStep_of_ok
    (show leadsTo (sessionStep 5) sampleRouter
      [.data (.recv (sampleFrame (sampleIp 0 2) (sampleIp 1 2) 64 100) (sampleName 0))]
      (fun s => s.requests.length = 1 ∧ s.trace ≠ []) by decide +kernel)
  obtain ⟨hone, htrace⟩ := of_decide_eq_true hlen
  refine ⟨s, _, hrun, hone, htrace, frames_never_grow (n := 134) hrun ?_⟩
  rintro f ⟨e, he, hf⟩
  rw [List.mem_singleton] at he
  rw [he, SessionEvent.arrived, Option.some.injEq] at hf
  rw [← hf]
  decide +kernel

end SimpleRouter
