/-
An ARP reply drains exactly its own request.

`sr_arpcache_insert` takes the request for the sender's address off the queue, the
frames that wait on it are sent off one after the other, and `sr_arpreq_destroy` looks
for the request on the queue a second time.  By distinct identities and addresses the
second search finds nothing and the first one finds all there is, so that what remains
are the requests for other addresses, as they were and in their order.
-/
import SimpleRouter.Gate

namespace SimpleRouter

open Bytes CString Runs

variable {s s' : Router} {packet : Frame} {interface : List UInt8} {pkt : SrPacket} {i : SrIf}
  {m : Mac}

/-! ### What is transmitted -/

/-- The frames that wait for the hardware address of `ip`. -/
def queuedUnder (s : Router) (ip : Ip) : List SrPacket :=
  (s.requests.filter (·.ip = ip)).flatMap (·.packets)

/-- A packet that `sr_send_packet` lets pass: it has room for an Ethernet header, and its
interface exists. -/
def SrPacket.Sendable (ifs : List SrIf) (p : SrPacket) : Prop :=
  14 ≤ p.buf.length ∧ (srGetInterface ifs p.iface).isSome

instance (ifs : List SrIf) (p : SrPacket) : Decidable (p.Sendable ifs) :=
  inferInstanceAs (Decidable (_ ∧ _))

/-- The packet `p` is transmitted to the hardware address `m`. -/
structure DrainedAs (ifs : List SrIf) (m : Mac) (p : SrPacket) (out : Frame × List UInt8) :
    Prop where
  iface : out.2 = p.iface
  length : out.1.length = p.buf.length
  dhost : etherDhost out.1 = m
  shost : ∃ i, srGetInterface ifs p.iface = some i ∧ etherShost out.1 = i.addr
  /-- Everything behind the two addresses is as it was. -/
  rest : ∀ k, 12 ≤ k → out.1[k]? = p.buf[k]?

lemma drainFrame_eq {ifs : List SrIf} (m : Mac) (hi : srGetInterface ifs pkt.iface = some i) :
    drainFrame ifs m pkt = patch (patch pkt.buf 6 i.addr.bytes) 0 m.bytes := by
  rw [drainFrame, hi]

lemma drainedAs_drainFrame {ifs : List SrIf} (m : Mac) (h : pkt.Sendable ifs) :
    DrainedAs ifs m pkt (drainFrame ifs m pkt, pkt.iface) := by
  obtain ⟨hlen, hreg⟩ := h
  obtain ⟨i, hi⟩ := Option.isSome_iff_exists.1 hreg
  have h₁ : 6 + i.addr.bytes.length ≤ pkt.buf.length := by
    simp
    omega
  have hsrc : (patch pkt.buf 6 i.addr.bytes).length = pkt.buf.length := length_patch h₁
  have h₀ : 0 + m.bytes.length ≤ (patch pkt.buf 6 i.addr.bytes).length := by
    rw [hsrc]
    simp
    omega
  rw [drainFrame_eq m hi]
  refine ⟨rfl, ?_, mac48_patch_self m (by omega), ⟨i, hi, ?_⟩, ?_⟩
  · rw [length_patch h₀, hsrc]
  · rw [etherShost, mac48_patch_of_disjoint h₀ (by simp), mac48_patch_self _ (by omega)]
  · intro k hk
    rw [getElem?_patch_of_disjoint h₀ (by simp; omega),
      getElem?_patch_of_disjoint h₁ (by simp; omega)]

/-- The drain transmits a packet if its interface exists. -/
lemma drainVerdict_eq_passed_iff (m : Mac) {ifs : List SrIf} (hlen : 14 ≤ pkt.buf.length) :
    sendVerdict ifs (drainFrame ifs m pkt) pkt.iface = .passed ↔ pkt.Sendable ifs := by
  constructor
  · intro hv
    refine ⟨hlen, Option.isSome_iff_ne_none.2 fun hnone => ?_⟩
    have hmis : srEtherAddrsMatchInterface ifs (drainFrame ifs m pkt) pkt.iface = false := by
      rw [srEtherAddrsMatchInterface, hnone]
    rw [sendVerdict, hmis, if_neg Bool.false_ne_true] at hv
    split_ifs at hv
  · intro h
    have hoff := drainedAs_drainFrame m h
    obtain ⟨i, hi, hs⟩ := hoff.shost
    have hlen' : 14 ≤ (drainFrame ifs m pkt).length := hoff.length ▸ hlen
    have hpass : Passes ifs (.sent .arpReply pkt.iface (drainFrame ifs m pkt)
        (sendVerdict ifs (drainFrame ifs m pkt) pkt.iface)) := passes_sent hlen' hi hs
    exact (hpass _ _ _ _ rfl).2.2

/-- The packets of a list are transmitted one after the other. -/
lemma sentFrames_drainObs (s : Router) (m : Mac) (sip : Ip) (pkts : List SrPacket) :
    List.Forall₂ (DrainedAs s.ifList m) (pkts.filter fun p => p.Sendable s.ifList)
      (sentFrames ((pkts.filter fun p => 14 ≤ p.buf.length).map (drainObs s m sip))) := by
  induction pkts with
  | nil => exact .nil
  | cons p rest ih =>
      by_cases hlen : 14 ≤ p.buf.length
      · have hcons : (p :: rest).filter (fun p => 14 ≤ p.buf.length)
            = p :: rest.filter fun p => 14 ≤ p.buf.length := List.filter_cons_of_pos (by simpa)
        rw [hcons, List.map_cons, drainObs]
        by_cases h : p.Sendable s.ifList
        · rw [List.filter_cons_of_pos (by simpa using h), (drainVerdict_eq_passed_iff m hlen).2 h,
            sentFrames_cons_passed]
          exact .cons (drainedAs_drainFrame m h) ih
        · have hv := (drainVerdict_eq_passed_iff m hlen).not.2 h
          rw [List.filter_cons_of_neg (by simpa using h), sentFrames_cons_rejected _ _ _ _ _ hv]
          exact ih
      · have hskip : (p :: rest).filter (fun p => 14 ≤ p.buf.length)
            = rest.filter fun p => 14 ≤ p.buf.length := List.filter_cons_of_neg (by simpa using hlen)
        have hnot : ¬ p.Sendable s.ifList := fun h => hlen h.1
        rw [hskip, List.filter_cons_of_neg (by simpa using hnot)]
        exact ih

/-! ### The request -/

/-- The packets that wait for an address are those of its request. -/
lemma queuedUnder_of_mem (hw : WF s) {req : SrArpreq} (h : req ∈ s.requests) :
    queuedUnder s req.ip = req.packets := by
  have hfilter : ∀ l : List SrArpreq, (l.map (·.ip)).Nodup → req ∈ l →
      l.filter (·.ip = req.ip) = [req] := by
    intro l hn hmem
    have hsing : (l.filter (·.ip = req.ip)).Nodup := (List.Nodup.of_map _ hn).filter _
    refine List.perm_singleton.1 ((List.perm_ext_iff_of_nodup hsing (List.nodup_singleton _)).2 ?_)
    intro r
    rw [List.mem_filter, List.mem_singleton]
    constructor
    · rintro ⟨hr, hip⟩
      exact List.inj_on_of_nodup_map hn hr hmem (by simpa using hip)
    · rintro rfl
      exact ⟨hmem, by simp⟩
  rw [queuedUnder, hfilter _ hw.ips_nodup h]
  simp

lemma queuedUnder_of_none {ip : Ip} (h : ∀ r ∈ s.requests, r.ip ≠ ip) : queuedUnder s ip = [] := by
  rw [queuedUnder, List.filter_eq_nil_iff.2 (by simpa using h)]
  rfl

/-- With distinct addresses, taking a request away by identity is taking it away by
address. -/
lemma filter_id_eq_filter_ip (hw : WF s) {req : SrArpreq} (h : req ∈ s.requests) :
    s.requests.filter (·.id ≠ req.id) = s.requests.filter (·.ip ≠ req.ip) := by
  refine List.filter_congr fun r hr => ?_
  rw [decide_eq_decide, not_iff_not]
  constructor
  · intro hid
    have hr' := hw.findReq_of_mem hr
    rw [hid, hw.findReq_of_mem h, Option.some.injEq] at hr'
    rw [hr']
  · intro hip
    rw [hw.eq_of_ip_eq hr h hip]

/-- An ARP reply for `ip` with the hardware address `m`, come in on an interface that
exists. -/
structure ReplyFrom (s : Router) (packet : Frame) (interface : List UInt8) (ip : Ip) (m : Mac) :
    Prop where
  type : ethertype packet = ethertypeArp
  reply : ArpReply s packet interface
  sip : arSip (slice packet 14 28) = ip
  sha : arSha (slice packet 14 28) = m

/-- What a reply does to the queue and to the trace. -/
structure Drains (s : Router) (ip : Ip) (m : Mac) (s' : Router) : Prop where
  requests : s'.requests = s.requests.filter (·.ip ≠ ip)
  sent : ∃ new, s'.trace = s.trace ++ new ∧
    List.Forall₂ (DrainedAs s.ifList m) ((queuedUnder s ip).filter fun p => p.Sendable s.ifList)
      (sentFrames new)

lemma ArpOutcome.drains {ip : Ip} (hw : WF s) (h : ArpOutcome s packet interface s')
    (hr : ReplyFrom s packet interface ip m) : Drains s ip m s' := by
  obtain ⟨-, hreply, rfl, rfl⟩ := hr
  cases h with
  | ignored hq hno => exact absurd hreply hno
  | answered hq hno hr => exact absurd hreply hno
  | @learned s₁ hq hr hnone =>
      refine ⟨?_, [], ?_, ?_⟩
      · rw [List.filter_eq_self.2 (by simpa using hnone)]
        exact (requests_of_core hq.core :)
      · rw [List.append_nil]
        exact hq.trace
      · rw [queuedUnder_of_none hnone]
        exact .nil
  | @drained s₁ s' req hq hr hf hip hcore htrace hreads =>
      have hreq := mem_of_findReq hf
      refine ⟨?_, _, htrace, ?_⟩
      · have hreqs : s₁.requests = s.requests := requests_of_core hq.core
        rw [requests_of_core hcore, srArpreqDestroy_requests, ← hip, ← filter_id_eq_filter_ip hw hreq,
          ← hreqs]
        rfl
      · rw [← hip, queuedUnder_of_mem hw hreq]
        exact sentFrames_drainObs s _ _ _

/-- Every packet that waits in a session can be sent. -/
lemma sendable_of_run {ifs : List SrIf} {rt : List SrRt} {now : ℕ} {junk : ℕ → ℕ → UInt8}
    {es : List SessionEvent} (h : Run SessionStep (Router.init ifs rt now junk) es s) (ip : Ip) :
    ∀ p ∈ queuedUnder s ip, p.Sendable s.ifList := by
  have hs := sessionOk_of_run h
  intro p hp
  obtain ⟨r, hr, hp⟩ := List.mem_flatMap.1 hp
  have hok := hs.packets _ r (hs.wf.findReq_of_mem (List.mem_filter.1 hr).1) p hp
  exact ⟨le_trans (by omega) hok.len, hok.iface⟩

/-- An ARP reply from `ip` drains the request for `ip` and no other.  The frames that
wait on it are transmitted once each and in order, addressed to the hardware address of
the reply, those aside whose interface does not exist, of which a session has none; the
other requests stay as they are.  A reply nobody waits for changes no request and
transmits nothing. -/
theorem reply_drains_request {ip : Ip} (hw : WF s) (hr : ReplyFrom s packet interface ip m) :
    ∃ s', (∀ fuel, srHandlepacket fuel s packet interface = .ok (s', packet)) ∧
      s'.requests = s.requests.filter (·.ip ≠ ip) ∧
      (∃ new, s'.trace = s.trace ++ new ∧
        List.Forall₂ (DrainedAs s.ifList m) ((queuedUnder s ip).filter fun p => p.Sendable s.ifList)
          (sentFrames new) ∧
        ((∀ r ∈ s.requests, r.ip ≠ ip) → s'.requests = s.requests ∧ sentFrames new = [])) ∧
      ∀ ifs rt now junk es, Run SessionStep (Router.init ifs rt now junk) es s →
        (queuedUnder s ip).filter (fun p => p.Sendable s.ifList) = queuedUnder s ip := by
  have hlen := hr.reply.len
  have hq : Quiet s (s.noteRead packet 0 14) := .noteRead s _ _ _ (by omega)
  have hr' : ReplyFrom (s.noteRead packet 0 14) packet interface ip m :=
    ⟨hr.type, ⟨hlen, hr.reply.hrd, hr.reply.pro, hr.reply.op, hr.reply.iface⟩, hr.sip, hr.sha⟩
  have hout : ArpOutcome (s.noteRead packet 0 14) packet interface _ :=
    handleArpPacket_outcome (hq.wf hw)
  obtain ⟨hreqs, new, htrace, hsent⟩ := hout.drains (hq.wf hw) hr'
  refine ⟨_, fun fuel => ?_, hreqs, ⟨new, htrace, hsent, fun hnone => ?_⟩, ?_⟩
  · rw [srHandlepacket_eq fuel s interface (by omega), if_pos hr.type]
  · have hnone' : ∀ r ∈ (s.noteRead packet 0 14).requests, r.ip ≠ ip := hnone
    rw [queuedUnder_of_none hnone'] at hsent
    refine ⟨?_, ?_⟩
    · rw [hreqs, List.filter_eq_self.2 (by simpa using hnone')]
      rfl
    · cases hsent' : sentFrames new with
      | nil => rfl
      | cons o rest =>
          rw [hsent'] at hsent
          cases hsent
  · intro ifs rt now junk es hrun
    exact List.filter_eq_self.2 fun p hp => by simpa using sendable_of_run hrun ip p hp

/-- Two frames wait for `10.0.1.2` and one for `10.0.1.3` when `10.0.1.2` replies. -/
theorem reply_drains_request_sample :
    ∃ s s' es new, Run SessionStep sampleRouter es s ∧
      (queuedUnder s (sampleIp 1 2)).length = 2 ∧ s.requests.length = 2 ∧
      srHandlepacket 5 s (sampleReply (sampleIp 1 2) ⟨2, 0, 0, 0, 9, 9⟩) (sampleName 1)
        = .ok (s', sampleReply (sampleIp 1 2) ⟨2, 0, 0, 0, 9, 9⟩) ∧
      s'.requests = s.requests.filter (·.ip ≠ sampleIp 1 2) ∧ s'.trace = s.trace ++ new ∧
      List.Forall₂ (DrainedAs s.ifList ⟨2, 0, 0, 0, 9, 9⟩) (queuedUnder s (sampleIp 1 2))
        (sentFrames new) := by
  obtain ⟨s, hrun, hlast⟩ := exists_run_of_leadsTo sessionStep_of_ok
    (show leadsTo (sessionStep 5) sampleRouter
      [.data (.recv (sampleFrame (sampleIp 0 2) (sampleIp 1 2) 64 20) (sampleName 0)),
        .data (.recv (sampleFrame (sampleIp 0 3) (sampleIp 1 3) 64 8) (sampleName 0)),
        .data (.recv (sampleFrame (sampleIp 0 3) (sampleIp 1 2) 64 8) (sampleName 0))]
      (fun s => (queuedUnder s (sampleIp 1 2)).length = 2 ∧ s.requests.length = 2 ∧
        s.ifList = sampleIfs) by decide +kernel)
  obtain ⟨hwait, hreqs, hifs⟩ := of_decide_eq_true hlast
  have hreply : ReplyFrom s (sampleReply (sampleIp 1 2) ⟨2, 0, 0, 0, 9, 9⟩) (sampleName 1)
      (sampleIp 1 2) ⟨2, 0, 0, 0, 9, 9⟩ := by
    obtain ⟨htype, hreply, hsip, hsha⟩ := sampleReply_replies hifs
    exact ⟨htype, hreply, hsip, hsha⟩
  obtain ⟨s', hret, hreq, ⟨new, htrace, hsent, -⟩, hall⟩ :=
    reply_drains_request (sessionOk_of_run hrun).wf hreply
  rw [hall _ _ _ _ _ hrun] at hsent
  exact ⟨s, s', _, new, hrun, hwait, hreqs, hret 5, hreq, htrace, hsent⟩

end SimpleRouter
