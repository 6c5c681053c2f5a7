/-
One request, one interface.

A request is found by the address of its next hop, and the interface of a packet comes
from the route of its destination.  A comment in `handle_arpreq` says that packets with
one next hop have one interface, and takes the interface of the first one for all of them.
This is a property of the routing table: two routes that are found and share a next hop
have to share their interface.  If two of them do not, two echo requests are enough to
queue packets for both interfaces on one request.
-/
import SimpleRouter.Drain
import SimpleRouter.Echo

namespace SimpleRouter

open Bytes CString Runs

variable {s s' : Router} {c c' : Config} {e : Event} {ip : Ip} {pkt : SrPacket} {rts : List SrRt}

/-! ### The table -/

/-- Routes that are found and have the same next hop have the same interface. -/
def HopsAgree (rts : List SrRt) : Prop :=
  ∀ r ∈ rts, ∀ r' ∈ rts, rtExactMatch rts r.dest = some r → rtExactMatch rts r'.dest = some r' →
    nextHop r r.dest = nextHop r' r'.dest → cstr 32 r.interface = cstr 32 r'.interface

instance (rts : List SrRt) : Decidable (HopsAgree rts) :=
  inferInstanceAs (Decidable (∀ r ∈ rts, ∀ r' ∈ rts, rtExactMatch rts r.dest = some r →
    rtExactMatch rts r'.dest = some r' → nextHop r r.dest = nextHop r' r'.dest →
    cstr 32 r.interface = cstr 32 r'.interface))

/-- `name` is the interface of a route that is found and has the next hop `ip`. -/
def ReachesHop (rts : List SrRt) (ip : Ip) (name : List UInt8) : Prop :=
  ∃ r, rtExactMatch rts r.dest = some r ∧ nextHop r r.dest = ip ∧
    cstr 32 name = cstr 32 r.interface

lemma HopsAgree.eq {a b : List UInt8} (h : HopsAgree rts) (ha : ReachesHop rts ip a)
    (hb : ReachesHop rts ip b) : cstr 32 a = cstr 32 b := by
  obtain ⟨r, hr, hhop, ha⟩ := ha
  obtain ⟨r', hr', hhop', hb⟩ := hb
  rw [ha, hb]
  exact h r (List.mem_of_find?_eq_some hr) r' (List.mem_of_find?_eq_some hr') hr hr'
    (hhop.trans hhop'.symm)

/-- A packet waits on an interface that leads to its next hop. -/
lemma PacketOk.reachesHop (h : PacketOk s ip pkt) : ReachesHop s.routingTable ip pkt.iface := by
  obtain ⟨r, i, hr, hhop, hi, hi', -⟩ := h.route
  have hdest := rtExactMatch_dest hr
  refine ⟨r, by rw [hdest, hr], by rw [hdest, hhop], ?_⟩
  rw [← cstr_name_of_srGetInterface hi, ← cstr_name_of_srGetInterface hi']

/-! ### Runs -/

/-- An ARP request is broadcast on an interface that leads to the address it asks for. -/
def Obs.OnRoute (rts : List SrRt) : Obs → Prop
  | .sent (.arpRequest _ ip) name _ _ => ReachesHop rts ip name
  | _ => True

lemma Emitted.onRoute {o : Obs} (h : Emitted e c o) (hok : QueueOk c.router) :
    o.OnRoute c.router.routingTable := by
  cases h with
  | retry hf hp hi =>
      obtain ⟨r, hr, hhop, hname⟩ := ((hok _ _ hf).packets _ hp).reachesHop
      exact ⟨r, hr, hhop, (cstr_name_of_srGetInterface hi).trans hname⟩
  | _ => trivial

/-- The packets of a request wait on one interface, and so do the packets that wait for an
address a broadcast has asked for on its interface. -/
structure OneInterface (s : Router) : Prop where
  packets : ∀ r ∈ s.requests, ∀ p ∈ r.packets, ∀ q ∈ r.packets, cstr 32 p.iface = cstr 32 q.iface
  broadcasts : ∀ t id ip name g v, (t, Obs.sent (.arpRequest id ip) name g v) ∈ s.trace →
    ∀ r ∈ s.requests, r.ip = ip → ∀ p ∈ r.packets, cstr 32 name = cstr 32 p.iface

/-- What is known of the queue and of the trace in the course of a run. -/
structure RoutesOk (rts : List SrRt) (c : Config) : Prop where
  queue : QueueOk c.router
  table : c.router.routingTable = rts
  trace : ∀ o ∈ c.router.trace, o.2.OnRoute rts

lemma Move.routesOk (h : Move e c c') (hc : RoutesOk rts c) : RoutesOk rts c' := by
  obtain ⟨hqueue, htable, htrace⟩ := hc
  obtain ⟨new, hnew, hobs⟩ := h.extends
  refine ⟨h.queueOk hqueue, h.later.routingTable.trans htable, ?_⟩
  intro o ho
  rw [hnew, List.mem_append] at ho
  rcases ho with ho | ho
  · exact htrace o ho
  · exact htable ▸ (hobs o ho).2.onRoute hqueue

variable {ifs : List SrIf} {now : ℕ} {junk : ℕ → ℕ → UInt8} {es : List Event}

lemma oneInterface_of_run (hagree : HopsAgree rts)
    (h : Run Step (Router.init ifs rts now junk) es s) : OneInterface s := by
  obtain ⟨hw, hqueue, htable, htrace⟩ := run_invariant (I := RoutesOk rts) h (wf_init ..)
    (fun _ _ _ _ hm hc => hm.routesOk hc)
    ⟨by simp [QueueOk, Config.rest, Router.init, Router.findReq], rfl,
      by simp [Config.rest, Router.init]⟩
  simp only [Config.rest] at hqueue htable htrace
  have hleads : ∀ r ∈ s.requests, ∀ p ∈ r.packets, ReachesHop rts r.ip p.iface := by
    intro r hr p hp
    rw [← htable]
    exact ((hqueue _ r (hw.findReq_of_mem hr)).packets p hp).reachesHop
  constructor
  · intro r hr p hp q hq
    exact hagree.eq (hleads r hr p hp) (hleads r hr q hq)
  · rintro t id ip name g v hmem r hr rfl p hp
    exact hagree.eq (htrace _ hmem) (hleads r hr p hp)

/-! ### Two packets for one request -/

/-- The IP header of an echo request, with a checksum of 0. -/
def rawEchoHdr (src dst : Ip) : List UInt8 :=
  [0x45, 0] ++ be16 28 ++ be16 0 ++ be16 0 ++ [64, 1] ++ be16 0 ++ src.bytes ++ dst.bytes

/-- A frame with an IP header of the given checksum, and an echo request without data. -/
def echoFrameWith (sum : ℕ) (src dst : Ip) : Frame :=
  [2, 0, 0, 0, 0, 1] ++ [2, 0, 0, 0, 9, 9] ++ be16 ethertypeIp
    ++ patch (rawEchoHdr src dst) 10 (be16 sum) ++ [8, 0, 0xf7, 0xff, 0, 0, 0, 0]

/-- An echo request. -/
def echoFrame (src dst : Ip) : Frame := echoFrameWith (cksum (rawEchoHdr src dst)) src dst

section EchoFrame

variable (src dst : Ip)

lemma ethertype_echoFrame : ethertype (echoFrame src dst) = ethertypeIp := u16_be16 (by decide)

lemma ip32_echoFrame_dst : ip32 (echoFrame src dst) 30 = dst := rfl

lemma ipHdrLen_echoFrame : ipHdrLen (echoFrame src dst) = 20 := by
  have hbyte : u8 (slice (echoFrame src dst) 14 20) 0 = 0x45 := rfl
  rw [ipHdrLen, ipHl, hbyte]
  rfl

lemma validIp_echoFrame : ValidIp (echoFrame src dst) := by
  have hhdr := ipHdrLen_echoFrame src dst
  have hlen : (echoFrame src dst).length = 42 := rfl
  have hiplen : ipLen (slice (echoFrame src dst) 14 20) = 28 := u16_be16 (by decide)
  refine ⟨by omega, by omega, by omega, by omega, ?_⟩
  have hsum : ∀ sum, sum < 65536 → ipSum (slice (echoFrameWith sum src dst) 14 20) = sum :=
    fun sum hlt => u16_be16 hlt
  have hraw : ∀ sum, slice (patch (echoFrameWith sum src dst) 24 (be16 0)) 14 20
      = rawEchoHdr src dst := fun sum => rfl
  rw [hhdr, echoFrame, hsum _ (cksum_lt _), hraw]

lemma echoRequest_echoFrame : EchoRequest (echoFrame src dst) := by
  have hhdr := ipHdrLen_echoFrame src dst
  have hlen : (echoFrame src dst).length = 42 := rfl
  refine ⟨rfl, by omega, by rw [hhdr]; rfl, ?_⟩
  have hmsg : ∀ sum, slice (patch (echoFrameWith sum src dst) 36 (be16 0)) 34 8
      = [8, 0, 0, 0, 0, 0, 0, 0] := fun sum => rfl
  have hword : ∀ sum, u16 (echoFrameWith sum src dst) 36 = u16 [0xf7, 0xff] 0 := fun sum => rfl
  rw [hhdr, hlen, echoFrame, hword, hmsg]
  decide +kernel

end EchoFrame

/-- A request that has not been given up is handled without a recursive call, and keeps
its packets. -/
lemma handleArpreq_of_fresh {id : ReqId} {req : SrArpreq} (hf : s.findReq id = some req)
    (hn : req.timesSent < 5) (hw : WF s) :
    ∃ s' req', handleArpreq 1 s id = .ok s' ∧ WF s' ∧ SameEnv s s' ∧ s'.findReq id = some req' ∧
      req'.ip = req.ip ∧ req'.packets = req.packets ∧ req'.timesSent ≤ req.timesSent + 1 := by
  by_cases ht : s.now - req.sent < 1
  · refine ⟨s, req, ?_, hw, .refl s, hf, rfl, rfl, Nat.le_succ _⟩
    simp only [handleArpreq, hf, if_pos ht]
  · refine ⟨retryArp s req, bump s.now req, ?_, hw.retryArp req, .retry s req, ?_, rfl, rfl, le_rfl⟩
    · simp only [handleArpreq, hf, if_neg ht]
      rw [if_neg (by omega)]
    · rw [retryArp_findReq, id_of_findReq hf, if_pos rfl, hf]
      rfl

/-- A frame with a route waits for its next hop, in front of what waits for it already. -/
lemma routeAndSend_of_fresh {frame : Frame} {r : SrRt} {i : SrIf} {n : ℕ} (hw : WF s)
    (hlen : 34 ≤ frame.length) (hroute : lookupRoute s (ip32 frame 30) = some (r, i)) (hn : n < 5)
    (htimes : ∀ q ∈ s.requests, q.ip = nextHop r (ip32 frame 30) → q.timesSent ≤ n) :
    ∃ s', routeAndSend (handleArpreq 1) s frame = .ok (0, s') ∧ WF s' ∧ SameEnv s s' ∧
      queuedUnder s' (nextHop r (ip32 frame 30))
        = routedPacket s frame i :: queuedUnder s (nextHop r (ip32 frame 30)) ∧
      ∀ q ∈ s'.requests, q.ip = nextHop r (ip32 frame 30) → q.timesSent ≤ n + 1 := by
  rcases routeAndQueue_cases hw frame with
    ⟨hshort, -⟩ | ⟨-, hno, -⟩ | ⟨-, r', i', s₁, nid, hroute', heq, hqs⟩
  · omega
  · simp [hroute] at hno
  rw [hroute, Option.some.injEq, Prod.mk.injEq] at hroute'
  obtain ⟨rfl, rfl⟩ := hroute'
  -- what waited on the request before, if there was one
  obtain ⟨req, hf, hip, -, hold⟩ := hqs.findReq_self
  have hwait : queuedUnder s (nextHop r (ip32 frame 30)) = req.packets ∧ req.timesSent ≤ n := by
    rcases hold with hold | ⟨-, hnone, rfl⟩
    · have hmem : req ∈ s.requests := mem_of_findReq hold
      rw [← hip]
      exact ⟨queuedUnder_of_mem hw hmem, htimes req hmem hip⟩
    · exact ⟨queuedUnder_of_none hnone, Nat.zero_le n⟩
  obtain ⟨s', req', hcall, hw', henv, hf', hip', hpk', ht'⟩ :=
    handleArpreq_of_fresh hf (show (req.push _).timesSent < 5 from lt_of_le_of_lt hwait.2 hn)
      (hqs.wf ((hw.noteRead _ _ _).emit _))
  have hmem' := mem_of_findReq hf'
  have hhop' : req'.ip = nextHop r (ip32 frame 30) := hip'.trans hip
  refine ⟨s', ?_, hw', ?_, ?_, ?_⟩
  · rw [routeAndSend, heq]
    simp only [hcall, bind, Except.bind]
  · have hcore : SameEnv s ((s.noteRead frame 14 20).emit
        (.accepted (nextHop r (ip32 frame 30)) (routedPacket s frame i))) := .of_core rfl
    exact hcore.trans (hqs.sameEnv.trans henv)
  · rw [← hhop', queuedUnder_of_mem hw' hmem', hpk', hhop', hwait.1]
    rfl
  · intro q hq hqip
    rw [hw'.eq_of_ip_eq hq hmem' (hqip.trans hhop'.symm)]
    exact ht'.trans (Nat.add_le_add_right hwait.2 1)

/-- The reply to an echo request from the destination of a route waits on the interface of
the route. -/
lemma exists_step_of_route {r : SrRt} {i j : SrIf} {n : ℕ} (name : List UInt8) (hw : WF s)
    (hj : j ∈ s.ifList) (hr : rtExactMatch s.routingTable r.dest = some r)
    (hi : srGetInterface s.ifList r.interface = some i) (hn : n < 5)
    (htimes : ∀ q ∈ s.requests, q.ip = nextHop r r.dest → q.timesSent ≤ n) :
    ∃ s' p, Step s (.recv (echoFrame r.dest j.ip) name) s' ∧ WF s' ∧ SameEnv s s' ∧
      cstr 32 p.iface = cstr 32 r.interface ∧
      queuedUnder s' (nextHop r r.dest) = p :: queuedUnder s (nextHop r r.dest) ∧
      ∀ q ∈ s'.requests, q.ip = nextHop r r.dest → q.timesSent ≤ n + 1 := by
  have hv := validIp_echoFrame r.dest j.ip
  have hecho := echoRequest_echoFrame r.dest j.ip
  have hus : findIfaceForIp s.ifList (ip32 (echoFrame r.dest j.ip) 30) ≠ none := by
    rw [ip32_echoFrame_dst, findIfaceForIp, Ne, List.find?_eq_none]
    exact fun hno => hno j hj (by simp)
  obtain ⟨s₁, hq, hsend⟩ := srHandlepacket_of_echo name (ethertype_echoFrame _ _) hv hus hecho
  have hdst : ip32 (icmpEchoReply (echoFrame r.dest j.ip)) 30 = r.dest :=
    (icmpEchoReply_fields hv.hdrLen hecho.len).2.1
  have hlen : 34 ≤ (icmpEchoReply (echoFrame r.dest j.ip)).length := by
    rw [length_icmpEchoReply hv.hdrLen hecho.len]
    exact hv.len
  have hroute : lookupRoute s₁ (ip32 (icmpEchoReply (echoFrame r.dest j.ip)) 30) = some (r, i) := by
    rw [hdst, hq.sameEnv.lookupRoute]
    exact lookupRoute_eq_some_iff.2 ⟨hr, hi⟩
  have hreqs : s₁.requests = s.requests := requests_of_core hq.core
  obtain ⟨s', hret, hw', henv, hqueue, htimes'⟩ := routeAndSend_of_fresh (hq.wf hw) hlen hroute hn
    (by rw [hdst, hreqs]; exact htimes)
  rw [hdst] at hqueue htimes'
  refine ⟨s', routedPacket s₁ (icmpEchoReply (echoFrame r.dest j.ip)) i, ⟨1, ?_⟩, hw',
    hq.sameEnv.trans henv, ?_, ?_, htimes'⟩
  · rw [step, hsend 1, hret]
    rfl
  · rw [routedPacket, cstr_strncpy, cstr_name_of_srGetInterface hi]
  · rw [hqueue, queuedUnder, queuedUnder, hreqs]

/-- In every run from an empty queue the packets of a request have one interface, if and
only if the routes with one next hop have. -/
theorem one_interface_iff (hv : srVerifyRoutingTable ifs rts = 0) (now : ℕ)
    (junk : ℕ → ℕ → UInt8) :
    (∀ es s, Run Step (Router.init ifs rts now junk) es s → OneInterface s) ↔ HopsAgree rts := by
  refine ⟨fun h => ?_, fun hagree es s hrun => oneInterface_of_run hagree hrun⟩
  intro r hmem r' hmem' hr hr' hhop
  obtain ⟨i, hi⟩ := Option.isSome_iff_exists.1 (isSome_of_srVerifyRoutingTable hv hmem)
  obtain ⟨i', hi'⟩ := Option.isSome_iff_exists.1 (isSome_of_srVerifyRoutingTable hv hmem')
  have hj : i ∈ ifs := List.mem_of_find?_eq_some hi
  -- the replies to two echo requests wait on the same request
  obtain ⟨s₁, p, hst₁, hw₁, henv₁, hp, hqueue₁, htimes₁⟩ := exists_step_of_route
    (s := Router.init ifs rts now junk) (n := 0) [] (wf_init ..) hj hr hi (by omega)
    (by simp [Router.init])
  rw [hhop] at hqueue₁ htimes₁
  obtain ⟨s₂, p', hst₂, hw₂, -, hp', hqueue₂, -⟩ := exists_step_of_route (s := s₁) (n := 1) []
    hw₁ (by rw [henv₁.ifList]; exact hj) (by rw [henv₁.routingTable]; exact hr')
    (by rw [henv₁.ifList]; exact hi') (by omega) htimes₁
  have hone := h _ _ (.cons hst₁ (.single hst₂))
  rw [hqueue₁] at hqueue₂
  obtain ⟨req, hreq, hip⟩ : ∃ req ∈ s₂.requests, req.ip = nextHop r' r'.dest := by
    by_contra hnone
    push Not at hnone
    rw [queuedUnder_of_none hnone] at hqueue₂
    simp at hqueue₂
  rw [← hip, queuedUnder_of_mem hw₂ hreq] at hqueue₂
  rw [← hp, ← hp']
  exact hone.packets req hreq p (by simp [hqueue₂]) p' (by simp [hqueue₂])

/-- In the sample network every route has a next hop of its own. -/
theorem one_interface_iff_sample :
    HopsAgree sampleRoutes ∧ ∀ es s, Run Step sampleRouter es s → OneInterface s := by
  have hagree : HopsAgree sampleRoutes := by
    decide +kernel
  exact ⟨hagree, (one_interface_iff srVerifyRoutingTable_sample 1 fun _ _ => 0).2 hagree⟩

/-- Two hosts behind the same gateway, which is reached through different interfaces. -/
def splitRoutes : List SrRt :=
  [⟨sampleIp 0 2, sampleIp 9 9, ⟨255, 255, 255, 255⟩, sampleName 0⟩,
    ⟨sampleIp 1 2, sampleIp 9 9, ⟨255, 255, 255, 255⟩, sampleName 1⟩]

/-- The table is accepted, and a frame for either host waits on the same request, each on
an interface of its own. -/
theorem request_mixes_interfaces :
    srVerifyRoutingTable sampleIfs splitRoutes = 0 ∧
    ∃ es s, Run Step (Router.init sampleIfs splitRoutes 1 fun _ _ => 0) es s ∧
      ¬ OneInterface s := by
  refine ⟨by decide +kernel, ?_⟩
  obtain ⟨s, hrun, hmixed⟩ := exists_run_of_leadsTo step_of_ok
    (show leadsTo (step 5) (Router.init sampleIfs splitRoutes 1 fun _ _ => 0)
      [.recv (sampleFrame (sampleIp 1 2) (sampleIp 0 2) 64 8) (sampleName 1),
        .recv (sampleFrame (sampleIp 0 2) (sampleIp 1 2) 64 8) (sampleName 0)]
      (fun s => ∃ r ∈ s.requests, ∃ p ∈ r.packets, ∃ q ∈ r.packets,
        cstr 32 p.iface ≠ cstr 32 q.iface) by decide +kernel)
  obtain ⟨r, hr, p, hp, q, hq, hne⟩ := of_decide_eq_true hmixed
  exact ⟨_, s, hrun, fun hone => hne (hone.packets r hr p hp q hq)⟩

end SimpleRouter
