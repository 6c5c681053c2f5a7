/-
The representation invariant of the ARP queue.

`ReqOk` is the invariant of a request, and holds throughout.  That a request has
been broadcast at least once is true between events only: a fresh request waits
to be handled, and is the one that is `due`.
-/
import SimpleRouter.Changes

namespace SimpleRouter

open Bytes CString Runs

variable {s s' : Router} {c c' : Config} {id a : ReqId} {req r r' : SrArpreq} {pkt : SrPacket}
  {e : Event}

/-! ### The invariant of a request -/

/-- A packet that waits for the hardware address of `ip`. -/
structure PacketOk (s : Router) (ip : Ip) (p : SrPacket) : Prop where
  len : 34 ≤ p.buf.length
  type : ethertype p.buf = ethertypeIp
  /-- The first exact match for its destination has `ip` as next hop and the
  packet's interface as output, and the packet bears its hardware address. -/
  route : ∃ rt i, rtExactMatch s.routingTable (ip32 p.buf 30) = some rt ∧
    nextHop rt (ip32 p.buf 30) = ip ∧ srGetInterface s.ifList rt.interface = some i ∧
    srGetInterface s.ifList p.iface = some i ∧ etherShost p.buf = i.addr

/-- A pending request. -/
structure ReqOk (s : Router) (r : SrArpreq) : Prop where
  packets_ne : r.packets ≠ []
  timesSent_le : r.timesSent ≤ 5
  sent_le : r.sent ≤ s.now
  sent_eq : r.timesSent = 0 → r.sent = 0
  packets : ∀ p ∈ r.packets, PacketOk s r.ip p

lemma PacketOk.later {ip : Ip} (h : PacketOk s ip pkt) (hl : Later s s') : PacketOk s' ip pkt := by
  obtain ⟨hlen, htype, hroute⟩ := h
  refine ⟨hlen, htype, ?_⟩
  rw [hl.ifList, hl.routingTable]
  exact hroute

lemma ReqOk.later (h : ReqOk s r) (hl : Later s s') : ReqOk s' r :=
  ⟨h.packets_ne, h.timesSent_le, h.sent_le.trans hl.now, h.sent_eq,
    fun p hp => (h.packets p hp).later hl⟩

section RoutedPacket

variable {frame : Frame} {i : SrIf} (hlen : 34 ≤ frame.length)

include hlen

lemma length_patch_shost : (patch frame 6 i.addr.bytes).length = frame.length :=
  length_patch (by simp; omega)

lemma ethertype_routedPacket : ethertype (routedPacket s frame i).buf = ethertypeIp :=
  u16_patch_self (by decide) (by rw [length_patch_shost hlen]; omega)

lemma etherShost_routedPacket : etherShost (routedPacket s frame i).buf = i.addr := by
  rw [routedPacket, etherShost,
    mac48_patch_of_disjoint (by rw [length_patch_shost hlen]; simp; omega) (by simp),
    mac48_patch_self _ (by omega)]

/-- From byte 14 on, the packet is the frame. -/
lemma ip32_routedPacket {k : ℕ} (hk : 14 ≤ k) :
    ip32 (routedPacket s frame i).buf k = ip32 frame k := by
  rw [routedPacket, ip32_patch_of_disjoint (by rw [length_patch_shost hlen]; simp; omega)
      (by simp; omega), ip32_patch_of_disjoint (by simp; omega) (by simp; omega)]

end RoutedPacket

lemma packetOk_routedPacket {frame : Frame} {rt : SrRt} {i : SrIf} (hlen : 34 ≤ frame.length)
    (hroute : lookupRoute s (ip32 frame 30) = some (rt, i)) :
    PacketOk s (nextHop rt (ip32 frame 30)) (routedPacket s frame i) := by
  obtain ⟨hrt, hi⟩ := lookupRoute_eq_some_iff.1 hroute
  refine ⟨by rw [length_routedPacket hlen]; exact hlen, ethertype_routedPacket hlen, rt, i, ?_⟩
  rw [ip32_routedPacket hlen (by omega)]
  refine ⟨hrt, rfl, hi, ?_, etherShost_routedPacket hlen⟩
  rw [routedPacket, srGetInterface_strncpy]
  exact srGetInterface_name hi

/-- Every pending request is in order. -/
def QueueOk (s : Router) : Prop := ∀ a r, s.findReq a = some r → ReqOk s r

theorem Move.queueOk (h : Move e c c') (hc : QueueOk c.router) : QueueOk c'.router := by
  intro a r' hf'
  have hl := h.later
  cases h.reqChange hf' with
  | same hf => exact (hc a r' hf).later hl
  | @pushed frame rt i req hlen hroute hip hreq hr' hdue hacc =>
      have hnew : PacketOk c.router req.ip (routedPacket c.router frame i) :=
        hip ▸ packetOk_routedPacket hlen hroute
      have hold : req.timesSent ≤ 5 ∧ req.sent ≤ c.router.now ∧ (req.timesSent = 0 → req.sent = 0) ∧
          ∀ p ∈ req.packets, PacketOk c.router req.ip p := by
        rcases hreq with hf | ⟨-, rfl⟩
        · have hok := hc a req hf
          exact ⟨hok.timesSent_le, hok.sent_le, hok.sent_eq, hok.packets⟩
        · simp
      obtain ⟨h₁, h₂, h₃, h₄⟩ := hold
      subst hr'
      refine ReqOk.later ⟨List.cons_ne_nil _ _, h₁, h₂, h₃, ?_⟩ hl
      intro p hp
      rcases List.mem_cons.1 hp with rfl | hp
      · exact hnew
      · exact h₄ p hp
  | bumped hf ht hn hr' =>
      have hok := hc a _ hf
      subst hr'
      exact ReqOk.later ⟨hok.packets_ne, hn, le_rfl, fun h => absurd h (Nat.succ_ne_zero _),
        hok.packets⟩ hl

/-- Once the clock has left 0, a request that is not due has been broadcast. -/
def Tried (c : Config) : Prop :=
  1 ≤ c.router.now ∧ ∀ a r, c.router.findReq a = some r → c.due = some a ∨ 1 ≤ r.timesSent

theorem Move.tried (h : Move e c c') (hok : QueueOk c.router) (hc : Tried c) : Tried c' := by
  refine ⟨hc.1.trans h.later.now, ?_⟩
  intro a r' hf'
  cases h.reqChange hf' with
  | pushed hlen hroute hip hreq hr' hdue hacc => exact Or.inl hdue
  | bumped hf ht hn hr' =>
      subst hr'
      exact Or.inr (Nat.succ_pos _)
  | same hf =>
      rcases hc.2 a r' hf with hdue | htimes
      · -- only the moves that handle the due request make it no longer due
        cases h with
        | quiet hq => exact Or.inl hdue
        | idle hidle ht =>
            obtain rfl : _ = a := Option.some_injective _ hdue
            obtain rfl : _ = r' := Option.some_injective _ (hidle.symm.trans hf)
            refine Or.inr (Nat.one_le_iff_ne_zero.2 fun hzero => ?_)
            have hnow := hc.1
            have hsent := (hok _ _ hf).sent_eq hzero
            simp only at hnow
            omega
        | @retry S s id req hretry ht hn hid =>
            obtain rfl : id = a := Option.some_injective _ hdue
            obtain rfl : req = r' := Option.some_injective _ (hretry.symm.trans hf)
            have hf' : (retryArp s req).findReq id = some req := hf'
            rw [retryArp_findReq, id_of_findReq hf, if_pos rfl, hf, Option.map_some,
              Option.some.injEq] at hf'
            exact absurd (congrArg SrArpreq.timesSent hf') (Nat.succ_ne_self _)
        | start hstart hx hid =>
            obtain rfl : _ = a := Option.some_injective _ hdue
            obtain rfl : _ = r' := Option.some_injective _ (hstart.symm.trans hf)
            exact Or.inr (le_trans (by omega) hx.2)
        | _ => exact absurd hdue (by simp [Config.rest])
      · exact Or.inr htimes

/-! ### Runs -/

variable {ifs : List SrIf} {rt : List SrRt} {now : ℕ} {junk : ℕ → ℕ → UInt8} {es : List Event}

lemma wf_of_run (h : Run Step (Router.init ifs rt now junk) es s) : WF s :=
  (run_invariant (I := fun _ => True) h (wf_init ..) (fun _ _ _ _ _ _ => trivial) trivial).1

/-- In every reachable state every pending request is in order. -/
theorem queueOk_of_run (h : Run Step (Router.init ifs rt now junk) es s) : QueueOk s :=
  (run_invariant (I := fun c => QueueOk c.router) h (wf_init ..)
    (fun _ _ _ _ hm hc => hm.queueOk hc) (by simp [QueueOk, Config.rest, Router.init, Router.findReq])).2

/-- The representation invariant: addresses are distinct, every request has a
packet and has been broadcast one to five times, and every packet is one that
`route_and_send` would queue on this very request. -/
theorem queue_representation (hnow : 1 ≤ now)
    (h : Run Step (Router.init ifs rt now junk) es s) :
    (s.requests.map (·.ip)).Nodup ∧ ∀ r ∈ s.requests, r.packets ≠ [] ∧ 1 ≤ r.timesSent ∧
      r.timesSent ≤ 5 ∧ r.sent ≤ s.now ∧ ∀ p ∈ r.packets, PacketOk s r.ip p := by
  obtain ⟨hw, hok, -, htried⟩ := run_invariant (I := fun c => QueueOk c.router ∧ Tried c) h
    (wf_init ..) (fun _ _ _ _ hm hc => ⟨hm.queueOk hc.1, hm.tried hc.1 hc.2⟩)
    ⟨by simp [QueueOk, Config.rest, Router.init, Router.findReq], hnow,
      by simp [Config.rest, Router.init, Router.findReq]⟩
  refine ⟨hw.ips_nodup, ?_⟩
  intro r hr
  have hf := hw.findReq_of_mem hr
  have hr := hok _ r hf
  have htimes : 1 ≤ r.timesSent := (htried _ r hf).resolve_left (by simp [Config.rest])
  exact ⟨hr.packets_ne, htimes, hr.timesSent_le, hr.sent_le, hr.packets⟩

/-- Two frames for one host, a third for another, and two sweeps. -/
theorem queue_representation_sample :
    ∃ s es, Run Step sampleRouter es s ∧ s.requests.length = 2 ∧
      ∀ r ∈ s.requests, r.packets ≠ [] ∧ 1 ≤ r.timesSent ∧
        r.timesSent ≤ 5 ∧ r.sent ≤ s.now ∧ ∀ p ∈ r.packets, PacketOk s r.ip p := by
  obtain ⟨s, hrun, hlen⟩ := exists_run_of_leadsTo step_of_ok
    (show leadsTo (step 5) sampleRouter
      [.recv (sampleFrame (sampleIp 0 2) (sampleIp 1 2) 64 20) (sampleName 0), .sweep, .tick 1,
        .recv (sampleFrame (sampleIp 0 3) (sampleIp 1 2) 64 8) (sampleName 0), .sweep,
        .recv (sampleFrame (sampleIp 0 3) (sampleIp 1 3) 64 8) (sampleName 0)]
      (fun s => s.requests.length = 2) by decide +kernel)
  exact ⟨s, _, hrun, of_decide_eq_true hlen, (queue_representation (by decide) hrun).2⟩

end SimpleRouter
