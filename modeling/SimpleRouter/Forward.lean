/-
Forwarding preserves the datagram.

A transit frame is rewritten three times: its TTL and checksum when it arrives,
its source address and EtherType when it is queued, and both hardware addresses
when the ARP reply comes.  `ForwardedAs` says how the frame that is sent compares
with the frame that came in.  In between it waits among other traffic; by the
account of `SimpleRouter.Accounting` it is still there when the reply comes,
unless it was given up.
-/
import SimpleRouter.Accounting
import SimpleRouter.Gate

namespace SimpleRouter

open Bytes CString Runs OnesComplement

variable {s s' s₁ s₂ s₃ : Router} {f : Frame} {e : Event} {m : Mac} {i : SrIf} {rt : SrRt}

/-! ### Bytes -/

/-- `g` is `f`, sent from the interface `i` to the hardware address `m`. -/
structure ForwardedAs (f : Frame) (m : Mac) (i : SrIf) (g : Frame) : Prop where
  length : g.length = f.length
  dhost : etherDhost g = m
  shost : etherShost g = i.addr
  ttl : u8 g 22 = u8 f 22 - 1
  sum : onesSum (slice g 14 (ipHdrLen f)) = 0xffff
  /-- Everything else is as it came: the EtherType, the other header fields,
  options, payload and trailing bytes. -/
  rest : ∀ k, 12 ≤ k → k ≠ 22 → k ≠ 24 → k ≠ 25 → g[k]? = f[k]?

section Transit

variable (h : ValidIp f)

include h

/-- The frame with its TTL decremented and the checksum field zeroed. -/
lemma transitFrame_eq :
    ∃ z : Frame, z.length = f.length ∧ u8 z 22 = u8 f 22 - 1 ∧ u16 z 24 = 0 ∧
      (∀ k, k ≠ 22 → k ≠ 24 → k ≠ 25 → z[k]? = f[k]?) ∧
      transitFrame f = patch z 24 (be16 (cksum (slice z 14 (ipHdrLen f)))) := by
  have hl := h.len
  obtain ⟨h₁, h₂⟩ := length_transit_writes h
  refine ⟨patch (patch f 22 [ipTtl (slice f 14 20) - 1]) 24 (be16 0), h₂, ?_, ?_, ?_, rfl⟩
  · rw [u8_patch_of_lt (by rw [h₁]; simp; omega) (by omega),
      u8_patch_of_mem (by simp; omega) le_rfl (by simp), u8_slice_ttl]
    rfl
  · exact u16_patch_self (by omega) (by omega)
  · intro k hk₁ hk₂ hk₃
    rw [getElem?_patch_of_disjoint (by rw [h₁]; simp; omega) (by simp; omega),
      getElem?_patch_of_disjoint (by simp; omega) (by simp; omega)]

/-- The header of the forwarded frame has a valid checksum. -/
lemma onesSum_transitFrame : onesSum (slice (transitFrame f) 14 (ipHdrLen f)) = 0xffff := by
  obtain ⟨z, hlen, -, hzero, -, heq⟩ := transitFrame_eq h
  have hhdr := h.hdr
  have hmin := h.hdrLen
  have hslice : (slice z 14 (ipHdrLen f)).length = ipHdrLen f := length_slice (by omega)
  have hz : u16 (slice z 14 (ipHdrLen f)) 10 = 0 := by
    rw [u16_slice (by omega), hzero]
  have hmax : wordSum (slice z 14 (ipHdrLen f)) < 0x100000000 := by
    refine wordSum_lt_of_length_le ?_
    have := ipHdrLen_le f
    omega
  rw [heq, slice_patch_inside (by omega) (by omega) (by simp; omega), cksum_eq_negate hmax]
  exact onesSum_patch_negate (by omega) (by omega) hz

lemma u8_transitFrame_ttl : u8 (transitFrame f) 22 = u8 f 22 - 1 := by
  obtain ⟨z, hlen, httl, -, -, heq⟩ := transitFrame_eq h
  have hl := h.len
  rw [heq, u8_patch_of_lt (by simp; omega) (by omega), httl]

lemma getElem?_transitFrame {k : ℕ} (h₁ : k ≠ 22) (h₂ : k ≠ 24) (h₃ : k ≠ 25) :
    (transitFrame f)[k]? = f[k]? := by
  obtain ⟨z, hlen, -, -, hrest, heq⟩ := transitFrame_eq h
  have hl := h.len
  rw [heq, getElem?_patch_of_disjoint (by simp; omega) (by simp; omega), hrest k h₁ h₂ h₃]

/-- Queueing a transit frame only writes its source address. -/
lemma routedPacket_transitFrame (htype : ethertype f = ethertypeIp) :
    (routedPacket s (transitFrame f) i).buf = patch (transitFrame f) 6 i.addr.bytes := by
  have hlen := length_transitFrame h
  have hl := h.len
  have hsrc : (patch (transitFrame f) 6 i.addr.bytes).length = f.length := by
    rw [length_patch (by rw [hlen]; simp; omega), hlen]
  have hword : u16 (patch (transitFrame f) 6 i.addr.bytes) 12 = ethertypeIp := by
    rw [u16_patch_of_disjoint (by rw [hlen]; simp; omega) (by simp), ← htype, ethertype, u16, u16,
      u8_eq_of_getElem?_eq (getElem?_transitFrame h (by omega) (by omega) (by omega)),
      u8_eq_of_getElem?_eq (getElem?_transitFrame h (by omega) (by omega) (by omega))]
  change patch (patch (transitFrame f) 6 i.addr.bytes) 12 (be16 ethertypeIp) = _
  rw [← hword, be16_u16 (by rw [hsrc]; omega), patch_slice (by rw [hsrc]; omega)]

/-- What the drain sends for a transit frame. -/
theorem forwardedAs_drainFrame {ifs : List SrIf} (htype : ethertype f = ethertypeIp)
    (hi : srGetInterface ifs (routedPacket s (transitFrame f) i).iface = some i) (m : Mac) :
    ForwardedAs f m i (drainFrame ifs m (routedPacket s (transitFrame f) i)) := by
  have hl := h.len
  have hlen := length_transitFrame h
  have h₁ : 6 + i.addr.bytes.length ≤ (transitFrame f).length := by
    rw [hlen]
    simp
    omega
  have hsrc : (patch (transitFrame f) 6 i.addr.bytes).length = f.length := by
    rw [length_patch h₁, hlen]
  have h₀ : 0 + m.bytes.length ≤ (patch (transitFrame f) 6 i.addr.bytes).length := by
    rw [hsrc]
    simp
    omega
  have heq : drainFrame ifs m (routedPacket s (transitFrame f) i) =
      patch (patch (transitFrame f) 6 i.addr.bytes) 0 m.bytes := by
    rw [drainFrame, hi, routedPacket_transitFrame h htype]
    simp only
    rw [patch_patch_self h₁ rfl]
  rw [heq]
  refine ⟨?_, ?_, ?_, ?_, ?_, ?_⟩
  · rw [length_patch h₀, hsrc]
  · exact mac48_patch_self m (by omega)
  · rw [etherShost, mac48_patch_of_disjoint h₀ (by simp), mac48_patch_self _ (by omega)]
  · rw [u8_patch_of_disjoint h₀ (by simp), u8_patch_of_disjoint h₁ (by simp),
      u8_transitFrame_ttl h]
  · rw [slice_patch_of_disjoint h₀ (by simp), slice_patch_of_disjoint h₁ (by simp),
      onesSum_transitFrame h]
  · intro k hk h₂₂ h₂₄ h₂₅
    rw [getElem?_patch_of_disjoint h₀ (by simp; omega), getElem?_patch_of_disjoint h₁ (by simp; omega),
      getElem?_transitFrame h h₂₂ h₂₄ h₂₅]

end Transit

/-! ### Arrival, waiting and reply -/

/-- A frame that has a route is accepted under its next hop. -/
lemma accepted_of_routeAndSend {fuel : ℕ} {frame : Frame} {rc : ℤ} (hw : WF s)
    (hlen : 34 ≤ frame.length) (hroute : lookupRoute s (ip32 frame 30) = some (rt, i))
    (h : routeAndSend (handleArpreq fuel) s frame = .ok (rc, s')) :
    (s.now, Obs.accepted (nextHop rt (ip32 frame 30)) (routedPacket s frame i)) ∈ s'.trace := by
  rcases routeAndSend_cases hw h with
    ⟨hshort, -⟩ | ⟨-, hno, -⟩ | ⟨-, rt', i', s₁, nid, hroute', hqs, hcall⟩
  · omega
  · rw [hroute] at hno
    simp at hno
  · rw [hroute, Option.some.injEq, Prod.mk.injEq] at hroute'
    obtain ⟨rfl, rfl⟩ := hroute'
    have hwe := (hw.noteRead frame 14 20).emit
      (.accepted (nextHop rt (ip32 frame 30)) (routedPacket s frame i))
    -- the call of `handle_arpreq` only adds to the trace
    have hmoves := (tidy_of_handleArpreq (hqs.wf hwe) hcall).moves (S := []) (e := .sweep) rfl
    obtain ⟨new, htrace, -⟩ := Moves.emitted hmoves (I := fun _ => True)
      (fun _ _ _ _ _ => trivial) (hqs.wf hwe) trivial
    change s'.trace = s₁.trace ++ new at htrace
    rw [htrace, hqs.trace]
    simp

/-- A transit frame with a route is accepted under its next hop. -/
lemma accepted_of_recv {iface : List UInt8} (hw : WF s) (htype : ethertype f = ethertypeIp)
    (ht : Transit s f) (httl : 1 < u8 f 22) (hroute : lookupRoute s (ip32 f 30) = some (rt, i))
    (h : Step s (.recv f iface) s') :
    (s.now, Obs.accepted (nextHop rt (ip32 f 30)) (routedPacket s (transitFrame f) i))
      ∈ s'.trace := by
  have hl := ht.valid.len
  obtain ⟨fuel, hout⟩ := h.outcome hw
  cases hout with
  | ignored hq hno =>
      rcases hno with hno | ⟨-, hno⟩
      · omega
      · exact absurd htype hno
  | arp harp hq hout => exact absurd harp (ethertype_ne_arp htype)
  | ip _ hout =>
      cases hout with
      | dropped hq hno => exact absurd ht hno
      | echoed hq hv hus hecho hsend => exact absurd ht.notForUs hus
      | expired hq _ hle herr => exact absurd hle (UInt8.not_le.2 httl)
      | unroutable hq _ _ hno herr =>
          rw [hroute] at hno
          exact absurd hno (by simp)
      | @forwarded s₁ _ hq _ _ hsend =>
          have hroute₁ : lookupRoute s₁ (ip32 (transitFrame f) 30) = some (rt, i) := by
            rw [ip32_transitFrame_dst ht.valid, hq.sameEnv.lookupRoute, hroute]
          have hlen : 34 ≤ (transitFrame f).length := by
            rw [length_transitFrame ht.valid]
            exact hl
          have hacc := accepted_of_routeAndSend (hq.wf hw) hlen hroute₁ hsend
          rw [ip32_transitFrame_dst ht.valid, routedPacket, hq.sameEnv.now,
            nextFid_of_core hq.core] at hacc
          exact hacc

/-- Only an ARP reply from its next hop sends a frame off. -/
lemma tally_drains_of_no_reply {t : ℕ} {hop : Ip} {p : SrPacket} (hw : WF s) (h : Step s e s')
    (hc : Numbered (.rest s')) (hacc : (t, Obs.accepted hop p) ∈ s'.trace)
    (hno : ∀ mac, ¬ e.Replies s hop mac) :
    tally (Obs.drains p.fid) s'.trace = tally (Obs.drains p.fid) s.trace := by
  obtain ⟨new, htrace, hnew⟩ := h.emitted hw
  have hzero : tally (Obs.drains p.fid) new = 0 := by
    by_contra hpos
    obtain ⟨o, ho, hdrain⟩ := exists_of_tally_pos (Nat.pos_of_ne_zero hpos)
    obtain ⟨sip, iface, frame, v, hobs⟩ := eq_sent_of_drains hdrain
    obtain ⟨d, hifs, hem⟩ := hnew o ho
    rw [hobs] at hem
    obtain ⟨mac, hr⟩ := hem.replies_of_drain
    have hmem : (o.1, Obs.sent (.drain p.fid sip) iface frame v) ∈ s'.trace := by
      rw [htrace, ← hobs]
      exact List.mem_append_right _ ho
    rcases hc.sent _ _ _ _ _ hmem with ⟨hno', -⟩ | ⟨sip', p', mac', horigin, -, -, t', hacc'⟩
    · exact hno' p.fid sip rfl
    · rw [Origin.drain.injEq] at horigin
      obtain ⟨rfl, -⟩ := hc.accepted_unique hacc hacc' horigin.1.symm
      rw [horigin.2] at hr
      exact hno mac (hr.congr hifs.symm)
  rw [htrace, tally_append, hzero, Nat.add_zero]

/-- An ARP reply sends off the packets of the request that waits for it. -/
theorem drained_of_reply {req : SrArpreq} {hop : Ip} (hw : WF s) (h : Step s e s')
    (hr : e.Replies s hop m) (hreq : req ∈ s.requests) (hip : req.ip = hop) :
    s'.trace = s.trace ++
      (req.packets.filter fun p => 14 ≤ p.buf.length).map (drainObs s m hop) := by
  cases e with
  | sweep => exact absurd hr (by simp [Event.Replies])
  | tick d => exact absurd hr (by simp [Event.Replies])
  | recv packet interface =>
      obtain ⟨htype, hreply, rfl, rfl⟩ := hr
      have hlen := hreply.len
      obtain ⟨fuel, hout⟩ := h.outcome hw
      cases hout with
      | ignored hq hno =>
          rcases hno with hno | ⟨hno, -⟩
          · omega
          · exact absurd htype hno
      | ip hip' hout =>
          rw [htype] at hip'
          exact absurd hip' (by decide)
      | @arp s₁ _ _ hq hout =>
          have hreply₁ : ArpReply s₁ packet interface :=
            ⟨hreply.len, hreply.hrd, hreply.pro, hreply.op,
              by rw [hq.sameEnv.ifList]; exact hreply.iface⟩
          have hreq₁ : req ∈ s₁.requests := by
            rw [requests_of_core hq.core]
            exact hreq
          cases hout with
          | ignored _ hno => exact absurd hreply₁ hno
          | answered _ hno _ => exact absurd hreply₁ hno
          | learned _ _ hnone => exact absurd hip (hnone req hreq₁)
          | @drained _ _ req' _ _ hf hip' hcore htrace hreads =>
              obtain rfl : req' = req := (hq.wf hw).eq_of_ip_eq (mem_of_findReq hf) hreq₁
                (hip'.trans hip.symm)
              have hobs : drainObs s₁ = drainObs s := by
                funext mac ip p
                rw [drainObs, drainObs, hq.sameEnv.now, hq.sameEnv.ifList]
              rw [htrace, hq.trace, hobs]

/-! ### Runs -/

variable {ifs : List SrIf} {rts : List SrRt} {now : ℕ} {junk : ℕ → ℕ → UInt8}
  {es₀ es : List Event} {iface : List UInt8}

lemma run_ifList (h : Run Step s es s') (hw : WF s) : s'.ifList = s.ifList := by
  refine (h.invariant (I := fun t => WF t ∧ t.ifList = s.ifList) ?_ ⟨hw, rfl⟩).2
  rintro t e u - ⟨hwt, hifs⟩ hst
  obtain ⟨hwu, hu⟩ := hst.later hwt
  exact ⟨hwu, hu.ifList.trans hifs⟩

/-- While no reply from its next hop comes, the frame is not sent. -/
lemma drains_of_run {t : ℕ} {hop : Ip} {p : SrPacket} (h : Run Step s es s')
    (h₀ : Run Step (Router.init ifs rts now junk) es₀ s)
    (hacc : (t, Obs.accepted hop p) ∈ s.trace)
    (hno : ∀ e ∈ es, ∀ mac, ¬ e.Replies s hop mac) :
    tally (Obs.drains p.fid) s'.trace = tally (Obs.drains p.fid) s.trace := by
  induction h generalizing es₀ with
  | nil s => rfl
  | @cons s u s' e es hst hrest ih =>
      have hw := wf_of_run h₀
      have hrun := h₀.append (.single hst)
      obtain ⟨new, htrace, -⟩ := hst.emitted hw
      have hacc' : (t, Obs.accepted hop p) ∈ u.trace := by
        rw [htrace]
        exact List.mem_append_left _ hacc
      have hifs := run_ifList (.single hst) hw
      rw [ih hrun hacc' fun e' he' mac hr => hno e' (List.mem_cons_of_mem _ he') mac (hr.congr hifs.symm)]
      exact tally_drains_of_no_reply hw hst (account_of_run hrun).numbered hacc'
        (hno e (by simp))

lemma eq_icmpError_of_givesUp {fid : FrameId} {o : Obs} (h : o.givesUp fid) :
    ∃ id, o = .icmpError 3 1 (.giveUp id fid) := by
  unfold Obs.givesUp at h
  split at h
  · rename_i id fid'
    obtain rfl : fid' = fid := by simpa using h
    exact ⟨id, rfl⟩
  · simp at h

/-- A frame that was accepted and neither sent nor given up waits. -/
lemma waits_of_run {t : ℕ} {hop : Ip} {p : SrPacket}
    (h : Run Step (Router.init ifs rts now junk) es s) (hacc : (t, Obs.accepted hop p) ∈ s.trace)
    (hsent : tally (Obs.drains p.fid) s.trace = 0)
    (hkept : ∀ t id, (t, Obs.icmpError 3 1 (.giveUp id p.fid)) ∉ s.trace) : Waits s hop p := by
  have hgave : tally (Obs.givesUp p.fid) s.trace = 0 := by
    by_contra hpos
    obtain ⟨⟨t', o⟩, ho, hgives⟩ := exists_of_tally_pos (Nat.pos_of_ne_zero hpos)
    obtain ⟨id, rfl⟩ := eq_icmpError_of_givesUp hgives
    exact hkept t' id ho
  rcases (frame_accounting_cases (account_of_run h) hacc) with hq | hs | hg
  · exact waits_of_queued (wf_of_run h) (account_of_run h) hacc hq.1 hsent hgave
  · omega
  · omega

/-- The frame sent for a packet that waits, when the reply comes. -/
lemma sent_of_reply {hop : Ip} {p : SrPacket} (h : Run Step (Router.init ifs rts now junk) es s)
    (hwait : Waits s hop p) (hst : Step s e s') (hr : e.Replies s hop m) :
    ∃ new, s'.trace = s.trace ++ new ∧ tally (Obs.drains p.fid) new = 1 ∧
      ∀ t sip name g v, (t, Obs.sent (.drain p.fid sip) name g v) ∈ new →
        name = p.iface ∧ v = .passed ∧ g = drainFrame s.ifList m p := by
  have hw := wf_of_run h
  have hc := account_of_run h
  obtain ⟨req, hreq, hip, -, hp, hcopies⟩ := hwait.request
  have hf := hw.findReq_of_mem hreq
  have hok := queueOk_of_run h _ req hf
  have hall : (req.packets.filter fun p => 14 ≤ p.buf.length) = req.packets := by
    rw [List.filter_eq_self]
    intro q hq
    have := (hok.packets q hq).len
    simp
    omega
  have htrace := drained_of_reply hw hst hr hreq hip
  rw [hall] at htrace
  refine ⟨_, htrace, ?_, ?_⟩
  · rw [tally_drainObs, hcopies]
  · intro t sip name g v hmem
    obtain ⟨q, hq, hobs⟩ := List.mem_map.1 hmem
    rw [drainObs, Prod.mk.injEq, Obs.sent.injEq, Origin.drain.injEq] at hobs
    obtain ⟨-, ⟨hfid, -⟩, rfl, rfl, rfl⟩ := hobs
    -- the number is given once, so that the packet is the one that waited
    obtain ⟨t₁, hacc₁⟩ := hc.numbered.queued _ req hf p hp
    obtain ⟨t₂, hacc₂⟩ := hc.numbered.queued _ req hf q hq
    obtain ⟨-, rfl⟩ := hc.numbered.accepted_unique hacc₁ hacc₂ hfid
    obtain ⟨rt, i, -, -, -, hi, -⟩ := (hok.packets q hq).route
    have hpass := passes_drainObs (s := s) m hop ⟨(hok.packets q hq).len, by rw [hi]; rfl⟩
    exact ⟨rfl, (hpass _ _ _ _ rfl).2.2, rfl⟩

/-- Forwarding preserves the datagram end to end.  A transit frame `f` that can
live another hop and has a route is not sent before an ARP reply from its next
hop comes, and is then sent once, out of the interface of the route, as `f` with
the addresses, the TTL and the checksum changed; unless it is given up before,
on arrival or later. -/
theorem forwarding_preserves_datagram (h₀ : Run Step (Router.init ifs rts now junk) es₀ s)
    (htype : ethertype f = ethertypeIp) (ht : Transit s f) (httl : 1 < u8 f 22)
    (hroute : lookupRoute s (ip32 f 30) = some (rt, i)) (hst : Step s (.recv f iface) s₁)
    (hrun : Run Step s₁ es s₂)
    (hother : ∀ e ∈ es, ∀ mac, ¬ e.Replies s (nextHop rt (ip32 f 30)) mac)
    (hkept : ∀ t id, (t, Obs.icmpError 3 1 (.giveUp id s.nextFid)) ∉ s₂.trace) :
    tally (Obs.drains s.nextFid) s₂.trace = 0 ∧
      ∀ e mac s₃, Step s₂ e s₃ → e.Replies s (nextHop rt (ip32 f 30)) mac →
        ∃ new, s₃.trace = s₂.trace ++ new ∧ tally (Obs.drains s.nextFid) new = 1 ∧
          ∀ t sip name g v, (t, Obs.sent (.drain s.nextFid sip) name g v) ∈ new →
            srGetInterface s.ifList name = some i ∧ v = .passed ∧ ForwardedAs f mac i g := by
  have hw := wf_of_run h₀
  have hrun₁ := h₀.append (.single hst)
  have hrun₂ := hrun₁.append hrun
  have hacc := accepted_of_recv hw htype ht httl hroute hst
  have hifs₁ := run_ifList (.single hst) hw
  have hifs₂ := run_ifList hrun (wf_of_run hrun₁)
  have hunused : tally (Obs.drains s.nextFid) s.trace = 0 := by
    have hbal := (account_of_run h₀).balanced s.nextFid
    have hzero := (account_of_run h₀).numbered.unused s.nextFid le_rfl
    simp only [Balanced, Config.rest, reported, List.map_nil, List.sum_nil] at hbal hzero
    omega
  -- the frame is not sent while it waits: no event so far is a reply to its request
  have hself : ∀ mac, ¬ (Event.recv f iface).Replies s (nextHop rt (ip32 f 30)) mac := by
    rintro mac ⟨harp, -⟩
    exact ethertype_ne_arp htype harp
  have hsent₁ : tally (Obs.drains s.nextFid) s₁.trace = 0 := by
    rw [← hunused]
    exact tally_drains_of_no_reply hw hst (account_of_run hrun₁).numbered hacc hself
  have hsent₂ : tally (Obs.drains s.nextFid) s₂.trace = 0 := by
    rw [← hsent₁]
    exact drains_of_run hrun hrun₁ hacc fun e he mac hr => hother e he mac (hr.congr hifs₁.symm)
  refine ⟨hsent₂, ?_⟩
  intro e mac s₃ hst₃ hr
  obtain ⟨new, hnew⟩ := run_trace hrun (wf_of_run hrun₁)
  have hacc₂ : (s.now, Obs.accepted (nextHop rt (ip32 f 30)) (routedPacket s (transitFrame f) i))
      ∈ s₂.trace := by
    rw [hnew]
    exact List.mem_append_left _ hacc
  -- neither sent nor given up, it is still on the queue when the reply comes
  have hwait := waits_of_run hrun₂ hacc₂ hsent₂ hkept
  have hr₂ := hr.congr (hifs₂.trans hifs₁)
  obtain ⟨new₃, htrace, htally, hall⟩ := sent_of_reply hrun₂ hwait hst₃ hr₂
  refine ⟨new₃, htrace, htally, ?_⟩
  intro t sip name g v hmem
  obtain ⟨rfl, hv, rfl⟩ := hall t sip name g v hmem
  have hi : srGetInterface s.ifList (routedPacket s (transitFrame f) i).iface = some i := by
    rw [routedPacket, srGetInterface_strncpy]
    exact srGetInterface_name (lookupRoute_eq_some_iff.1 hroute).2
  refine ⟨hi, hv, ?_⟩
  rw [hifs₂, hifs₁]
  exact forwardedAs_drainFrame ht.valid htype hi mac

/-- A frame is forwarded while another one arrives and the sweep runs. -/
theorem forwarding_preserves_datagram_sample :
    ∃ s₂ s₃ new, Run Step sampleRouter
        [.recv (sampleFrame (sampleIp 0 2) (sampleIp 1 2) 64 20) (sampleName 0),
          .recv (sampleFrame (sampleIp 0 3) (sampleIp 1 3) 64 8) (sampleName 0), .tick 1, .sweep] s₂ ∧
      Step s₂ (.recv (sampleReply (sampleIp 1 2) ⟨2, 0, 0, 0, 9, 9⟩) (sampleName 1)) s₃ ∧
      s₃.trace = s₂.trace ++ new ∧ tally (Obs.drains 0) new = 1 ∧
      ∀ t sip name g v, (t, Obs.sent (.drain 0 sip) name g v) ∈ new →
        srGetInterface sampleIfs name = some ⟨sampleName 1, ⟨2, 0, 0, 0, 1, 1⟩, sampleIp 1 1⟩ ∧
          v = .passed ∧ ForwardedAs (sampleFrame (sampleIp 0 2) (sampleIp 1 2) 64 20)
            ⟨2, 0, 0, 0, 9, 9⟩ ⟨sampleName 1, ⟨2, 0, 0, 0, 1, 1⟩, sampleIp 1 1⟩ g := by
  obtain ⟨s₁, hst, h₁⟩ := exists_step_of_leadsTo step_of_ok
    (show leadsTo (step 5) sampleRouter
      [.recv (sampleFrame (sampleIp 0 2) (sampleIp 1 2) 64 20) (sampleName 0)]
      (fun s₁ => leadsTo (step 5) s₁
        [.recv (sampleFrame (sampleIp 0 3) (sampleIp 1 3) 64 8) (sampleName 0), .tick 1, .sweep]
        (fun s₂ => tally (Obs.givesUp 0) s₂.trace = 0 ∧ leadsTo (step 5) s₂
          [.recv (sampleReply (sampleIp 1 2) ⟨2, 0, 0, 0, 9, 9⟩) (sampleName 1)]
          fun _ => true)) by decide +kernel)
  obtain ⟨s₂, hrun, h₂⟩ := exists_run_of_leadsTo step_of_ok h₁
  obtain ⟨hgave, h₃⟩ := of_decide_eq_true h₂
  obtain ⟨s₃, hst₃, -⟩ := exists_step_of_leadsTo step_of_ok h₃
  have hkept : ∀ t id, (t, Obs.icmpError 3 1 (.giveUp id sampleRouter.nextFid)) ∉ s₂.trace := by
    intro t id hmem
    have hpos : 0 < tally (Obs.givesUp 0) s₂.trace := tally_pos hmem rfl
    omega
  have hother : ∀ e ∈ [Event.recv (sampleFrame (sampleIp 0 3) (sampleIp 1 3) 64 8) (sampleName 0),
      .tick 1, .sweep], ∀ mac, ¬ e.Replies sampleRouter (sampleIp 1 2) mac := by
    intro e he mac hr
    simp only [List.mem_cons, List.not_mem_nil, or_false] at he
    rcases he with rfl | rfl | rfl
    · exact absurd hr.1 (by decide +kernel)
    · exact hr
    · exact hr
  obtain ⟨-, hall⟩ := forwarding_preserves_datagram (.nil sampleRouter) (by decide +kernel)
    (by decide +kernel) (by decide +kernel)
    (show lookupRoute sampleRouter _ = some (sampleRoute 1 2,
      ⟨sampleName 1, ⟨2, 0, 0, 0, 1, 1⟩, sampleIp 1 1⟩) by decide +kernel) hst hrun hother hkept
  obtain ⟨new, htrace, htally, hnew⟩ := hall _ _ s₃ hst₃ (sampleReply_replies rfl)
  exact ⟨s₂, s₃, new, .cons hst hrun, hst₃, htrace, htally, hnew⟩

/-- A frame that arrives for a request whose time is up is given up at once, and
the reply that comes next sends nothing. -/
theorem forwarding_gives_up_on_arrival :
    ∃ es₀ s f iface rt i s₁ e mac s₃, Run Step sampleRouter es₀ s ∧
      (srGetInterface s.ifList iface).isSome ∧ ethertype f = ethertypeIp ∧ Transit s f ∧
      1 < u8 f 22 ∧ lookupRoute s (ip32 f 30) = some (rt, i) ∧ Step s (.recv f iface) s₁ ∧
      Step s₁ e s₃ ∧ e.Replies s (nextHop rt (ip32 f 30)) mac ∧
      tally (Obs.drains s.nextFid) s₃.trace = 0 := by
  obtain ⟨s, hrun, h⟩ := exists_run_of_leadsTo step_of_ok
    (show leadsTo (step 5) sampleRouter
      [.recv (sampleFrame (sampleIp 0 2) (sampleIp 1 2) 64 20) (sampleName 0), .tick 1, .sweep,
        .tick 1, .sweep, .tick 1, .sweep, .tick 1, .sweep, .tick 1]
      (fun s => s.ifList = sampleIfs ∧
        Transit s (sampleFrame (sampleIp 0 2) (sampleIp 1 2) 64 8) ∧
        lookupRoute s (ip32 (sampleFrame (sampleIp 0 2) (sampleIp 1 2) 64 8) 30) =
          some (sampleRoute 1 2, ⟨sampleName 1, ⟨2, 0, 0, 0, 1, 1⟩, sampleIp 1 1⟩) ∧
        leadsTo (step 5) s [.recv (sampleFrame (sampleIp 0 2) (sampleIp 1 2) 64 8) (sampleName 0)]
          (fun s₁ => leadsTo (step 5) s₁
            [.recv (sampleReply (sampleIp 1 2) ⟨2, 0, 0, 0, 9, 9⟩) (sampleName 1)]
            fun s₃ => tally (Obs.drains s.nextFid) s₃.trace = 0)) by decide +kernel)
  obtain ⟨hifs, ht, hroute, h₁⟩ := of_decide_eq_true h
  obtain ⟨s₁, hst, h₃⟩ := exists_step_of_leadsTo step_of_ok h₁
  obtain ⟨s₃, hst₃, hsent⟩ := exists_step_of_leadsTo step_of_ok h₃
  exact ⟨_, s, _, sampleName 0, _, _, s₁, _, ⟨2, 0, 0, 0, 9, 9⟩, s₃, hrun,
    by rw [hifs]; decide +kernel, by decide +kernel, ht, by decide +kernel, hroute, hst, hst₃,
    sampleReply_replies hifs, of_decide_eq_true hsent⟩

end SimpleRouter
