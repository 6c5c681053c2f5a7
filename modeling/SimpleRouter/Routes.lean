/-
Route lookups in a table that was verified.

`sr_verify_routing_table` looks for the interface of every route, and forwarding
looks for the interface of the route it has chosen.  The two walks compare names in
the same way, and hardware information that comes later adds records and renames
none, so that the interface of a route is found in every later state: `route_and_send`
fails only where there is no route at all.
-/
import SimpleRouter.Gate

namespace SimpleRouter

open Bytes CString Runs

variable {s s' s₀ : Router} {ifs : List SrIf} {rt : List SrRt} {now : ℕ} {junk : ℕ → ℕ → UInt8}
  {es es₀ : List SessionEvent}

/-- Every route has an interface, and the routes are those of `rt`. -/
structure Verified (rt : List SrRt) (s : Router) : Prop where
  wf : WF s
  routes : s.routingTable = rt
  ifaces : ∀ r ∈ rt, (srGetInterface s.ifList r.interface).isSome

lemma srHandleHwinfo_routingTable {entries : List HwEntry} (h : srHandleHwinfo s entries = .ok s') :
    s'.routingTable = s.routingTable := by
  rw [srHandleHwinfo, map_eq_ok] at h
  obtain ⟨ifs, -, rfl⟩ := h
  rfl

/-- No event of a session touches the routes. -/
lemma SessionStep.routes {e : SessionEvent} (h : SessionStep s e s') (hw : WF s) :
    WF s' ∧ s'.routingTable = s.routingTable := by
  cases e with
  | data e =>
      obtain ⟨hw', hl⟩ := Step.later (e := e) h hw
      exact ⟨hw', hl.routingTable⟩
  | hwinfo entries =>
      have hinfo := hwinfo_of_sessionStep h
      obtain ⟨hreq, hid, -⟩ := srHandleHwinfo_requests hinfo
      exact ⟨hw.congr hreq hid, srHandleHwinfo_routingTable hinfo⟩

/-- Nor does it take the interface of a route away. -/
lemma SessionStep.verified {e : SessionEvent} (h : SessionStep s e s') (hs : Verified rt s) :
    Verified rt s' := by
  obtain ⟨hw, hroutes⟩ := h.routes hs.wf
  refine ⟨hw, hroutes.trans hs.routes, ?_⟩
  intro r hr
  cases e with
  | data e =>
      obtain ⟨-, hl⟩ := Step.later (e := e) h hs.wf
      rw [hl.ifList]
      exact hs.ifaces r hr
  | hwinfo entries => exact srHandleHwinfo_registered (hwinfo_of_sessionStep h) (hs.ifaces r hr)

namespace Verified

variable (h : Verified rt s)

include h

lemma exists_iface {dst : Ip} {r : SrRt} (hr : rtExactMatch s.routingTable dst = some r) :
    ∃ i, srGetInterface s.ifList r.interface = some i := by
  rw [h.routes] at hr
  exact Option.isSome_iff_exists.1 (h.ifaces r (List.mem_of_find?_eq_some hr))

lemma lookupRoute_eq_none_iff (dst : Ip) :
    lookupRoute s dst = none ↔ ∀ r ∈ rt, r.dest ≠ dst := by
  cases hr : rtExactMatch s.routingTable dst with
  | none =>
      have hnone : lookupRoute s dst = none := by rw [lookupRoute, hr]; rfl
      rw [h.routes, rtExactMatch, List.find?_eq_none] at hr
      exact ⟨fun _ r hmem => by simpa using hr r hmem, fun _ => hnone⟩
  | some r =>
      -- the branch for a missing interface is not taken
      obtain ⟨i, hi⟩ := h.exists_iface hr
      have hsome := lookupRoute_eq_some_iff.2 ⟨hr, hi⟩
      rw [h.routes] at hr
      constructor
      · intro hnone
        rw [hsome] at hnone
        simp at hnone
      · intro hno
        exact absurd (rtExactMatch_dest hr) (hno r (List.mem_of_find?_eq_some hr))

/-- `route_and_send` fails exactly if there is no route. -/
lemma routeAndSend_fails_iff (handle : Router → ReqId → Except Fault Router) {frame : Frame}
    (hlen : 34 ≤ frame.length) :
    (∃ s', routeAndSend handle s frame = .ok (-1, s')) ↔ ∀ r ∈ rt, r.dest ≠ ip32 frame 30 := by
  rw [routeAndSend_eq handle s hlen, ← h.lookupRoute_eq_none_iff]
  cases hroute : lookupRoute s (ip32 frame 30) with
  | none => simp
  | some p =>
      obtain ⟨r, i⟩ := p
      simp only [map_eq_ok, Prod.mk.injEq, reduceCtorEq, iff_false, not_exists]
      rintro s' s₁ ⟨-, hrc, -⟩
      exact absurd hrc (by decide)

end Verified

/-- The first route to a destination, in a table that was loaded from a file. -/
lemma rtExactMatch_lines (lines : List RtLine) (dst : Ip) (r : SrRt) :
    rtExactMatch (lines.foldl srAddRtEntry []) dst = some r ↔
      ∃ pre line post, lines = pre ++ line :: post ∧ line.dest = dst ∧
        (∀ l ∈ pre, l.dest ≠ dst) ∧ r = line.entry := by
  rw [foldl_srAddRtEntry, List.nil_append, rtExactMatch_eq_some_iff]
  constructor
  · rintro ⟨hdst, pre, post, hsplit, hpre⟩
    obtain ⟨pre', rest, rfl, rfl, hrest⟩ := List.map_eq_append_iff.1 hsplit
    obtain ⟨line, post', rfl, rfl, -⟩ := List.map_eq_cons_iff.1 hrest
    refine ⟨pre', line, post', rfl, hdst, ?_, rfl⟩
    intro l hl
    exact hpre l.entry (List.mem_map_of_mem hl)
  · rintro ⟨pre, line, post, rfl, hdst, hpre, rfl⟩
    refine ⟨hdst, pre.map RtLine.entry, post.map RtLine.entry, by simp, ?_⟩
    intro r' hr'
    obtain ⟨l, hl, rfl⟩ := List.mem_map.1 hr'
    exact hpre l hl

/-- From the moment the table was verified, whatever packets, sweeps and hardware
information come: `route_and_send` fails exactly if no route has the destination; the
interface of a route that is found is found, also on the way back; and the route is
the first one in the table, and in the file the table comes from. -/
theorem verified_routes_total (h₀ : Run SessionStep (Router.init ifs rt now junk) es₀ s₀)
    (hverify : srVerifyRoutingTable s₀.ifList s₀.routingTable = 0) (h : Run SessionStep s₀ es s) :
    s.routingTable = rt ∧
    (∀ handle frame, 34 ≤ frame.length →
      ((∃ s', routeAndSend handle s frame = .ok (-1, s')) ↔ ∀ r ∈ rt, r.dest ≠ ip32 frame 30)) ∧
    (∀ dst r, rtExactMatch s.routingTable dst = some r →
      ∃ i, srGetInterface s.ifList r.interface = some i ∧ returnSource s dst = i.ip) ∧
    (∀ dst r, rtExactMatch s.routingTable dst = some r ↔
      r.dest = dst ∧ ∃ pre post, rt = pre ++ r :: post ∧ ∀ r' ∈ pre, r'.dest ≠ dst) ∧
    (∀ lines, rt = lines.foldl srAddRtEntry [] → ∀ dst r,
      (rtExactMatch s.routingTable dst = some r ↔
        ∃ pre line post, lines = pre ++ line :: post ∧ line.dest = dst ∧
          (∀ l ∈ pre, l.dest ≠ dst) ∧ r = line.entry)) := by
  obtain ⟨hw₀, hroutes₀⟩ := h₀.invariant (I := fun t => WF t ∧ t.routingTable = rt)
    (by
      rintro t e u - ⟨hw, hr⟩ hst
      obtain ⟨hw', hr'⟩ := hst.routes hw
      exact ⟨hw', hr'.trans hr⟩)
    ⟨wf_init .., rfl⟩
  have hs₀ : Verified rt s₀ := by
    refine ⟨hw₀, hroutes₀, fun r hr => isSome_of_srVerifyRoutingTable hverify ?_⟩
    rw [hroutes₀]
    exact hr
  have hs : Verified rt s := h.invariant (fun _ _ _ _ ht hst => hst.verified ht) hs₀
  refine ⟨hs.routes, fun handle frame hlen => hs.routeAndSend_fails_iff handle hlen, ?_, ?_, ?_⟩
  · intro dst r hr
    obtain ⟨i, hi⟩ := hs.exists_iface hr
    refine ⟨i, hi, ?_⟩
    rw [returnSource, hr]
    simp only [hi]
  · intro dst r
    rw [hs.routes, rtExactMatch_eq_some_iff]
  · intro lines hlines dst r
    rw [hs.routes, hlines, rtExactMatch_lines]

/-- After a frame and a third interface, a frame to `10.0.1.2` still has its route. -/
theorem verified_routes_total_sample :
    srVerifyRoutingTable sampleIfs sampleRoutes = 0 ∧ ∃ s es, Run SessionStep sampleRouter es s ∧
      s.ifList.length = 3 ∧ ∀ handle, ¬ ∃ s', routeAndSend handle s
        (sampleFrame (sampleIp 0 2) (sampleIp 1 2) 64 8) = .ok (-1, s') := by
  obtain ⟨s, hrun, hlen⟩ := exists_run_of_leadsTo sessionStep_of_ok (s := sampleRouter)
    (f := sessionStep 5) (P := fun s => s.ifList.length = 3)
    (show leadsTo _ _ [.data (.recv (sampleFrame (sampleIp 0 2) (sampleIp 1 3) 64 8) (sampleName 0)),
      .hwinfo [⟨1, sampleName 2⟩]] _ by decide +kernel)
  obtain ⟨-, hfails, -⟩ := verified_routes_total (.nil sampleRouter) srVerifyRoutingTable_sample hrun
  refine ⟨srVerifyRoutingTable_sample, s, _, hrun, by simpa using hlen, ?_⟩
  intro handle hno
  rw [hfails handle _ (by decide +kernel)] at hno
  exact hno (sampleRoute 1 2) (by decide +kernel) (by decide +kernel)

end SimpleRouter
