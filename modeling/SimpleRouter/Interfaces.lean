/-
Interfaces and routes: `sr_if.c`, the hardware information message of
`sr_vns_comm.c`, `sr_verify_routing_table` of `sr_main.c`, and the two lookups
`rt_exact_match` and `find_iface_for_ip` of `sr_router.c`.

Interface names are 32-byte buffers filled by bounded copies and compared by
bounded comparisons.  A name that was found in the list, copied, and looked up
again finds the same record (`srGetInterface_name`, `srGetInterface_strncpy`):
the comparison is an equivalence and the lookup returns the first match.
-/
import SimpleRouter.State

namespace SimpleRouter

open Bytes CString

/-! ### Lookups -/

/-- `sr_get_interface`: the first record with this name. -/
def srGetInterface (ifs : List SrIf) (name : List UInt8) : Option SrIf :=
  ifs.find? fun i => strncmp 32 i.name name = 0

/-- `find_iface_for_ip`: the first record with this address. -/
def findIfaceForIp (ifs : List SrIf) (ip : Ip) : Option SrIf := ifs.find? (·.ip = ip)

/-- `rt_exact_match`: the first route to exactly this destination. -/
def rtExactMatch (rt : List SrRt) (ip : Ip) : Option SrRt := rt.find? (·.dest = ip)

/-- The next hop on a route: its gateway, or the destination itself. -/
def nextHop (rt : SrRt) (dst : Ip) : Ip := if rt.gw = 0 then dst else rt.gw

/-- `sr_verify_routing_table`: the number of routes whose interface is missing. -/
def srVerifyRoutingTable (ifs : List SrIf) (rt : List SrRt) : ℕ :=
  if ifs = [] ∨ rt = [] then 999
  else rt.countP fun r => (ifs.find? fun i => strncmp 32 i.name r.interface = 0).isNone

/-- One line of a routing table file, as `sr_load_rt` has read it. -/
structure RtLine where
  dest : Ip
  gw : Ip
  mask : Ip
  iface : List UInt8
deriving DecidableEq, Repr

/-- The route of a line. -/
def RtLine.entry (line : RtLine) : SrRt :=
  ⟨line.dest, line.gw, line.mask, strncpy 32 line.iface⟩

/-- `sr_add_rt_entry`: a new record at the end. -/
def srAddRtEntry (rt : List SrRt) (line : RtLine) : List SrRt := rt ++ [line.entry]

/-- Adding the lines of a file one after the other keeps their order. -/
lemma foldl_srAddRtEntry (lines : List RtLine) (rt : List SrRt) :
    lines.foldl srAddRtEntry rt = rt ++ lines.map RtLine.entry := by
  induction lines generalizing rt with
  | nil => simp
  | cons line lines ih =>
      rw [List.foldl_cons, ih, srAddRtEntry, List.append_assoc]
      rfl

/-- Every route of a table that was verified has an interface. -/
lemma isSome_of_srVerifyRoutingTable {ifs : List SrIf} {rt : List SrRt}
    (h : srVerifyRoutingTable ifs rt = 0) {r : SrRt} (hr : r ∈ rt) :
    (srGetInterface ifs r.interface).isSome := by
  rw [srVerifyRoutingTable] at h
  split_ifs at h
  rw [List.countP_eq_zero] at h
  have hsome := h r hr
  rw [Bool.not_eq_true, Option.isNone_eq_false_iff] at hsome
  exact hsome

/-- The route that is found is the first one to its destination. -/
lemma rtExactMatch_eq_some_iff {rt : List SrRt} {dst : Ip} {r : SrRt} :
    rtExactMatch rt dst = some r ↔
      r.dest = dst ∧ ∃ pre post, rt = pre ++ r :: post ∧ ∀ r' ∈ pre, r'.dest ≠ dst := by
  rw [rtExactMatch, List.find?_eq_some_iff_append]
  simp

lemma srGetInterface_eq_find_cstr (ifs : List SrIf) (name : List UInt8) :
    srGetInterface ifs name = ifs.find? fun i => cstr 32 i.name = cstr 32 name := by
  simp only [srGetInterface, strncmp_eq_zero_iff]

/-- The lookup depends on the bounded string only. -/
lemma srGetInterface_congr {a b : List UInt8} (ifs : List SrIf) (h : cstr 32 a = cstr 32 b) :
    srGetInterface ifs a = srGetInterface ifs b := by
  rw [srGetInterface_eq_find_cstr, srGetInterface_eq_find_cstr, h]

lemma cstr_name_of_srGetInterface {ifs : List SrIf} {name : List UInt8} {i : SrIf}
    (h : srGetInterface ifs name = some i) : cstr 32 i.name = cstr 32 name := by
  rw [srGetInterface_eq_find_cstr] at h
  simpa using List.find?_some h

/-- Looking up the name of the record that was found finds it again. -/
lemma srGetInterface_name {ifs : List SrIf} {name : List UInt8} {i : SrIf}
    (h : srGetInterface ifs name = some i) : srGetInterface ifs i.name = some i := by
  rw [srGetInterface_congr ifs (cstr_name_of_srGetInterface h), h]

lemma srGetInterface_strncpy (ifs : List SrIf) (name : List UInt8) :
    srGetInterface ifs (strncpy 32 name) = srGetInterface ifs name :=
  srGetInterface_congr ifs (cstr_strncpy 32 name)

lemma rtExactMatch_dest {rt : List SrRt} {ip : Ip} {r : SrRt} (h : rtExactMatch rt ip = some r) :
    r.dest = ip := by
  simpa using List.find?_some h

/-- A name is registered if and only if some record carries it. -/
lemma srGetInterface_isSome_iff (ifs : List SrIf) (name : List UInt8) :
    (srGetInterface ifs name).isSome ↔ cstr 32 name ∈ ifs.map fun i => cstr 32 i.name := by
  rw [srGetInterface_eq_find_cstr]
  simp

/-! ### Hardware information -/

/-- One entry of a hardware information message: a key and 32 bytes. -/
structure HwEntry where
  key : ℕ
  value : List UInt8
deriving DecidableEq, Repr

/-- `sr_add_interface`: a new record at the end, with only its name filled in. -/
def srAddInterface (junk : ℕ → UInt8) (ifs : List SrIf) (name : List UInt8) : List SrIf :=
  -- the record comes from `malloc`: the other fields are what the memory holds
  ifs ++ [{ name := strncpy 32 name
            addr := mac48 ((List.range 6).map junk) 0
            ip := ip32 ((List.range 10).map junk) 6 }]

/-- Apply `f` to the last record; the code asserts that there is one. -/
def setLast (f : SrIf → SrIf) (ifs : List SrIf) : Except Fault (List SrIf) :=
  match ifs.getLast? with
  | none => .error .assertFailed
  | some i => .ok (ifs.dropLast ++ [f i])

/-- `sr_set_ether_addr`. -/
def srSetEtherAddr (ifs : List SrIf) (addr : Mac) : Except Fault (List SrIf) :=
  setLast (fun i => { i with addr := addr }) ifs

/-- `sr_set_ether_ip`. -/
def srSetEtherIp (ifs : List SrIf) (ip : Ip) : Except Fault (List SrIf) :=
  setLast (fun i => { i with ip := ip }) ifs

/-- One round of the loop of `sr_handle_hwinfo`: `HWINTERFACE` is 1, `HWETHER`
is 32 and `HWETHIP` is 64; the other keys are only printed or ignored. -/
def hwEntry (junk : ℕ → ℕ → UInt8) (ifs : List SrIf) (e : HwEntry) : Except Fault (List SrIf) :=
  if e.key = 1 then .ok (srAddInterface (junk ifs.length) ifs e.value)
  else if e.key = 64 then srSetEtherIp ifs (ip32 e.value 0)
  else if e.key = 32 then srSetEtherAddr ifs (mac48 e.value 0)
  else .ok ifs

/-- `sr_handle_hwinfo`. -/
def srHandleHwinfo (s : Router) (entries : List HwEntry) : Except Fault Router :=
  (entries.foldlM (hwEntry s.junk) s.ifList).map fun ifs => { s with ifList := ifs }

/-- Setting an attribute of the last record renames nothing. -/
lemma setLast_names {f : SrIf → SrIf} {ifs ifs' : List SrIf} (h : setLast f ifs = .ok ifs')
    (hf : ∀ i, (f i).name = i.name) : ifs'.map (·.name) = ifs.map (·.name) := by
  rw [setLast] at h
  cases hlast : ifs.getLast? with
  | none => simp [hlast] at h
  | some i =>
      simp only [hlast, Except.ok.injEq] at h
      have hsplit : ifs = ifs.dropLast ++ [i] := (List.dropLast_append_getLast? i hlast).symm
      rw [← h]
      conv_rhs => rw [hsplit]
      simp [hf]

lemma hwEntry_names {junk : ℕ → ℕ → UInt8} {ifs ifs' : List SrIf} {e : HwEntry}
    (h : hwEntry junk ifs e = .ok ifs') : ifs.map (·.name) <+: ifs'.map (·.name) := by
  rw [hwEntry] at h
  split_ifs at h
  · rw [Except.ok.injEq] at h
    rw [← h, srAddInterface, List.map_append]
    exact List.prefix_append _ _
  · rw [srSetEtherIp] at h
    rw [setLast_names h fun _ => rfl]
  · rw [srSetEtherAddr] at h
    rw [setLast_names h fun _ => rfl]
  · rw [Except.ok.injEq] at h
    rw [h]

lemma foldlM_hwEntry_names {junk : ℕ → ℕ → UInt8} (entries : List HwEntry) {ifs ifs' : List SrIf}
    (h : entries.foldlM (hwEntry junk) ifs = .ok ifs') :
    ifs.map (·.name) <+: ifs'.map (·.name) := by
  induction entries generalizing ifs with
  | nil =>
      obtain rfl : ifs = ifs' := by simpa [pure, Except.pure] using h
      exact List.prefix_refl _
  | cons e es ih =>
      rw [List.foldlM_cons] at h
      cases he : hwEntry junk ifs e with
      | error _ => simp [he, bind, Except.bind] at h
      | ok mid =>
          simp only [he, bind, Except.bind] at h
          exact (hwEntry_names he).trans (ih h)

/-- Records are never removed or renamed: a registered name stays registered
through every hardware information message. -/
theorem srHandleHwinfo_registered {s s' : Router} {entries : List HwEntry}
    (h : srHandleHwinfo s entries = .ok s') {name : List UInt8}
    (hname : (srGetInterface s.ifList name).isSome) : (srGetInterface s'.ifList name).isSome := by
  rw [srHandleHwinfo] at h
  cases hfold : entries.foldlM (hwEntry s.junk) s.ifList with
  | error _ => simp [hfold, Except.map] at h
  | ok ifs =>
      simp only [hfold, Except.map, Except.ok.injEq] at h
      have hmono := (foldlM_hwEntry_names entries hfold).subset
      rw [srGetInterface_isSome_iff, List.mem_map] at hname
      obtain ⟨i, hi, hcstr⟩ := hname
      obtain ⟨j, hj, hjn⟩ := List.mem_map.1 (hmono (List.mem_map_of_mem hi))
      rw [← h, srGetInterface_isSome_iff, List.mem_map]
      exact ⟨j, hj, by rw [hjn, hcstr]⟩

end SimpleRouter
