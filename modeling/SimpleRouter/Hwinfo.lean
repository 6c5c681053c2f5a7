/-
Hardware information, from the bytes of the message to the interface list.

The entries of the message describe interfaces by position: `HWINTERFACE` adds a record
at the end of the list, and `HWETHER` and `HWETHIP` write into whichever record is the
last one at that moment.  A message is therefore read in sections, each an interface with
the entries up to the next one; what stands in front of the first interface belongs to
the last record of the list as it was.
-/
import SimpleRouter.Commands
import SimpleRouter.Events

namespace SimpleRouter

open Bytes CString

variable {junk : ℕ → ℕ → UInt8} {ifs : List SrIf} {i : SrIf} {e : HwEntry} {es : List HwEntry}
  {key : ℕ}

/-! ### The message -/

/-- `hwinfo->mHWInfo[i]`. -/
def hwEntryAt (bytes : List UInt8) (i : ℕ) : HwEntry :=
  ⟨u32 bytes (8 + 36 * i), slice bytes (8 + 36 * i + 4) 32⟩

/-- The entries that the loop of `sr_handle_hwinfo` goes through. -/
def hwEntries (bytes : List UInt8) : List HwEntry :=
  (List.range (hwinfoEntries bytes.length).toNat).map (hwEntryAt bytes)

/-- The entries that fit into a message. -/
lemma hwEntries_eq {bytes : List UInt8} (hge : 8 ≤ bytes.length) (hle : bytes.length ≤ 10000) :
    hwEntries bytes = (List.range ((bytes.length - 8) / 36)).map (hwEntryAt bytes) := by
  have hcount : (hwinfoEntries bytes.length).toNat = (bytes.length - 8) / 36 := by
    rw [hwinfoEntries_eq hle hge]
    omega
  rw [hwEntries, hcount]

/-! ### Sections -/

/-- The entry announces an interface: `HWINTERFACE` is 1. -/
def HwEntry.Announces (e : HwEntry) : Prop := e.key = 1

instance (e : HwEntry) : Decidable e.Announces := inferInstanceAs (Decidable (_ = _))

/-- `pre` stands in front of the first interface, and `secs` are the interfaces, each with
the entries between it and the next one. -/
structure Sections (es pre : List HwEntry) (secs : List (HwEntry × List HwEntry)) : Prop where
  split : es = pre ++ secs.flatMap fun sec => sec.1 :: sec.2
  pre : ∀ e ∈ pre, ¬ e.Announces
  head : ∀ sec ∈ secs, sec.1.Announces
  tail : ∀ sec ∈ secs, ∀ e ∈ sec.2, ¬ e.Announces

lemma exists_sections (es : List HwEntry) : ∃ pre secs, Sections es pre secs := by
  induction es with
  | nil => exact ⟨[], [], rfl, by simp, by simp, by simp⟩
  | cons e es ih =>
      obtain ⟨pre, secs, hsplit, hpre, hhead, htail⟩ := ih
      by_cases he : e.Announces
      · refine ⟨[], (e, pre) :: secs, ?_, by simp, ?_, ?_⟩
        · rw [hsplit]
          rfl
        · intro sec hsec
          rcases List.mem_cons.1 hsec with rfl | hsec
          · exact he
          · exact hhead sec hsec
        · intro sec hsec
          rcases List.mem_cons.1 hsec with rfl | hsec
          · exact hpre
          · exact htail sec hsec
      · refine ⟨e :: pre, secs, by rw [hsplit]; rfl, ?_, hhead, htail⟩
        intro e' he'
        rcases List.mem_cons.1 he' with rfl | he'
        · exact he
        · exact hpre e' he'

/-- What stands in front of the first interface. -/
lemma Sections.pre_eq {pre : List HwEntry} {secs : List (HwEntry × List HwEntry)}
    (h : Sections es pre secs) : pre = es.takeWhile fun e => ¬ e.Announces := by
  rw [h.split, List.takeWhile_append_of_pos (by simpa using h.pre)]
  cases secs with
  | nil => simp
  | cons sec secs =>
      have hhead := h.head sec (by simp)
      simp [hhead]

/-! ### Attributes -/

/-- The value of the last entry with a given key. -/
def lastValue (key : ℕ) (es : List HwEntry) : Option (List UInt8) :=
  (es.reverse.find? fun e => e.key = key).map (·.value)

/-- The record with the attributes that some entries give it: `HWETHER` is 32 and `HWETHIP`
is 64. -/
def SrIf.withAttributes (i : SrIf) (es : List HwEntry) : SrIf :=
  { i with
    addr := ((lastValue 32 es).map fun v => mac48 v 0).getD i.addr
    ip := ((lastValue 64 es).map fun v => ip32 v 0).getD i.ip }

lemma lastValue_concat (key : ℕ) (es : List HwEntry) (e : HwEntry) :
    lastValue key (es ++ [e]) = if e.key = key then some e.value else lastValue key es := by
  rw [lastValue, List.reverse_append, List.reverse_singleton, List.singleton_append]
  split_ifs with he
  · rw [List.find?_cons_of_pos (by simpa using he), Option.map_some]
  · rw [List.find?_cons_of_neg (by simpa using he), lastValue]

lemma setLast_append (f : SrIf → SrIf) (ifs : List SrIf) (i : SrIf) :
    setLast f (ifs ++ [i]) = .ok (ifs ++ [f i]) := by
  simp [setLast]

/-- An entry that announces nothing changes at most the last record. -/
lemma hwEntry_append (he : ¬ e.Announces) :
    hwEntry junk (ifs ++ [i.withAttributes es]) e
      = .ok (ifs ++ [i.withAttributes (es ++ [e])]) := by
  have hkey : e.key ≠ 1 := he
  rw [hwEntry, if_neg hkey, srSetEtherIp, srSetEtherAddr, setLast_append, setLast_append]
  split_ifs with hip hmac
  · simp [SrIf.withAttributes, lastValue_concat, hip]
  · simp [SrIf.withAttributes, lastValue_concat, hmac]
  · simp [SrIf.withAttributes, lastValue_concat, hip, hmac]

/-- The entries behind an interface describe it. -/
lemma foldlM_hwEntry_tail (hes : ∀ e ∈ es, ¬ e.Announces) (ifs : List SrIf) (i : SrIf) :
    es.foldlM (hwEntry junk) (ifs ++ [i]) = .ok (ifs ++ [i.withAttributes es]) := by
  induction es using List.reverseRecOn with
  | nil => rfl
  | append_singleton es e ih =>
      have ih := ih fun e' he' => hes e' (List.mem_append_left _ he')
      rw [List.foldlM_append, ih]
      simp only [bind, Except.bind, List.foldlM_cons, hwEntry_append (hes e (by simp))]
      rfl

/-! ### The list -/

/-- The old list once the entries in front of the first interface are read. -/
def updateLast (ifs : List SrIf) (es : List HwEntry) : List SrIf :=
  match ifs.getLast? with
  | none => []
  | some i => ifs.dropLast ++ [i.withAttributes es]

/-- The record of an interface that a message announces. -/
structure Announced (sec : HwEntry × List HwEntry) (i : SrIf) : Prop where
  name : i.name = strncpy 32 sec.1.value
  addr : ∀ v, lastValue 32 sec.2 = some v → i.addr = mac48 v 0
  ip : ∀ v, lastValue 64 sec.2 = some v → i.ip = ip32 v 0

/-- The entries in front of the first interface; with no record to write into there may be
no attributes. -/
lemma foldlM_hwEntry_pre (hes : ∀ e ∈ es, ¬ e.Announces)
    (hnil : ifs = [] → ∀ e ∈ es, e.key ≠ 32 ∧ e.key ≠ 64) :
    es.foldlM (hwEntry junk) ifs = .ok (updateLast ifs es) := by
  rcases List.eq_nil_or_concat ifs with rfl | ⟨ifs, i, rfl⟩
  · have hnone := hnil rfl
    induction es with
    | nil => rfl
    | cons e es ih =>
        obtain ⟨hmac, hip⟩ := hnone e (by simp)
        have hkey : e.key ≠ 1 := hes e (by simp)
        have hskip : hwEntry junk [] e = .ok [] := by
          rw [hwEntry, if_neg hkey, if_neg hip, if_neg hmac]
        rw [List.foldlM_cons, hskip]
        exact ih (fun e' he' => hes e' (List.mem_cons_of_mem _ he'))
          (fun _ e' he' => hnone e' (List.mem_cons_of_mem _ he'))
          fun e' he' => hnone e' (List.mem_cons_of_mem _ he')
  · rw [List.concat_eq_append, foldlM_hwEntry_tail hes, updateLast, List.getLast?_concat]
    simp

/-- Each section adds a record. -/
lemma foldlM_hwEntry_sections (junk : ℕ → ℕ → UInt8) (secs : List (HwEntry × List HwEntry))
    (hhead : ∀ sec ∈ secs, sec.1.Announces) (htail : ∀ sec ∈ secs, ∀ e ∈ sec.2, ¬ e.Announces)
    (ifs : List SrIf) :
    ∃ fresh, (secs.flatMap fun sec => sec.1 :: sec.2).foldlM (hwEntry junk) ifs
        = .ok (ifs ++ fresh) ∧ List.Forall₂ Announced secs fresh := by
  induction secs generalizing ifs with
  | nil => exact ⟨[], by simp [pure, Except.pure], .nil⟩
  | cons sec secs ih =>
      -- the new record, as `malloc` leaves it
      obtain ⟨i, hname, hadd⟩ : ∃ i : SrIf, i.name = strncpy 32 sec.1.value ∧
          hwEntry junk ifs sec.1 = .ok (ifs ++ [i]) := by
        have hkey : sec.1.key = 1 := hhead sec (by simp)
        rw [hwEntry, if_pos hkey, srAddInterface]
        exact ⟨_, rfl, rfl⟩
      obtain ⟨fresh, hfold, hfresh⟩ := ih (fun sec hsec => hhead sec (List.mem_cons_of_mem _ hsec))
        (fun sec hsec => htail sec (List.mem_cons_of_mem _ hsec))
        (ifs ++ [i.withAttributes sec.2])
      refine ⟨i.withAttributes sec.2 :: fresh, ?_, .cons ⟨hname, ?_, ?_⟩ hfresh⟩
      · rw [List.flatMap_cons, List.foldlM_append, List.foldlM_cons, hadd]
        simp only [bind, Except.bind, foldlM_hwEntry_tail (htail sec (by simp)), hfold]
        simp
      · intro v hv
        simp [SrIf.withAttributes, hv]
      · intro v hv
        simp [SrIf.withAttributes, hv]

/-- Hardware information appends one record for each interface it announces, in order,
with the name and the last addresses that the message gives it; entries in front of the
first interface describe the last record of the old list, and nothing else changes. -/
theorem hwinfo_builds_list (s : Router) (bytes : List UInt8) (hge : 8 ≤ bytes.length)
    (hle : bytes.length ≤ 10000)
    (hnil : s.ifList = [] → ∀ e ∈ (hwEntries bytes).takeWhile fun e => ¬ e.Announces,
      e.key ≠ 32 ∧ e.key ≠ 64) :
    (hwEntries bytes = (List.range ((bytes.length - 8) / 36)).map (hwEntryAt bytes)) ∧
    ∃ pre secs fresh, Sections (hwEntries bytes) pre secs ∧
      srHandleHwinfo s (hwEntries bytes)
        = .ok { s with ifList := updateLast s.ifList pre ++ fresh } ∧
      List.Forall₂ Announced secs fresh := by
  obtain ⟨pre, secs, hsec⟩ := exists_sections (hwEntries bytes)
  have hpre : (pre.foldlM (hwEntry s.junk) s.ifList) = .ok (updateLast s.ifList pre) := by
    refine foldlM_hwEntry_pre hsec.pre fun hempty e he => ?_
    rw [hsec.pre_eq] at he
    exact hnil hempty e he
  obtain ⟨fresh, hfold, hfresh⟩ := foldlM_hwEntry_sections s.junk secs hsec.head hsec.tail
    (updateLast s.ifList pre)
  refine ⟨hwEntries_eq hge hle, pre, secs, fresh, hsec, ?_, hfresh⟩
  rw [srHandleHwinfo, hsec.split, List.foldlM_append, hpre]
  simp only [bind, Except.bind, hfold]
  rfl

/-- A message with the given entries. -/
def hwinfoMessage (es : List HwEntry) : List UInt8 :=
  be32 (8 + 36 * es.length) ++ be32 vnsHwinfo
    ++ es.flatMap fun e => be32 e.key ++ (e.value ++ List.replicate 32 0).take 32

/-- Two interfaces.  The first one gets two hardware addresses, and in front of it there
is a fixed address, which is ignored. -/
def sampleHwinfo : List UInt8 :=
  hwinfoMessage [⟨16, (sampleIp 0 9).bytes⟩, ⟨1, sampleName 0⟩, ⟨32, [2, 0, 0, 0, 0, 7]⟩,
    ⟨64, (sampleIp 0 1).bytes⟩, ⟨32, [2, 0, 0, 0, 0, 1]⟩, ⟨1, sampleName 1⟩,
    ⟨64, (sampleIp 1 1).bytes⟩, ⟨32, [2, 0, 0, 0, 1, 1]⟩]

/-- The router of the sample network gets its interfaces. -/
theorem hwinfo_builds_list_sample :
    ∃ pre secs, Sections (hwEntries sampleHwinfo) pre secs ∧
      srHandleHwinfo (Router.init [] sampleRoutes 1 fun _ _ => 0) (hwEntries sampleHwinfo)
        = .ok sampleRouter ∧
      List.Forall₂ Announced secs sampleIfs := by
  have hlist : ((srHandleHwinfo (Router.init [] sampleRoutes 1 fun _ _ => 0)
      (hwEntries sampleHwinfo)).toOption.map Router.ifList) = some sampleIfs := by
    decide +kernel
  obtain ⟨-, pre, secs, fresh, hsec, heq, hfresh⟩ := hwinfo_builds_list
    (Router.init [] sampleRoutes 1 fun _ _ => 0) sampleHwinfo (by decide +kernel)
    (by decide +kernel) (fun _ => by decide +kernel)
  obtain rfl : fresh = sampleIfs := by
    rw [heq] at hlist
    exact Option.some_injective _ hlist
  exact ⟨pre, secs, hsec, heq, hfresh⟩

end SimpleRouter
