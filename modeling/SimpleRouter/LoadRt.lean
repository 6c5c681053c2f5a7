/-
Loading the routing table (`sr_load_rt`).

Each line is taken apart by `sscanf` into four buffers that live across the loop, and the
number of fields it found is not looked at: a line with fewer fields leaves the rest of
the buffers as the previous line has filled them, or as they were before the first one.
The old table is let go of when the first line has been converted.  The table is thus the
file, line by line, if every line has its four fields and there is a line at all; and
these are the only cases.

`inet_aton` is a parameter.  Characters are bytes, a line ends for `sscanf` at its first
NUL, and the words that go into the buffers are taken as they are, which is what happens
as long as they fit.
-/
import SimpleRouter.Events
import SimpleRouter.Lib.Text

namespace SimpleRouter

open CString CText

/-! ### The loop -/

/-- The buffers `dest`, `gw`, `mask` and `iface`, as strings. -/
structure RtBuffers where
  dest : List UInt8
  gw : List UInt8
  mask : List UInt8
  iface : List UInt8
deriving DecidableEq, Repr

/-- The string in a line. -/
def lineString (line : List UInt8) : List UInt8 := line.takeWhile (· ≠ 0)

/-- `sscanf(line, "%s %s %s %s", dest, gw, mask, iface)`: the conversions stop at the end
of the line. -/
def sscanfRt (line : List UInt8) (b : RtBuffers) : RtBuffers :=
  match scanWord (lineString line) with
  | none => b
  | some (dest, line) =>
      let b := { b with dest := dest }
      match scanWord line with
      | none => b
      | some (gw, line) =>
          let b := { b with gw := gw }
          match scanWord line with
          | none => b
          | some (mask, line) =>
              let b := { b with mask := mask }
              match scanWord line with
              | none => b
              | some (iface, _) => { b with iface := iface }

section Load

variable (inetAton : List UInt8 → Option Ip)

/-- The three calls of `inet_aton`, and the entry of the line. -/
def convertRt (b : RtBuffers) : Option RtLine := do
  let dest ← inetAton b.dest
  let gw ← inetAton b.gw
  let mask ← inetAton b.mask
  some ⟨dest, gw, mask, b.iface⟩

/-- The loop of `sr_load_rt`: what is returned, and the table.  The fuel bounds the number
of lines. -/
def loadRtLoop (bufsiz : ℕ) :
    ℕ → RtBuffers → Bool → List SrRt → List UInt8 → Option (ℤ × List SrRt)
  | 0, _, _, rt, text =>
      match fgets bufsiz text with
      | none => some (0, rt)
      | some _ => none
  | fuel + 1, b, cleared, rt, text =>
      match fgets bufsiz text with
      | none => some (0, rt)
      | some (line, text) =>
          let b := sscanfRt line b
          match convertRt inetAton b with
          | none => some (-1, rt)
          | some entry =>
              -- the first line that is converted clears the table
              let rt := if cleared then rt else []
              loadRtLoop bufsiz fuel b true (srAddRtEntry rt entry) text

/-- `sr_load_rt`: `file` is the text of the file, if it can be read, `b` what is in the
buffers before the first line, and `prev` the table so far. -/
def srLoadRt (bufsiz : ℕ) (b : RtBuffers) (prev : List SrRt) (file : Option (List UInt8)) :
    Option (ℤ × List SrRt) :=
  match file with
  | none => some (-1, prev)
  | some text => loadRtLoop inetAton bufsiz text.length b false prev text

/-! ### The file -/

/-- The fields of a line. -/
def rtFields (line : List UInt8) : List (List UInt8) := words (lineString line)

/-- `r` is the entry of a line with four fields. -/
structure FromLine (line : List UInt8) (r : SrRt) : Prop where
  fields : ∃ dest gw mask iface more, rtFields line = dest :: gw :: mask :: iface :: more ∧
    inetAton dest = some r.dest ∧ inetAton gw = some r.gw ∧ inetAton mask = some r.mask ∧
    cstr 32 r.interface = iface

/-- The table has one entry for each line that is not blank, in order. -/
def FaithfulTable (text : List UInt8) (table : List SrRt) : Prop :=
  List.Forall₂ (FromLine inetAton) ((lines text).filter fun l => rtFields l ≠ []) table

/-- The loop over the lines of the file. -/
def loadRtLines : RtBuffers → Bool → List SrRt → List (List UInt8) → ℤ × List SrRt
  | _, _, rt, [] => (0, rt)
  | b, cleared, rt, line :: ls =>
      match convertRt inetAton (sscanfRt line b) with
      | none => (-1, rt)
      | some entry =>
          loadRtLines (sscanfRt line b) true (srAddRtEntry (if cleared then rt else []) entry) ls

variable {inetAton}

/-- A text that is not empty is loaded as if there had been another table. -/
lemma srLoadRt_of_ne_nil {bufsiz : ℕ} {b : RtBuffers} {prev table : List SrRt} {text : List UInt8}
    (hne : text ≠ []) (h : srLoadRt inetAton bufsiz b prev (some text) = some (0, table))
    (prev' : List SrRt) : srLoadRt inetAton bufsiz b prev' (some text) = some (0, table) := by
  obtain ⟨c, rest, rfl⟩ := List.exists_cons_of_ne_nil hne
  rw [srLoadRt, List.length_cons, loadRtLoop, fgets, if_neg hne] at h ⊢
  simp only at h ⊢
  cases hconv : convertRt inetAton (sscanfRt (takeLine (bufsiz - 1) (c :: rest)).1 b) with
  | none => simp [hconv] at h
  | some entry =>
      simp only [hconv] at h ⊢
      exact h

/-- If the lines fit into the buffer, the loop goes through them. -/
lemma loadRtLoop_eq {bufsiz fuel : ℕ} {b : RtBuffers} {cleared : Bool} {rt : List SrRt}
    {text : List UInt8} (hlines : ∀ l ∈ lines text, l.length < bufsiz)
    (hfuel : (lines text).length ≤ fuel) :
    loadRtLoop inetAton bufsiz fuel b cleared rt text
      = some (loadRtLines inetAton b cleared rt (lines text)) := by
  induction fuel generalizing b cleared rt text with
  | zero =>
      obtain rfl := lines_eq_nil_iff.1 (List.length_eq_zero_iff.1 (Nat.le_zero.1 hfuel))
      rfl
  | succ fuel ih =>
      cases hls : lines text with
      | nil =>
          obtain rfl := lines_eq_nil_iff.1 hls
          rfl
      | cons l ls =>
          rw [hls] at hlines hfuel
          obtain ⟨rest, hget, hrest⟩ := fgets_of_lines hls (hlines l (by simp))
          rw [loadRtLoop, loadRtLines]
          simp only [hget]
          cases convertRt inetAton (sscanfRt l b) with
          | none => rfl
          | some entry =>
              simp only
              rw [ih (by rw [hrest]; exact fun l hl => hlines l (List.mem_cons_of_mem _ hl))
                (by rw [hrest]; simpa using hfuel), hrest]

/-- What the loop has done with the first line when it ends well. -/
lemma exists_entry_of_loadRtLines {b : RtBuffers} {cleared : Bool} {rt table : List SrRt}
    {l : List UInt8} {ls : List (List UInt8)}
    (h : loadRtLines inetAton b cleared rt (l :: ls) = (0, table)) :
    ∃ entry, convertRt inetAton (sscanfRt l b) = some entry ∧
      loadRtLines inetAton (sscanfRt l b) true
        (srAddRtEntry (if cleared then rt else []) entry) ls = (0, table) := by
  rw [loadRtLines] at h
  cases hconv : convertRt inetAton (sscanfRt l b) with
  | none => simp [hconv] at h
  | some entry =>
      rw [hconv] at h
      exact ⟨entry, rfl, h⟩

/-- Every line is an entry, whatever its fields are. -/
lemma length_loadRtLines {b : RtBuffers} {cleared : Bool} {rt table : List SrRt}
    {ls : List (List UInt8)} (h : loadRtLines inetAton b cleared rt ls = (0, table)) :
    (ls = [] ∧ table = rt) ∨
      ls ≠ [] ∧ table.length = (if cleared then rt.length else 0) + ls.length := by
  induction ls generalizing b cleared rt with
  | nil =>
      rw [loadRtLines, Prod.mk.injEq] at h
      exact Or.inl ⟨rfl, h.2.symm⟩
  | cons l ls ih =>
      obtain ⟨entry, -, hrest⟩ := exists_entry_of_loadRtLines h
      have hadd : ∀ rt : List SrRt, (srAddRtEntry rt entry).length = rt.length + 1 := by
        simp [srAddRtEntry]
      refine Or.inr ⟨List.cons_ne_nil _ _, ?_⟩
      rcases ih hrest with ⟨rfl, rfl⟩ | ⟨-, hlen⟩
      · rw [hadd]
        split_ifs <;> simp
      · rw [hlen, if_pos rfl, hadd, List.length_cons]
        split_ifs
        · omega
        · simp
          omega

/-- A line with four fields fills all buffers. -/
lemma sscanfRt_of_fields {line dest gw mask iface : List UInt8} {more : List (List UInt8)}
    (h : rtFields line = dest :: gw :: mask :: iface :: more) (b : RtBuffers) :
    sscanfRt line b = ⟨dest, gw, mask, iface⟩ := by
  have hscan : ∀ {l w : List UInt8} {ws : List (List UInt8)}, words l = w :: ws →
      ∃ rest, scanWord l = some (w, rest) ∧ words rest = ws := by
    intro l w ws hl
    rw [words_eq] at hl
    cases hs : scanWord l with
    | none => simp [hs] at hl
    | some p =>
        rw [hs] at hl
        obtain ⟨rfl, rfl⟩ := List.cons.inj hl
        exact ⟨p.2, rfl, rfl⟩
  obtain ⟨l₁, h₁, hw₁⟩ := hscan h
  obtain ⟨l₂, h₂, hw₂⟩ := hscan hw₁
  obtain ⟨l₃, h₃, hw₃⟩ := hscan hw₂
  obtain ⟨l₄, h₄, -⟩ := hscan hw₃
  simp only [sscanfRt, h₁, h₂, h₃, h₄]

lemma fromLine_of_fields {line : List UInt8} {b : RtBuffers} {entry : RtLine}
    (hfour : 4 ≤ (rtFields line).length) (hshort : ∀ w ∈ rtFields line, w.length < 32)
    (h : convertRt inetAton (sscanfRt line b) = some entry) :
    FromLine inetAton line entry.entry := by
  obtain ⟨dest, gw, mask, iface, more, hf⟩ : ∃ dest gw mask iface more,
      rtFields line = dest :: gw :: mask :: iface :: more := by
    rcases hf : rtFields line with _ | ⟨a, _ | ⟨b, _ | ⟨c, _ | ⟨d, more⟩⟩⟩⟩
    all_goals try (rw [hf] at hfour; simp at hfour)
    exact ⟨a, b, c, d, more, rfl⟩
  rw [sscanfRt_of_fields hf, convertRt] at h
  simp only [Option.bind_eq_bind, Option.bind_eq_some_iff, Option.some.injEq] at h
  obtain ⟨d, hd, g, hg, m, hm, rfl⟩ := h
  refine ⟨dest, gw, mask, iface, more, hf, hd, hg, hm, ?_⟩
  have hmem : iface ∈ rtFields line := by simp [hf]
  have hnul : ∀ c ∈ iface, c ≠ 0 := by
    intro c hc
    simpa using List.mem_takeWhile_imp (mem_of_mem_words hmem hc)
  have hlen := hshort iface hmem
  have hcstr := cstr_append [] hnul (show iface.length ≤ 32 by omega)
  rw [List.append_nil, cstr_nil, List.append_nil] at hcstr
  rw [RtLine.entry, cstr_strncpy, hcstr]

/-- Lines with four fields each become the entries of the table. -/
lemma forall₂_loadRtLines {b : RtBuffers} {cleared : Bool} {rt table : List SrRt}
    {ls : List (List UInt8)} (h : loadRtLines inetAton b cleared rt ls = (0, table))
    (hfour : ∀ l ∈ ls, 4 ≤ (rtFields l).length) (hshort : ∀ l ∈ ls, ∀ w ∈ rtFields l, w.length < 32)
    (hne : ls ≠ []) :
    ∃ entries, table = (if cleared then rt else []) ++ entries ∧
      List.Forall₂ (FromLine inetAton) ls entries := by
  induction ls generalizing b cleared rt with
  | nil => exact absurd rfl hne
  | cons l ls ih =>
      obtain ⟨entry, hconv, hrest⟩ := exists_entry_of_loadRtLines h
      have hl := fromLine_of_fields (hfour l (by simp)) (hshort l (by simp)) hconv
      by_cases hlast : ls = []
      · subst hlast
        rw [loadRtLines, Prod.mk.injEq] at hrest
        exact ⟨[entry.entry], hrest.2.symm, .cons hl .nil⟩
      · obtain ⟨entries, htable, hall⟩ := ih hrest
          (fun l hl => hfour l (List.mem_cons_of_mem _ hl))
          (fun l hl => hshort l (List.mem_cons_of_mem _ hl)) hlast
        refine ⟨entry.entry :: entries, ?_, .cons hl hall⟩
        rw [htable, if_pos rfl, srAddRtEntry, List.append_assoc, List.singleton_append]

lemma four_le_of_forall₂ {ls : List (List UInt8)} {table : List SrRt}
    (h : List.Forall₂ (FromLine inetAton) ls table) : ∀ l ∈ ls, 4 ≤ (rtFields l).length := by
  induction h with
  | nil => simp
  | @cons l r ls table hl _ ih =>
      intro l' hl'
      rcases List.mem_cons.1 hl' with rfl | hl'
      · obtain ⟨dest, gw, mask, iface, more, hf, -⟩ := hl.fields
        simp [hf]
      · exact ih l' hl'

/-- If the loading succeeds, the table is the file if and only if every line has four
fields, and the file is not empty unless the old table is. -/
theorem load_rt_faithful_iff (inetAton : List UInt8 → Option Ip) (bufsiz : ℕ) (b : RtBuffers)
    (prev : List SrRt) (text : List UInt8) (hlines : ∀ l ∈ lines text, l.length < bufsiz)
    (hshort : ∀ l ∈ lines text, ∀ w ∈ rtFields l, w.length < 32) :
    ∃ rc table, srLoadRt inetAton bufsiz b prev (some text) = some (rc, table) ∧
      (rc = 0 → (FaithfulTable inetAton text table ↔
        (∀ l ∈ lines text, 4 ≤ (rtFields l).length) ∧ (text = [] → prev = []))) := by
  rcases hload : loadRtLines inetAton b false prev (lines text) with ⟨rc, table⟩
  refine ⟨rc, table, ?_, ?_⟩
  · rw [srLoadRt, loadRtLoop_eq hlines (length_lines_le text), hload]
  rintro rfl
  rw [FaithfulTable]
  rcases length_loadRtLines hload with ⟨hnil, rfl⟩ | ⟨hne, hlen⟩
  · obtain rfl := lines_eq_nil_iff.1 hnil
    simp [lines]
  rw [if_neg Bool.false_ne_true, Nat.zero_add] at hlen
  have hall : (∀ l ∈ lines text, rtFields l ≠ []) →
      (lines text).filter (fun l => rtFields l ≠ []) = lines text := by
    intro h
    exact List.filter_eq_self.2 (by simpa using h)
  constructor
  · -- there are as many entries as lines, so that none of them is blank
    intro h
    have hfull : ((lines text).filter fun l => rtFields l ≠ []).length = (lines text).length :=
      h.length_eq.trans hlen
    rw [List.length_filter_eq_length_iff] at hfull
    rw [hall (by simpa using hfull)] at h
    exact ⟨four_le_of_forall₂ h, fun htext => absurd (lines_eq_nil_iff.2 htext) hne⟩
  · rintro ⟨hfour, -⟩
    obtain ⟨entries, htable, hentries⟩ := forall₂_loadRtLines hload hfour hshort hne
    rw [if_neg Bool.false_ne_true, List.nil_append] at htable
    rw [htable, hall]
    · exact hentries
    · intro l hl hnil
      have := hfour l hl
      rw [hnil] at this
      simp at this

end Load

/-! ### Samples -/

/-- The value of a string of decimal digits, as a byte. -/
def decimalByte (l : List UInt8) : Option UInt8 :=
  if l ≠ [] ∧ l.all (fun c => 48 ≤ c ∧ c ≤ 57) ∧
      l.foldl (fun n c => n * 10 + (c.toNat - 48)) 0 < 256 then
    some (UInt8.ofNat (l.foldl (fun n c => n * 10 + (c.toNat - 48)) 0))
  else none

/-- `inet_aton` on addresses of four decimal numbers. -/
def dottedQuad (l : List UInt8) : Option Ip :=
  match (l.splitOnP (· = 46)).map decimalByte with
  | [some a, some b, some c, some d] => some ⟨a, b, c, d⟩
  | _ => none

/-- The line `10.0.0.n 0.0.0.0 255.255.255.255 eth0`. -/
def sampleRtLine (n : UInt8) : List UInt8 :=
  [49, 48, 46, 48, 46, 48, 46, 48 + n, 32, 48, 46, 48, 46, 48, 46, 48, 32]
    ++ [50, 53, 53, 46, 50, 53, 53, 46, 50, 53, 53, 46, 50, 53, 53, 32, 101, 116, 104, 48, 10]

/-- Two lines replace the old table. -/
theorem load_rt_faithful_iff_sample :
    ∃ table, srLoadRt dottedQuad 8192 ⟨[], [], [], []⟩ sampleRoutes
        (some (sampleRtLine 2 ++ sampleRtLine 3)) = some (0, table) ∧
      FaithfulTable dottedQuad (sampleRtLine 2 ++ sampleRtLine 3) table := by
  obtain ⟨rc, table, heq, hiff⟩ := load_rt_faithful_iff dottedQuad 8192 ⟨[], [], [], []⟩
    sampleRoutes (sampleRtLine 2 ++ sampleRtLine 3) (by decide +kernel) (by decide +kernel)
  have hrc : (srLoadRt dottedQuad 8192 ⟨[], [], [], []⟩ sampleRoutes
      (some (sampleRtLine 2 ++ sampleRtLine 3))).map Prod.fst = some 0 := by
    decide +kernel
  obtain rfl : rc = 0 := by
    rw [heq] at hrc
    exact Option.some_injective _ hrc
  exact ⟨table, heq, (hiff rfl).2 ⟨by decide +kernel, by decide +kernel⟩⟩

/-- A blank line behind a route loads the route a second time. -/
theorem blank_line_repeats_route :
    srLoadRt dottedQuad 8192 ⟨[], [], [], []⟩ [] (some (sampleRtLine 2 ++ [10])) =
      some (0, [⟨sampleIp 0 2, 0, ⟨255, 255, 255, 255⟩, sampleName 0⟩,
        ⟨sampleIp 0 2, 0, ⟨255, 255, 255, 255⟩, sampleName 0⟩]) ∧
    ¬ FaithfulTable dottedQuad (sampleRtLine 2 ++ [10])
      [⟨sampleIp 0 2, 0, ⟨255, 255, 255, 255⟩, sampleName 0⟩,
        ⟨sampleIp 0 2, 0, ⟨255, 255, 255, 255⟩, sampleName 0⟩] := by
  refine ⟨by decide +kernel, ?_⟩
  intro h
  have hlen := h.length_eq
  exact absurd hlen (by decide +kernel)

end SimpleRouter
