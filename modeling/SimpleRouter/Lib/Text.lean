/-
Texts as the C library reads them: line by line with `fgets`, and a line word by word
with the conversion `%s` of `sscanf`.

`lines` and `words` say what the lines of a text and the words of a line are.
`fgets_of_lines` and `words_eq` connect the two functions with them: as long as the lines
are shorter than the buffer, `fgets` returns one after the other, and `%s` takes one word
at a time.
-/
import Mathlib

namespace CText

/-! ### Lines -/

/-- The lines of a text, each with its newline, which the last one may lack. -/
def lines : List UInt8 → List (List UInt8)
  | [] => []
  | c :: text =>
      if c = 10 then [c] :: lines text
      else
        match lines text with
        | [] => [[c]]
        | l :: ls => (c :: l) :: ls

/-- At most `n` characters, and none behind a newline; and the rest of the text. -/
def takeLine : ℕ → List UInt8 → List UInt8 × List UInt8
  | 0, text => ([], text)
  | _ + 1, [] => ([], [])
  | n + 1, c :: text =>
      if c = 10 then ([c], text) else ((c :: (takeLine n text).1), (takeLine n text).2)

/-- `fgets(line, size, fp)`: the line, which has room for a terminator, and what is left to
be read; `none` at the end of the file. -/
def fgets (size : ℕ) (text : List UInt8) : Option (List UInt8 × List UInt8) :=
  if text = [] then none else some (takeLine (size - 1) text)

lemma lines_eq_nil_iff {text : List UInt8} : lines text = [] ↔ text = [] := by
  cases text with
  | nil => simp [lines]
  | cons c text =>
      rw [lines]
      split_ifs
      · simp
      · cases lines text with
        | nil => simp
        | cons l ls => simp

lemma length_lines_le (text : List UInt8) : (lines text).length ≤ text.length := by
  induction text with
  | nil => simp [lines]
  | cons c text ih =>
      rw [lines]
      split_ifs
      · simpa using ih
      · cases hls : lines text with
        | nil => simp
        | cons l ls =>
            rw [hls] at ih
            simp only [List.length_cons] at ih ⊢
            omega

lemma takeLine_of_lines {text l : List UInt8} {ls : List (List UInt8)} {n : ℕ}
    (h : lines text = l :: ls) (hn : l.length ≤ n) :
    (takeLine n text).1 = l ∧ lines (takeLine n text).2 = ls := by
  induction text generalizing l ls n with
  | nil => simp [lines] at h
  | cons c text ih =>
      rw [lines] at h
      split_ifs at h with hc
      · obtain ⟨rfl, rfl⟩ := List.cons.inj h
        obtain ⟨n, rfl⟩ : ∃ k, n = k + 1 := ⟨n - 1, by simp at hn; omega⟩
        rw [takeLine, if_pos hc]
        exact ⟨rfl, rfl⟩
      · cases hls : lines text with
        | nil =>
            -- the line ends with the text
            obtain rfl := lines_eq_nil_iff.1 hls
            rw [hls] at h
            obtain ⟨rfl, rfl⟩ := List.cons.inj h
            obtain ⟨n, rfl⟩ : ∃ k, n = k + 1 := ⟨n - 1, by simp at hn; omega⟩
            rw [takeLine, if_neg hc]
            cases n <;> simp [takeLine, lines]
        | cons l' ls' =>
            rw [hls] at h
            obtain ⟨rfl, rfl⟩ := List.cons.inj h
            obtain ⟨n, rfl⟩ : ∃ k, n = k + 1 := ⟨n - 1, by simp at hn; omega⟩
            obtain ⟨hfst, hsnd⟩ := ih hls (n := n) (by simpa using hn)
            rw [takeLine, if_neg hc, hfst]
            exact ⟨rfl, hsnd⟩

/-- A line that is shorter than the buffer is read as it is. -/
theorem fgets_of_lines {text l : List UInt8} {ls : List (List UInt8)} {size : ℕ}
    (h : lines text = l :: ls) (hsize : l.length < size) :
    ∃ rest, fgets size text = some (l, rest) ∧ lines rest = ls := by
  obtain ⟨hfst, hsnd⟩ := takeLine_of_lines h (show l.length ≤ size - 1 by omega)
  have hne : text ≠ [] := by
    rintro rfl
    simp [lines] at h
  exact ⟨(takeLine (size - 1) text).2, by rw [fgets, if_neg hne, ← hfst], hsnd⟩

/-! ### Words -/

/-- `isspace`: blank, tab, newline, vertical tab, form feed and carriage return. -/
def isSpace (c : UInt8) : Bool := c = 32 ∨ 9 ≤ c ∧ c ≤ 13

/-- The words of a line. -/
def words (line : List UInt8) : List (List UInt8) :=
  (line.splitOnP isSpace).filter (· ≠ [])

/-- The conversion `%s`: the next word, and what is left of the line. -/
def scanWord (line : List UInt8) : Option (List UInt8 × List UInt8) :=
  let line := line.dropWhile isSpace
  if line = [] then none
  else some (line.takeWhile (fun c => !isSpace c), line.dropWhile fun c => !isSpace c)

/-- White space in front of a line does not count. -/
lemma words_dropWhile (line : List UInt8) : words (line.dropWhile isSpace) = words line := by
  induction line with
  | nil => rfl
  | cons c line ih =>
      by_cases hc : isSpace c
      · rw [List.dropWhile_cons_of_pos hc, ih, words, words,
          List.splitOnP_cons_eq_if_modifyHead, if_pos hc]
        simp
      · rw [List.dropWhile_cons_of_neg hc]

/-- A word is made of characters of its line. -/
lemma mem_of_mem_words {line w : List UInt8} (hw : w ∈ words line) {c : UInt8} (hc : c ∈ w) :
    c ∈ line := by
  replace hw := (List.mem_filter.1 hw).1
  induction line generalizing w with
  | nil =>
      rw [List.splitOnP_nil, List.mem_singleton] at hw
      exact hw ▸ hc
  | cons x line ih =>
      rw [List.splitOnP_cons_eq_if_modifyHead] at hw
      split_ifs at hw with hx
      · rcases List.mem_cons.1 hw with rfl | hw
        · simp at hc
        · exact List.mem_cons_of_mem _ (ih hc hw)
      · obtain ⟨l, ls, hls⟩ := List.exists_cons_of_ne_nil (List.splitOnP_ne_nil isSpace line)
        rw [hls, List.modifyHead_cons] at hw
        rcases List.mem_cons.1 hw with rfl | hw
        · rcases List.mem_cons.1 hc with rfl | hc
          · exact List.mem_cons_self
          · exact List.mem_cons_of_mem _ (ih hc (by simp [hls]))
        · exact List.mem_cons_of_mem _ (ih hc (by simp [hls, hw]))

lemma words_append {w rest : List UInt8} (hw : w ≠ []) (hin : ∀ c ∈ w, isSpace c = false)
    (hrest : ∀ c, rest.head? = some c → isSpace c = true) : words (w ++ rest) = w :: words rest := by
  cases rest with
  | nil =>
      rw [List.append_nil, words, List.splitOnP_eq_singleton hin]
      simp [hw, words]
  | cons c rest =>
      have hc := hrest c rfl
      rw [words, List.splitOnP_append_cons_of_forall_mem hin c hc,
        List.filter_cons_of_pos (by simpa using hw), words, List.splitOnP_cons_eq_if_modifyHead,
        if_pos hc]
      simp

/-- The words of a line are what `%s` finds, one after the other. -/
theorem words_eq (line : List UInt8) :
    words line = match scanWord line with
      | none => []
      | some (w, rest) => w :: words rest := by
  rw [← words_dropWhile, scanWord]
  cases hline : line.dropWhile isSpace with
  | nil => rfl
  | cons c l =>
      have hc : isSpace c = false := by
        have := List.head?_dropWhile_not isSpace line
        rw [hline] at this
        simpa using this
      have hne : (c :: l).takeWhile (fun c => !isSpace c) ≠ [] := by
        rw [List.takeWhile_cons_of_pos (by simp [hc])]
        simp
      have hin : ∀ x ∈ (c :: l).takeWhile (fun c => !isSpace c), isSpace x = false := by
        intro x hx
        simpa using List.mem_takeWhile_imp hx
      have hrest : ∀ x, ((c :: l).dropWhile fun c => !isSpace c).head? = some x →
          isSpace x = true := by
        intro x hx
        have := List.head?_dropWhile_not (fun c => !isSpace c) (c :: l)
        rw [hx] at this
        simpa using this
      simp only [reduceCtorEq, if_false]
      rw [← words_append hne hin hrest, List.takeWhile_append_dropWhile]

end CText
