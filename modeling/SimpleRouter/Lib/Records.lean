/-
Files that consist of records.

A record begins with a header of a fixed size, which says how many elements follow.  A
program writes one record after the other and may stop in the middle of one.  The reader
then finds the records that were finished and nothing else.
-/
import SimpleRouter.Lib.Bytes

namespace Records

open Bytes

/-- Headers with the contents `μ`. -/
structure Header (μ α : Type*) where
  size : ℕ
  pos : 0 < size
  encode : μ → List α
  decode : List α → μ
  /-- The number of elements that follow the header. -/
  payload : μ → ℕ
  /-- The contents that are stored as they are. -/
  Valid : μ → Prop
  length_encode : ∀ m, (encode m).length = size
  decode_encode : ∀ m, Valid m → decode (encode m) = m

variable {μ α : Type*} {h : Header μ α} {l : List α}

/-- A header, and what it announces. -/
structure Record (h : Header μ α) where
  info : μ
  data : List α
  valid : h.Valid info
  length : data.length = h.payload info

namespace Record

variable (r : Record h)

/-- The elements of the record. -/
def flat : List α := h.encode r.info ++ r.data

/-- What a reader gets. -/
def pair : μ × List α := (r.info, r.data)

lemma length_flat : r.flat.length = h.size + h.payload r.info := by
  rw [flat, List.length_append, h.length_encode, r.length]

lemma decode_take_flat (l : List α) : h.decode ((r.flat ++ l).take h.size) = r.info := by
  rw [flat, List.append_assoc, List.take_left' (h.length_encode r.info),
    h.decode_encode _ r.valid]

lemma data_of_flat (l : List α) : slice (r.flat ++ l) h.size (h.payload r.info) = r.data := by
  rw [slice, flat, List.append_assoc, List.drop_left' (h.length_encode r.info),
    List.take_left' r.length]

lemma drop_flat (l : List α) : (r.flat ++ l).drop (h.size + h.payload r.info) = l :=
  List.drop_left' r.length_flat

end Record

/-- One record after the other. -/
def write (rs : List (Record h)) : List α := rs.flatMap Record.flat

/-- Read records as long as they are complete. -/
def readFrom (h : Header μ α) : ℕ → List α → List (μ × List α)
  | 0, _ => []
  | fuel + 1, l =>
      let info := h.decode (l.take h.size)
      if l.length < h.size ∨ l.length < h.size + h.payload info then []
      else (info, slice l h.size (h.payload info))
        :: readFrom h fuel (l.drop (h.size + h.payload info))

/-- Read all records. -/
def read (h : Header μ α) (l : List α) : List (μ × List α) := readFrom h l.length l

/-- There are no more records than elements. -/
lemma readFrom_eq {fuel : ℕ} (hfuel : l.length ≤ fuel) : readFrom h fuel l = read h l := by
  induction fuel using Nat.strong_induction_on generalizing l with
  | h fuel ih =>
      cases fuel with
      | zero =>
          obtain rfl := List.length_eq_zero_iff.1 (Nat.le_zero.1 hfuel)
          rfl
      | succ fuel =>
          cases hlen : l.length with
          | zero =>
              have hpos := h.pos
              rw [read, hlen, readFrom, readFrom, if_pos (Or.inl (by omega))]
          | succ n =>
              rw [read, hlen, readFrom, readFrom]
              by_cases hshort : l.length < h.size ∨ l.length < h.size + h.payload (h.decode (l.take h.size))
              · rw [if_pos hshort, if_pos hshort]
              · rw [if_neg hshort, if_neg hshort]
                have hpos := h.pos
                have hdrop : (l.drop (h.size + h.payload (h.decode (l.take h.size)))).length ≤ n := by
                  rw [List.length_drop]
                  omega
                rw [ih fuel (by omega) (by omega)]
                congr 1
                rcases Nat.lt_or_ge n (fuel + 1) with hn | hn
                · exact (ih n hn hdrop).symm
                · omega

lemma read_flat_append (r : Record h) (l : List α) :
    read h (r.flat ++ l) = r.pair :: read h l := by
  have hlen : (r.flat ++ l).length = h.size + h.payload r.info + l.length := by
    rw [List.length_append, r.length_flat]
  have hpos := h.pos
  obtain ⟨n, hn⟩ : ∃ n, (r.flat ++ l).length = n + 1 := ⟨(r.flat ++ l).length - 1, by omega⟩
  rw [read, hn, readFrom]
  simp only [r.decode_take_flat, r.data_of_flat, r.drop_flat]
  rw [if_neg (by omega), readFrom_eq (by omega)]
  rfl

/-- A record that is not complete is not read. -/
lemma read_of_prefix (r : Record h) (hpre : l <+: r.flat) (hlt : l.length < r.flat.length) :
    read h l = [] := by
  obtain ⟨more, hmore⟩ := hpre
  rw [r.length_flat] at hlt
  cases hlen : l.length with
  | zero => rw [read, hlen, readFrom]
  | succ n =>
      rw [read, hlen, readFrom]
      by_cases hshort : l.length < h.size
      · rw [if_pos (Or.inl hshort)]
      · have htake : l.take h.size = (r.flat ++ []).take h.size := by
          rw [List.append_nil, ← hmore, List.take_append_of_le_length (by omega)]
        rw [htake, r.decode_take_flat, if_pos (Or.inr (by omega))]

lemma read_nil : read h [] = [] := rfl

lemma read_write_append (rs : List (Record h)) (l : List α) :
    read h (write rs ++ l) = rs.map Record.pair ++ read h l := by
  induction rs with
  | nil => rfl
  | cons r rs ih =>
      rw [write, List.flatMap_cons, ← write, List.append_assoc, read_flat_append, ih]
      rfl

/-- What was written is read. -/
theorem read_write (rs : List (Record h)) : read h (write rs) = rs.map Record.pair := by
  have hread := read_write_append rs []
  rwa [List.append_nil, read_nil, List.append_nil] at hread

/-- Of what was written in part the records are read that were finished. -/
theorem read_of_prefix_write {rs : List (Record h)} (hpre : l <+: write rs) :
    ∃ done rest, rs = done ++ rest ∧ read h l = done.map Record.pair ∧ write done <+: l ∧
      ∀ r ∈ rest.head?, l.length < (write done).length + r.flat.length := by
  induction rs generalizing l with
  | nil =>
      obtain rfl := List.prefix_nil.1 hpre
      exact ⟨[], [], rfl, rfl, List.nil_prefix, by simp⟩
  | cons r rs ih =>
      rw [write, List.flatMap_cons, ← write] at hpre
      by_cases hlt : l.length < r.flat.length
      · have hshort := List.prefix_of_prefix_length_le hpre (List.prefix_append r.flat (write rs)) hlt.le
        refine ⟨[], r :: rs, rfl, read_of_prefix r hshort hlt, List.nil_prefix, ?_⟩
        intro r' hr'
        obtain rfl : r = r' := by simpa using hr'
        simpa [write] using hlt
      · obtain ⟨l, rfl⟩ := List.prefix_of_prefix_length_le (List.prefix_append r.flat (write rs)) hpre
          (not_lt.1 hlt)
        obtain ⟨done, rest, rfl, hread, hdone, hrest⟩ := ih ((List.prefix_append_right_inj _).1 hpre)
        refine ⟨r :: done, rest, rfl, ?_, ?_, ?_⟩
        · rw [read_flat_append, hread]
          rfl
        · rw [write, List.flatMap_cons]
          exact (List.prefix_append_right_inj _).2 hdone
        · intro r' hr'
          have hlast := hrest r' hr'
          have hcons : (write (r :: done)).length = r.flat.length + (write done).length := by
            rw [write, List.flatMap_cons, List.length_append, ← write]
          rw [List.length_append, hcons]
          omega

end Records
