import Mathlib.Data.List.DropRight
import Mathlib.Data.List.TakeWhile

/-!
# Tables in text

A row prints its cells with a separator behind each. A reader splits the line at the separators and
strips the pieces. It gets the cells back as long as they contain neither separators nor blanks.
-/

namespace Columns

variable {α : Type} (space : α → Bool)

/-! ### Stripping -/

/-- Remove the blanks on both sides. -/
def strip (l : List α) : List α := (l.dropWhile space).rdropWhile space

variable {space} {l l' cell : List α}

lemma strip_append_left (h : ∀ a ∈ l, space a = true) : strip space (l ++ l') = strip space l' := by
  rw [strip, List.dropWhile_append_of_pos h, strip]

/-- Nothing is removed from a cell without blanks, and what is around it does not matter. -/
lemma strip_append_right (hcell : ∀ a ∈ cell, space a = false) (h : ∀ a ∈ l, space a = true) :
    strip space (cell ++ l) = cell := by
  have hnone : ∀ c : List α, (∀ a ∈ c, space a = false) → c.dropWhile space = c := by
    rintro (_ | ⟨a, c⟩) hc
    · rfl
    · exact List.dropWhile_cons_of_neg (by simp [hc a])
  rcases cell with _ | ⟨a, cell⟩
  · rw [List.nil_append, strip, List.dropWhile_eq_nil_iff.mpr h]
    rfl
  · have hkept : (a :: cell ++ l).dropWhile space = a :: cell ++ l :=
      List.dropWhile_cons_of_neg (by simp [hcell a])
    rw [strip, hkept, List.rdropWhile, List.reverse_append,
      List.dropWhile_append_of_pos (by simpa using h),
      hnone _ fun b hb => hcell b (List.mem_reverse.mp hb), List.reverse_reverse]

/-- What is no blank is kept. -/
lemma mem_strip {a : α} (h : a ∈ l) (ha : space a = false) : a ∈ strip space l := by
  have hkept : ∀ c : List α, a ∈ c → a ∈ c.dropWhile space := by
    intro c hc
    rw [← List.takeWhile_append_dropWhile (p := space) (l := c), List.mem_append] at hc
    rcases hc with hc | hc
    · exact absurd (List.mem_takeWhile_imp hc) (by simp [ha])
    · exact hc
  rw [strip, List.rdropWhile, List.mem_reverse]
  exact hkept _ (List.mem_reverse.mpr (hkept l h))

/-! ### Rows -/

section

variable (blank sep : α)

/-- Each cell with a blank in front, filled up with blanks to its width, and the separator. -/
def row (cells : List (ℕ × List α)) : List α :=
  cells.flatMap fun cell => blank :: (cell.2.rightpad cell.1 blank ++ [blank, sep])

variable (space)

/-- The stripped pieces of a line. -/
def cells [DecidableEq α] (line : List α) : List (List α) := (line.splitOn sep).map (strip space)

end

variable [DecidableEq α] {blank sep : α}

lemma cells_of_not_mem (h : sep ∉ l) : cells space sep l = [strip space l] := by
  rw [cells, List.splitOn_eq_singleton h]
  rfl

lemma cells_append_sep (h : sep ∉ l) :
    cells space sep (l ++ sep :: l') = strip space l :: cells space sep l' := by
  rw [cells, List.splitOn_append_cons_self_of_not_mem h]
  rfl

/-- A text that survives as a cell. -/
def Plain (space : α → Bool) (sep : α) (text : List α) : Prop :=
  ∀ a ∈ text, a ≠ sep ∧ space a = false

/-- One column is read back, with or without the blank in front. -/
lemma cells_column (hblank : space blank = true) (hsep : blank ≠ sep) {text pre rest : List α}
    (htext : Plain space sep text) (hpre : ∀ a ∈ pre, a = blank) (w : ℕ) :
    cells space sep (pre ++ (text.rightpad w blank ++ [blank, sep]) ++ rest) =
      text :: cells space sep rest := by
  have hmem : ∀ a ∈ List.replicate (w - text.length) blank ++ [blank], a = blank := by
    intro a ha
    rw [List.mem_append, List.mem_replicate, List.mem_singleton] at ha
    exact ha.elim And.right id
  have hline : pre ++ (text.rightpad w blank ++ [blank, sep]) ++ rest =
      (pre ++ (text ++ (List.replicate (w - text.length) blank ++ [blank]))) ++ sep :: rest := by
    simp [List.rightpad]
  rw [hline, cells_append_sep, strip_append_left fun a ha => hpre a ha ▸ hblank,
    strip_append_right (fun a ha => (htext a ha).2) fun a ha => hmem a ha ▸ hblank]
  intro hin
  rw [List.mem_append, List.mem_append] at hin
  rcases hin with h | h | h
  · exact hsep (hpre _ h).symm
  · exact (htext _ h).1 rfl
  · exact hsep (hmem _ h).symm

/-- The cells of a row are read back. The line ends with an empty piece. -/
theorem cells_row (hblank : space blank = true) (hsep : blank ≠ sep) {cs : List (ℕ × List α)}
    (hcs : ∀ c ∈ cs, Plain space sep c.2) :
    cells space sep (row blank sep cs) = cs.map Prod.snd ++ [[]] := by
  induction cs with
  | nil => rfl
  | cons c cs ih =>
    rw [List.forall_mem_cons] at hcs
    rw [row, List.flatMap_cons, ← List.singleton_append,
      cells_column hblank hsep hcs.1 (by simp), ← row, ih hcs.2]
    rfl

/-- So are those of a row without the blank at the beginning. -/
theorem cells_tail_row (hblank : space blank = true) (hsep : blank ≠ sep) {cs : List (ℕ × List α)}
    (hcs : ∀ c ∈ cs, Plain space sep c.2) :
    cells space sep (row blank sep cs).tail = cs.map Prod.snd ++ [[]] := by
  cases cs with
  | nil => rfl
  | cons c cs =>
    rw [List.forall_mem_cons] at hcs
    rw [row, List.flatMap_cons, List.cons_append, List.tail_cons, ← List.nil_append (_ ++ _),
      ← List.append_assoc, cells_column hblank hsep hcs.1 (by simp), ← row,
      cells_row hblank hsep hcs.2]
    rfl

end Columns
