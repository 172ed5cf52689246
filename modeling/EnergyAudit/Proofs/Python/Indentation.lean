import EnergyAudit.Python.Violation

/-!
# Columns and indentation

Where the line of a place starts, what stands before the place on its line, and how far the line is
indented, told by the bytes of a text and not by a search through them.

## Main definitions

* `IsLineStart` — the start of the line of a place.
* `IsFirstOnLine` — nothing but indentation stands before a place on its line.
* `IsIndentedBy` — the width of the indentation of a line.

## Main results

* `isLineStart_iff` — the search for the start of a line finds it.
* `leadingColumn?_eq_some_iff` — the column of a place that is first on its line.
* `isIndentedBy_iff` — the width of the indentation of a line.
* `column_agrees_with_indent` — **the two measures agree.**
-/

namespace EnergyAudit.Python

open EnergyAudit.Text

variable {source : ByteArray} {place start column width : Nat}

/-! ### Lines -/

/-- The line of a place starts at another one: at the start of the text or behind a line end, and
there is no line end between the two. -/
structure IsLineStart (source : ByteArray) (place start : Nat) : Prop where
  le : start ≤ place
  behind : start = 0 ∨ byteAt source (start - 1) = 10
  within : ∀ i, start ≤ i → i < place → byteAt source i ≠ 10

theorem isLineStart_lineStart (source : ByteArray) (place : Nat) :
    IsLineStart source place (lineStart source place) := by
  induction place with
  | zero => exact ⟨Nat.le_refl 0, .inl rfl, fun i _ hi => absurd hi (Nat.not_lt_zero i)⟩
  | succ place ih =>
    rw [lineStart]
    split
    · next hend =>
      rw [beq_iff_eq] at hend
      exact ⟨Nat.le_refl _, .inr hend, fun i hle hlt => absurd hle (Nat.not_le_of_lt hlt)⟩
    · next hend =>
      rw [beq_iff_eq] at hend
      refine ⟨Nat.le_succ_of_le ih.le, ih.behind, fun i hle hlt => ?_⟩
      rcases Nat.lt_or_eq_of_le (Nat.le_of_lt_succ hlt) with hlt | rfl
      · exact ih.within i hle hlt
      · exact hend

/-- A place has no second line start: the later one of two would have a line end before it. -/
theorem IsLineStart.not_lt {start' : Nat} (h : IsLineStart source place start)
    (h' : IsLineStart source place start') : ¬ start < start' := by
  intro hlt
  rcases h'.behind with rfl | hend
  · exact Nat.not_lt_zero _ hlt
  · exact h.within (start' - 1) (by omega) (by have := h'.le; omega) hend

theorem IsLineStart.eq {start' : Nat} (h : IsLineStart source place start)
    (h' : IsLineStart source place start') : start = start' :=
  Nat.le_antisymm (Nat.le_of_not_lt (h'.not_lt h)) (Nat.le_of_not_lt (h.not_lt h'))

/-- The search for the start of a line finds it. -/
theorem isLineStart_iff : IsLineStart source place start ↔ start = lineStart source place := by
  constructor
  · intro h
    exact h.eq (isLineStart_lineStart source place)
  · rintro rfl
    exact isLineStart_lineStart source place

/-! ### The column of a place -/

/-- A place is the first on its line but for indentation, in a column. -/
def IsFirstOnLine (source : ByteArray) (place column : Nat) : Prop :=
  ∃ start, IsLineStart source place start ∧ place = start + column ∧
    ∀ i, start ≤ i → i < place → isIndentByte (byteAt source i) = true

theorem isIndentation_iff {stop : Nat} : isIndentation source start stop = true ↔
    ∀ i, start ≤ i → i < stop → isIndentByte (byteAt source i) = true := by
  rw [isIndentation, List.all_eq_true]
  constructor
  · intro h i hle hlt
    exact h i (List.mem_range'_1.mpr ⟨hle, by omega⟩)
  · intro h i hi
    obtain ⟨hle, hlt⟩ := List.mem_range'_1.mp hi
    exact h i hle (by omega)

theorem leadingColumn?_eq_some_iff :
    leadingColumn? source place = some column ↔ IsFirstOnLine source place column := by
  rw [leadingColumn?, Option.ite_none_right_eq_some, Option.some.injEq, isIndentation_iff]
  simp only [IsFirstOnLine, isLineStart_iff, exists_eq_left]
  have hle := (isLineStart_lineStart source place).le
  constructor
  · rintro ⟨hindent, rfl⟩
    exact ⟨(Nat.add_sub_of_le hle).symm, hindent⟩
  · rintro ⟨hplace, hindent⟩
    exact ⟨hindent, by omega⟩

/-! ### The indentation of a line -/

/-- The line of a place is indented by so many bytes. -/
def IsIndentedBy (source : ByteArray) (place width : Nat) : Prop :=
  ∃ start, IsLineStart source place start ∧
    (∀ i < width, isIndentByte (byteAt source (start + i)) = true) ∧
      isIndentByte (byteAt source (start + width)) = false

/-- There is no indentation beyond the end of a text. -/
theorem isIndentByte_of_size_le (h : source.size ≤ place) :
    isIndentByte (byteAt source place) = false := by
  rw [byteAt, dif_neg (Nat.not_lt_of_le h)]
  rfl

/-- The indentation from a place without any has no width. -/
theorem eq_zero_iff_of_not_isIndentByte (h : isIndentByte (byteAt source place) = false) :
    width = 0 ↔ (∀ i < width, isIndentByte (byteAt source (place + i)) = true) ∧
      isIndentByte (byteAt source (place + width)) = false := by
  constructor
  · rintro rfl
    exact ⟨fun i hi => absurd hi (Nat.not_lt_zero i), h⟩
  · rintro ⟨hindent, -⟩
    refine (Nat.eq_zero_or_pos width).resolve_right fun hpos => ?_
    exact Bool.eq_false_iff.mp h (hindent 0 hpos)

/-- The width counted from a place on ends where the first other byte stands. -/
theorem indentWidth_eq_iff {limit : Nat} : ∀ {place width : Nat}, source.size ≤ place + limit →
    (width = indentWidth source limit place ↔
      (∀ i < width, isIndentByte (byteAt source (place + i)) = true) ∧
        isIndentByte (byteAt source (place + width)) = false) := by
  induction limit with
  | zero =>
    intro place width hsize
    exact eq_zero_iff_of_not_isIndentByte (isIndentByte_of_size_le hsize)
  | succ limit ih =>
    intro place width hsize
    rw [indentWidth]
    cases hplace : isIndentByte (byteAt source place) with
    | false => exact eq_zero_iff_of_not_isIndentByte hplace
    | true =>
      cases width with
      | zero => simp [hplace]
      | succ width =>
        -- What is indented from here on is this byte and what is indented from the next one on.
        have hshift : ∀ i, place + 1 + i = place + (i + 1) := by omega
        have hnext : width = indentWidth source limit (place + 1) ↔ _ := ih (by omega)
        simp only [hshift] at hnext
        rw [if_pos rfl, Nat.add_right_cancel_iff, hnext]
        refine and_congr_left fun _ => ⟨fun h i hi => ?_, fun h i hi => h (i + 1) (by omega)⟩
        cases i with
        | zero => exact hplace
        | succ i => exact h i (by omega)

theorem isIndentedBy_iff : IsIndentedBy source place width ↔ width = lineIndent source place := by
  simp only [IsIndentedBy, isLineStart_iff, exists_eq_left]
  refine (indentWidth_eq_iff ?_).symm
  omega

/-! ### The two measures -/

theorem isIndentByte_iff {byte : Nat} :
    isIndentByte byte = true ↔ byte = 32 ∨ byte = 9 ∨ byte = 12 := by
  simp only [isIndentByte, Bool.or_eq_true, beq_iff_eq, or_assoc]

/-- All that is before the first place on a line belongs to the indentation of the line. -/
theorem IsFirstOnLine.le_width (h : IsFirstOnLine source place column)
    (hwidth : IsIndentedBy source place width) : column ≤ width := by
  obtain ⟨start, hstart, rfl, hindent⟩ := h
  obtain ⟨start', hstart', -, hend⟩ := hwidth
  obtain rfl := hstart'.eq hstart
  refine Nat.le_of_not_lt fun hlt => ?_
  have hbyte := hindent (start' + width) (Nat.le_add_right _ _) (by omega)
  rw [hend] at hbyte
  cases hbyte

/-- The indentation of a line ends at the first place on it just if what stands there is none. -/
theorem IsFirstOnLine.eq_width_iff (h : IsFirstOnLine source place column)
    (hwidth : IsIndentedBy source place width) :
    column = width ↔ isIndentByte (byteAt source place) = false := by
  have hle := h.le_width hwidth
  obtain ⟨start, hstart, rfl, -⟩ := h
  obtain ⟨start', hstart', hindent, hend⟩ := hwidth
  obtain rfl := hstart'.eq hstart
  constructor
  · rintro rfl
    exact hend
  · intro hbyte
    refine Nat.le_antisymm hle (Nat.le_of_not_lt fun hlt => ?_)
    rw [hindent column hlt] at hbyte
    cases hbyte

/-- The place where the indentation of a line ends is on that line, and the first on it. -/
theorem IsIndentedBy.isFirstOnLine (h : IsIndentedBy source place width) :
    IsFirstOnLine source (lineStart source place + width) width := by
  obtain ⟨start, hstart, hindent, -⟩ := h
  rw [← isLineStart_iff.mp hstart]
  have hbefore : ∀ i, start ≤ i → i < start + width →
      isIndentByte (byteAt source i) = true := by
    intro i hle hlt
    obtain ⟨k, rfl⟩ := Nat.exists_eq_add_of_le hle
    exact hindent k (by omega)
  refine ⟨start, ⟨Nat.le_add_right _ _, hstart.behind, fun i hle hlt heq => ?_⟩, rfl, hbefore⟩
  -- A line end is no indentation.
  have hi := hbefore i hle hlt
  rw [heq] at hi
  cases hi

/-- **The two measures agree.**  A place has a column just if there are only spaces, tabs and form
feeds between the start of its line and the place, and the column is their number.  The column is
never greater than the width of the indentation of the line, and equal to it just if the byte at the
place is none of the three.  On every line there is a place of that kind: where the indentation
ends, the width of the line is the column. -/
theorem column_agrees_with_indent (source : ByteArray) (place : Nat) :
    (∀ column, leadingColumn? source place = some column ↔
      ∃ start, IsLineStart source place start ∧ column = place - start ∧
        ∀ i, start ≤ i → i < place →
          byteAt source i = 32 ∨ byteAt source i = 9 ∨ byteAt source i = 12) ∧
    (∀ column, leadingColumn? source place = some column →
      column ≤ lineIndent source place ∧
        (column = lineIndent source place ↔
          ¬ (byteAt source place = 32 ∨ byteAt source place = 9 ∨ byteAt source place = 12))) ∧
    leadingColumn? source (lineStart source place + lineIndent source place) =
      some (lineIndent source place) := by
  have hwidth : IsIndentedBy source place (lineIndent source place) := isIndentedBy_iff.mpr rfl
  refine ⟨fun column => ?_, fun column hcolumn => ?_, ?_⟩
  · rw [leadingColumn?_eq_some_iff]
    simp only [IsFirstOnLine, isIndentByte_iff]
    refine exists_congr fun start => and_congr_right fun hstart => and_congr_left fun _ => ?_
    have hle := hstart.le
    omega
  · rw [leadingColumn?_eq_some_iff] at hcolumn
    refine ⟨hcolumn.le_width hwidth, ?_⟩
    rw [hcolumn.eq_width_iff hwidth, ← isIndentByte_iff, Bool.not_eq_true]
  · exact leadingColumn?_eq_some_iff.mpr hwidth.isFirstOnLine

end EnergyAudit.Python
