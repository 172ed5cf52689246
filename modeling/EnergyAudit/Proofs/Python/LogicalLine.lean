import EnergyAudit.Proofs.Python.Earliest

/-!
# Logical lines

Several statements may share a logical line: a statement may follow a semicolon, or the colon of a
header.  Such a statement has no indentation of its own, and nothing is said of it as long as it
stands on the line of the text before it.  But a backslash may join the next line of the text to a
logical line.  A statement that is first on the joined line is judged by its column, like one that
begins a logical line.

## Main definitions

* `Joins` — nothing between two places ends the logical line.
* `ContinuesLine` — a place follows other code of its logical line.
* `IsFirstOnJoinedLine` — the column of a place that is first on a line that a backslash joins.

## Main results

* `Joins.isJoinedEnd` — the line ends within a logical line are joined.
* `ContinuesLine.isFirstOnLine_iff` — a place that continues a line is only first on a joined one.
* `continuation_judged` — **when a suite complains of a statement that continues a line.**
* `continuation_rejected` — such a statement for which a source is rejected.
-/

namespace EnergyAudit.Python

open EnergyAudit.Text EnergyAudit.Tree

variable {source : ByteArray} {place stop column : Nat}

/-! ### Joined lines -/

/-- A line end with a backslash right before it, which joins the next line to its own. -/
def IsJoinedEnd (source : ByteArray) (place : Nat) : Prop :=
  byteAt source place = 10 ∧
    (byteAt source (place - 1) = 92 ∨
      byteAt source (place - 1) = 13 ∧ byteAt source (place - 2) = 92)

/-- From one place up to another nothing ends the logical line: no comment begins, and each line end
is joined. -/
inductive Joins (source : ByteArray) (stop : Nat) : Nat → Prop
  | here : Joins source stop stop
  | char {place : Nat} : byteAt source place ≠ 10 → byteAt source place ≠ 35 →
      Joins source stop (place + 1) → Joins source stop place
  | lineEnd {place : Nat} : byteAt source place = 92 → byteAt source (place + 1) = 10 →
      Joins source stop (place + 2) → Joins source stop place
  | returnAndLineEnd {place : Nat} : byteAt source place = 92 → byteAt source (place + 1) = 13 →
      byteAt source (place + 2) = 10 → Joins source stop (place + 3) → Joins source stop place

/-- The line ends within a logical line are joined. -/
theorem Joins.isJoinedEnd (h : Joins source stop place) {i : Nat} (hle : place ≤ i) (hlt : i < stop)
    (hi : byteAt source i = 10) : IsJoinedEnd source i := by
  induction h with
  | here => exact absurd hlt (Nat.not_lt_of_le hle)
  | @char place hend _ _ ih =>
    rcases Nat.lt_or_eq_of_le hle with hlt | rfl
    · exact ih hlt
    · exact absurd hi hend
  | @lineEnd place hslash hend _ ih =>
    rcases Nat.lt_or_ge i (place + 2) with hnear | hfar
    · obtain rfl | rfl : i = place ∨ i = place + 1 := by omega
      · rw [hslash] at hi
        cases hi
      · exact ⟨hend, .inl hslash⟩
    · exact ih hfar
  | @returnAndLineEnd place hslash hreturn hend _ ih =>
    rcases Nat.lt_or_ge i (place + 3) with hnear | hfar
    · obtain rfl | rfl | rfl : i = place ∨ i = place + 1 ∨ i = place + 2 := by omega
      · rw [hslash] at hi
        cases hi
      · rw [hreturn] at hi
        cases hi
      · exact ⟨hend, .inr ⟨hreturn, hslash⟩⟩
    · exact ih hfar

/-- A semicolon, which separates statements, or a colon, behind which a statement may stand. -/
def IsSeparator (byte : Nat) : Prop := byte = 59 ∨ byte = 58

/-- A place follows other code of its logical line: a separator is before it on that line. -/
def ContinuesLine (source : ByteArray) (place : Nat) : Prop :=
  ∃ i < place, IsSeparator (byteAt source i) ∧ Joins source place i

/-- A place is the first but for indentation, in a column, on a line that a backslash joins to the
one before. -/
def IsFirstOnJoinedLine (source : ByteArray) (place column : Nat) : Prop :=
  ∃ lineEnd, IsJoinedEnd source lineEnd ∧ place = lineEnd + 1 + column ∧
    ∀ i, lineEnd < i → i < place → isIndentByte (byteAt source i) = true

theorem IsFirstOnJoinedLine.isFirstOnLine (h : IsFirstOnJoinedLine source place column) :
    IsFirstOnLine source place column := by
  obtain ⟨lineEnd, hend, hplace, hindent⟩ := h
  refine ⟨lineEnd + 1, ⟨by omega, .inr hend.1, fun i hle hlt heq => ?_⟩, hplace, hindent⟩
  have hi := hindent i hle hlt
  rw [heq] at hi
  cases hi

/-- A place that continues a logical line is first on a line only if that line is joined. -/
theorem ContinuesLine.isFirstOnLine_iff (h : ContinuesLine source place) :
    IsFirstOnLine source place column ↔ IsFirstOnJoinedLine source place column := by
  refine ⟨?_, IsFirstOnJoinedLine.isFirstOnLine⟩
  rintro ⟨start, hstart, hplace, hindent⟩
  obtain ⟨i, hlt, hseparator, hjoins⟩ := h
  -- The separator is before the line of the place, since it is no indentation.
  have hbefore : i < start := by
    refine Nat.lt_of_not_le fun hle => ?_
    have hi := hindent i hle hlt
    rcases hseparator with hi' | hi' <;> rw [hi'] at hi <;> cases hi
  have hend : byteAt source (start - 1) = 10 := hstart.behind.resolve_left (by omega)
  refine ⟨start - 1, hjoins.isJoinedEnd (by omega) (by omega) hend, by omega, fun j hle hlt => ?_⟩
  exact hindent j (by omega) hlt

/-! ### Statements that continue a line -/

variable {outer : Option Nat}

/-- A suite complains only about statements that are first on their lines. -/
theorem IsMisplaced.exists_isFirstOnLine {former : List Node} {n : Node}
    {complaint : SourceComplaint} (h : IsMisplaced source outer former n complaint) :
    ∃ column, IsFirstOnLine source n.startByte column := by
  cases h with
  | indented _ hfirst => exact ⟨_, hfirst⟩
  | unindented _ hfirst => exact ⟨_, hfirst⟩
  | further _ hfirst => exact ⟨_, hfirst⟩
  | nearer _ hfirst => exact ⟨_, hfirst⟩

/-- **When a suite complains of a statement that continues a logical line.**  As long as no
backslash makes the statement the first on a line of the text, there is no violation at its place.
If one does, the statement is judged by its column there, against the column that the statements
before it agree on and the indentation around the suite. -/
theorem continuation_judged (p : ParsedSource) {v : Visit} (hsuite : IsSuite p.source v outer)
    {n : Node} (hn : n ∈ statementsOf v.node) (hcontinues : ContinuesLine p.source n.startByte) :
    ((∀ column, ¬ IsFirstOnJoinedLine p.source n.startByte column) →
      ∀ r ∈ violationsAt p.source v, r.byte ≠ n.startByte) ∧
    ∀ column, IsFirstOnJoinedLine p.source n.startByte column →
      ∀ former latter, statementsOf v.node = former ++ n :: latter →
        ∀ complaint,
          columnComplaint? outer (agreedColumn? p.source outer former) column = some complaint →
            .at n complaint ∈ violationsAt p.source v := by
  have hviolations : violationsAt p.source v =
      columnViolations p.source outer (agreedColumn? p.source outer []) (statementsOf v.node) := by
    rw [hsuite.violationsAt_eq, suiteViolations_of_ne_nil (List.ne_nil_of_mem hn)]
  rw [hviolations]
  constructor
  · rintro hnot r hr hbyte
    obtain ⟨here, rest, hr⟩ := List.append_of_mem hr
    obtain ⟨former, m, latter, complaint, -, hmisplaced, rfl, -⟩ :=
      columnViolations_eq_append_cons hr
    obtain ⟨column, hfirst⟩ := hmisplaced.exists_isFirstOnLine
    rw [show m.startByte = n.startByte from hbyte, hcontinues.isFirstOnLine_iff] at hfirst
    exact hnot column hfirst
  · intro column hfirst former latter hsplit complaint hcomplaint
    rw [hsplit]
    refine at_mem_columnViolations (complaintBehind?_eq_some_iff.mp ?_)
    rw [complaintBehind?, leadingColumn?_eq_some_iff.mpr hfirst.isFirstOnLine]
    exact hcomplaint

/-! ### Two statements on a line -/

namespace TwoStatements

def node (kind : String) (isNamed : Bool) (field : Option String) (start stop : Point)
    (children : List Node) : Node :=
  .mk ⟨kind, isNamed, field, start, stop, false, false, false⟩ children

/-- A statement that gives a number to a name, at a place. -/
def assignment (byte row column : Nat) : Node :=
  let point (i : Nat) : Point := ⟨byte + i, row, column + i⟩
  node "expression_statement" true none (point 0) (point 5)
    [node "assignment" true none (point 0) (point 5)
      [node "identifier" true (some "left") (point 0) (point 1) [],
        node "=" false none (point 2) (point 3) [],
        node "integer" true (some "right") (point 4) (point 5) []]]

def semicolon : Node := node ";" false none ⟨5, 0, 5⟩ ⟨6, 0, 6⟩ []

/-- Two statements on one line of the text. -/
def plain : ParsedSource :=
  ⟨"x = 1; y = 2\n".toUTF8,
    node "module" true none ⟨0, 0, 0⟩ ⟨13, 1, 0⟩
      [assignment 0 0 0, semicolon, assignment 7 0 7]⟩

/-- Two statements on two lines of the text that a backslash joins. -/
def joined : ParsedSource :=
  ⟨"x = 1; \\\n  y = 2\n".toUTF8,
    node "module" true none ⟨0, 0, 0⟩ ⟨17, 2, 0⟩
      [assignment 0 0 0, semicolon, node "line_continuation" true none ⟨7, 0, 7⟩ ⟨9, 1, 0⟩ [],
        assignment 11 1 2]⟩

/-- Nothing is said of the second of two statements on one line. -/
theorem continuation_judged_plain :
    let v : Visit := ⟨plain.root, [], none⟩
    IsSuite plain.source v none ∧ assignment 7 0 7 ∈ statementsOf plain.root ∧
      ContinuesLine plain.source 7 ∧ (∀ column, ¬ IsFirstOnJoinedLine plain.source 7 column) ∧
      ∀ r ∈ violationsAt plain.source v, r.byte ≠ 7 := by
  intro v
  have hsuite : IsSuite plain.source v none := .module rfl
  have hmem : assignment 7 0 7 ∈ statementsOf plain.root := by
    rw [mem_statementsOf]
    exact ⟨by simp [plain, node, Node.children], rfl, by decide⟩
  have hcontinues : ContinuesLine plain.source 7 :=
    ⟨5, by decide, .inl (by decide +kernel), .char (by decide +kernel) (by decide +kernel)
      (.char (by decide +kernel) (by decide +kernel) .here)⟩
  have hnot : ∀ column, ¬ IsFirstOnJoinedLine plain.source 7 column := by
    intro column hfirst
    have hcolumn := leadingColumn?_eq_some_iff.mpr hfirst.isFirstOnLine
    rw [show leadingColumn? plain.source 7 = none by decide +kernel] at hcolumn
    cases hcolumn
  exact ⟨hsuite, hmem, hcontinues, hnot, (continuation_judged plain hsuite hmem hcontinues).1 hnot⟩

/-- The second of two statements is rejected where a backslash makes it the first on a line, though
there is no fault in the tree. -/
theorem continuation_rejected :
    (∀ v ∈ joined.root.tour, v.node.isFault = false) ∧
      assignment 11 1 2 ∈ statementsOf joined.root ∧ ContinuesLine joined.source 11 ∧
      Violation.at (assignment 11 1 2) .unexpectedIndent ∈
        violationsAt joined.source ⟨joined.root, [], none⟩ ∧
      violationIn? joined = some (.rejected 2 3 SourceComplaint.unexpectedIndent.message) := by
  have hmem : assignment 11 1 2 ∈ statementsOf joined.root := by
    rw [mem_statementsOf]
    exact ⟨by simp [joined, node, Node.children], rfl, by decide⟩
  have hcontinues : ContinuesLine joined.source 11 :=
    ⟨5, by decide, .inl (by decide +kernel), .char (by decide +kernel) (by decide +kernel)
      (.char (by decide +kernel) (by decide +kernel) (.lineEnd (by decide +kernel)
        (by decide +kernel) (.char (by decide +kernel) (by decide +kernel)
          (.char (by decide +kernel) (by decide +kernel) .here))))⟩
  have hsuite : violationsAt joined.source ⟨joined.root, [], none⟩ =
      [.at (assignment 11 1 2) .unexpectedIndent] := by
    decide +kernel
  have hall : joined.root.tour.flatMap (violationsAt joined.source) =
      [.at (assignment 11 1 2) .unexpectedIndent] := by
    decide +kernel
  refine ⟨by decide +kernel, hmem, hcontinues, hsuite ▸ List.mem_singleton_self _, ?_⟩
  rw [violationIn?, violations_eq_tour, hall]
  rfl

end TwoStatements

end EnergyAudit.Python
