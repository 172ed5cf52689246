import EnergyAudit.Proofs.Python.Indentation
import EnergyAudit.Proofs.Tree.Tour

/-!
# Regular trees

The trees without violations are those in which no statement is of the second version of the
language, no block is empty, and the statements of every suite that are first on their lines stand
in one column: for a module the first one, for a block a column within its header.

## Main definitions

* `IsStatement` — the children of a suite that count.
* `Visit.headerByte` — where the node around a block starts.
* `IsRegular` — the trees of which nothing is wrong.

## Main results

* `columnViolations_some_eq_nil_iff`, `columnViolations_none_eq_nil_iff` — when the columns of a
  suite are in order.
* `violationIn?_eq_none_iff` — there is no violation just in the regular trees.
-/

namespace EnergyAudit

open EnergyAudit.Text EnergyAudit.Tree

/-- Where the node around a visited node starts; what has none around it stands at the start of the
text. -/
def Tree.Visit.headerByte (v : Visit) : Nat := (v.parent?.map Node.startByte).getD 0

namespace Python

/-! ### The columns of a suite -/

/-- A child of a module or block counts as a statement unless it is a comment or a mere token. -/
def IsStatement (n : Node) : Prop := n.info.isNamed = true ∧ n.kind ≠ "comment"

theorem mem_statementsOf {suite n : Node} :
    n ∈ statementsOf suite ↔ n ∈ suite.children ∧ IsStatement n := by
  rw [statementsOf, List.mem_filter, Bool.and_eq_true, bne_iff_ne, IsStatement]

theorem statementsOf_eq_nil_iff {suite : Node} :
    statementsOf suite = [] ↔ ¬ ∃ n ∈ suite.children, IsStatement n := by
  simp only [List.eq_nil_iff_forall_not_mem, mem_statementsOf, not_exists]

/-- The columns that a suite may stand in: the first one for a module, and for a block those behind
the indentation around it. -/
def IsSuiteColumn : Option Nat → Nat → Prop
  | none, column => column = 0
  | some width, column => width < column

theorem exists_isSuiteColumn : ∀ outer, ∃ column, IsSuiteColumn outer column
  | none => ⟨0, rfl⟩
  | some width => ⟨width + 1, Nat.lt_succ_self width⟩

/-- As long as no column has been agreed on, only those are complained of that no suite may stand
in. -/
theorem columnComplaint?_none_eq_none_iff {outer : Option Nat} {column : Nat} :
    columnComplaint? outer none column = none ↔ IsSuiteColumn outer column := by
  cases outer <;> simp [columnComplaint?, IsSuiteColumn]

variable {source : ByteArray} {outer : Option Nat}

/-- Once a column has been agreed on, all statements that are first on their lines stand in it. -/
theorem columnViolations_some_eq_nil_iff {expected : Nat} {statements : List Node} :
    columnViolations source outer (some expected) statements = [] ↔
      ∀ n ∈ statements, ∀ column, IsFirstOnLine source n.startByte column → column = expected := by
  simp only [← leadingColumn?_eq_some_iff]
  induction statements with
  | nil => simp [columnViolations]
  | cons n rest ih =>
    rw [columnViolations, List.forall_mem_cons]
    cases hcolumn : leadingColumn? source n.startByte with
    | none => simp [ih]
    | some column =>
      simp only [Option.some.injEq, forall_eq', columnComplaint?]
      rcases Nat.lt_trichotomy expected column with hlt | rfl | hlt
      · simp [hlt, Nat.ne_of_gt hlt]
      · simp [ih]
      · simp [hlt, Nat.lt_asymm hlt, Nat.ne_of_lt hlt]

/-- The columns of a suite are in order if its statements agree on one that it may stand in. -/
theorem columnViolations_none_eq_nil_iff {statements : List Node} :
    columnViolations source outer none statements = [] ↔
      ∃ expected, IsSuiteColumn outer expected ∧ ∀ n ∈ statements,
        ∀ column, IsFirstOnLine source n.startByte column → column = expected := by
  simp only [← leadingColumn?_eq_some_iff]
  induction statements with
  | nil => simp [columnViolations, exists_isSuiteColumn]
  | cons n rest ih =>
    simp only [columnViolations, List.forall_mem_cons]
    cases hcolumn : leadingColumn? source n.startByte with
    | none => simp [ih]
    | some column =>
      simp only [Option.some.injEq, forall_eq']
      -- The statement settles the column for the others, or it stands where no suite may.
      cases hcomplaint : columnComplaint? outer none column with
      | none =>
        dsimp only
        rw [Option.none_or, columnViolations_some_eq_nil_iff]
        simp only [← leadingColumn?_eq_some_iff]
        rw [columnComplaint?_none_eq_none_iff] at hcomplaint
        constructor
        · exact fun hrest => ⟨column, hcomplaint, rfl, hrest⟩
        · rintro ⟨_, -, rfl, hrest⟩
          exact hrest
      | some complaint =>
        simp only [List.cons_ne_nil, false_iff]
        rintro ⟨_, hfits, rfl, -⟩
        rw [columnComplaint?_none_eq_none_iff.mpr hfits] at hcomplaint
        cases hcomplaint

/-! ### Regular trees -/

/-- A tree of which nothing is wrong. -/
structure IsRegular (p : ParsedSource) : Prop where
  noPrint : ∀ v ∈ p.root.tour, v.node.kind ≠ "print_statement"
  noExec : ∀ v ∈ p.root.tour, v.node.kind ≠ "exec_statement"
  noBackticks : ∀ v ∈ p.root.tour, v.node.kind = "string" →
    (v.node.text p.source).toList.head? ≠ some '\x60'
  /-- No block is empty. -/
  filled : ∀ v ∈ p.root.tour, v.node.kind = "block" → ∃ n ∈ v.node.children, IsStatement n
  /-- What is first on its line in a module stands in the first column. -/
  moduleColumn : ∀ v ∈ p.root.tour, v.node.kind = "module" → ∀ n ∈ v.node.children,
    IsStatement n → ∀ column, IsFirstOnLine p.source n.startByte column → column = 0
  /-- What is first on its line in a block stands in one column with all else that is, further in
  than the line of the node around the block. -/
  blockColumn : ∀ v ∈ p.root.tour, v.node.kind = "block" → ∃ width expected,
    IsIndentedBy p.source v.headerByte width ∧ width < expected ∧ ∀ n ∈ v.node.children,
      IsStatement n → ∀ column, IsFirstOnLine p.source n.startByte column → column = expected

theorem singleton_prefix_iff_head? {c : Char} {text : List Char} :
    [c] <+: text ↔ text.head? = some c := by
  cases text with
  | nil => simp
  | cons d rest => simp [List.cons_prefix_cons, eq_comm]

theorem earliest?_eq_none_iff {vs : List Violation} : earliest? vs = none ↔ vs = [] := by
  cases vs <;> simp [earliest?]

theorem violations_eq_tour (p : ParsedSource) :
    violations p = p.root.tour.flatMap (violationsAt p.source) := by
  rw [violations, Node.visits_eq_tour]

/-- Nothing is wrong at a node that is neither of the second version nor a suite out of order. -/
theorem violationsAt_eq_nil_iff {v : Visit} : violationsAt source v = [] ↔
    v.node.kind ≠ "print_statement" ∧ v.node.kind ≠ "exec_statement" ∧
      (v.node.kind = "string" → (v.node.text source).toList.head? ≠ some '\x60') ∧
      (v.node.kind = "module" → suiteViolations source none v = []) ∧
      (v.node.kind = "block" →
        suiteViolations source (some (lineIndent source v.headerByte)) v = []) := by
  unfold violationsAt
  split
  · next hkind => simp [hkind]
  · next hkind => simp [hkind]
  · next hkind => simp [hkind, singleton_prefix_iff_head?]
  · next hkind => simp [hkind]
  · next hkind => simp [hkind, Visit.headerByte]
  · simp_all

theorem suiteViolations_eq_nil_iff {v : Visit} : suiteViolations source outer v = [] ↔
    (v.node.kind = "block" → ∃ n ∈ v.node.children, IsStatement n) ∧
      ∃ expected, IsSuiteColumn outer expected ∧ ∀ n ∈ v.node.children, IsStatement n →
        ∀ column, IsFirstOnLine source n.startByte column → column = expected := by
  have hcolumns : columnViolations source outer none (statementsOf v.node) = [] ↔ _ :=
    columnViolations_none_eq_nil_iff
  simp only [mem_statementsOf, and_imp] at hcolumns
  rw [suiteViolations, ← hcolumns]
  split
  · next hempty =>
    rw [Bool.and_eq_true, beq_iff_eq, List.isEmpty_iff, statementsOf_eq_nil_iff] at hempty
    simp [hempty]
  · next hempty =>
    rw [Bool.and_eq_true, beq_iff_eq, List.isEmpty_iff, statementsOf_eq_nil_iff] at hempty
    refine (and_iff_right fun hblock => ?_).symm
    exact not_not.mp fun hnone => hempty ⟨hblock, hnone⟩

/-- **There is no violation just in the regular trees.** -/
theorem violationIn?_eq_none_iff (p : ParsedSource) : violationIn? p = none ↔ IsRegular p := by
  have hnone : violationIn? p = none ↔ ∀ v ∈ p.root.tour, violationsAt p.source v = [] := by
    rw [violationIn?, Option.map_eq_none_iff, earliest?_eq_none_iff, violations_eq_tour,
      List.flatMap_eq_nil_iff]
  simp only [hnone, violationsAt_eq_nil_iff, suiteViolations_eq_nil_iff]
  constructor
  · intro h
    exact
      { noPrint := fun v hv => (h v hv).1
        noExec := fun v hv => (h v hv).2.1
        noBackticks := fun v hv => (h v hv).2.2.1
        filled := fun v hv hblock => ((h v hv).2.2.2.2 hblock).1 hblock
        moduleColumn := fun v hv hmodule => by
          obtain ⟨-, _, rfl, hcolumn⟩ := (h v hv).2.2.2.1 hmodule
          exact hcolumn
        blockColumn := fun v hv hblock => by
          obtain ⟨-, expected, hfits, hcolumn⟩ := (h v hv).2.2.2.2 hblock
          exact ⟨_, expected, isIndentedBy_iff.mpr rfl, hfits, hcolumn⟩ }
  · intro h v hv
    refine ⟨h.noPrint v hv, h.noExec v hv, h.noBackticks v hv, fun hmodule => ?_, fun hblock => ?_⟩
    · refine ⟨fun hblock => ?_, 0, rfl, h.moduleColumn v hv hmodule⟩
      exact absurd (hmodule.symm.trans hblock) (by decide)
    · obtain ⟨width, expected, hwidth, hfits, hcolumn⟩ := h.blockColumn v hv hblock
      obtain rfl := isIndentedBy_iff.mp hwidth
      exact ⟨fun _ => h.filled v hv hblock, expected, hfits, hcolumn⟩

end Python

end EnergyAudit
