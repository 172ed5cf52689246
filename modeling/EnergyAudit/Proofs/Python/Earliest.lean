import EnergyAudit.Proofs.Python.Regular
import EnergyAudit.Proofs.Split

/-!
# The earliest violation

The violation that a tree is rejected for is the one at the smallest byte, wherever the walk comes
across it.  Of several at that byte it is the first one that the walk meets, so that a suite may
complain of a statement before the statement and what is inside it are looked at.

## Main definitions

* `IsMisplaced` — the complaints of a suite about the columns of its statements.
* `Breaks` — what is wrong at a node, and how many statements of it are looked at before.
* `IsEarliest` — the violation that counts.

## Main results

* `IsLeftmost.foldl_earlier` — what the running minimum is, from one violation to the next.
* `mem_violationsAt_iff` — the violations found at a node are those that there are.
* `violationIn?_earliest` — a tree is rejected for its earliest violation.
-/

namespace EnergyAudit.Python

open EnergyAudit.Text EnergyAudit.Tree

variable {source : ByteArray} {outer : Option Nat}

/-! ### The running minimum -/

/-- The first of those violations that are at the smallest byte. -/
def IsLeftmost (r : Violation) (vs : List Violation) : Prop :=
  ∃ before after, vs = before ++ r :: after ∧
    (∀ s ∈ before, r.byte < s.byte) ∧ ∀ s ∈ after, r.byte ≤ s.byte

theorem IsLeftmost.byte_le {r s : Violation} {vs : List Violation} (h : IsLeftmost r vs)
    (hs : s ∈ vs) : r.byte ≤ s.byte := by
  obtain ⟨before, after, rfl, hbefore, hafter⟩ := h
  rcases List.mem_append.mp hs with hs | hs
  · exact Nat.le_of_lt (hbefore s hs)
  · rcases List.mem_cons.mp hs with rfl | hs
    · exact Nat.le_refl _
    · exact hafter s hs

/-- One more violation takes the place of the one kept so far just if it is earlier. -/
theorem IsLeftmost.earlier {r : Violation} {seen : List Violation} (h : IsLeftmost r seen)
    (w : Violation) : IsLeftmost (earlier r w) (seen ++ [w]) := by
  rw [Python.earlier]
  split
  · next hlt =>
    refine ⟨seen, [], rfl, fun s hs => ?_, List.forall_mem_nil _⟩
    exact Nat.lt_of_lt_of_le hlt (h.byte_le hs)
  · next hle =>
    obtain ⟨before, after, rfl, hbefore, hafter⟩ := h
    refine ⟨before, after ++ [w], by rw [List.append_assoc, List.cons_append], hbefore, ?_⟩
    intro s hs
    rcases List.mem_append.mp hs with hs | hs
    · exact hafter s hs
    · rw [List.mem_singleton.mp hs]
      exact Nat.le_of_not_lt hle

/-- What is kept in the end is the leftmost of all violations met. -/
theorem IsLeftmost.foldl_earlier {rest : List Violation} :
    ∀ {r : Violation} {seen : List Violation},
      IsLeftmost r seen → IsLeftmost (rest.foldl Python.earlier r) (seen ++ rest) := by
  induction rest with
  | nil =>
    intro r seen h
    rwa [List.append_nil]
  | cons w rest ih =>
    intro r seen h
    rw [List.foldl_cons, List.append_cons]
    exact ih (h.earlier w)

theorem isLeftmost_of_earliest? {vs : List Violation} {r : Violation} (h : earliest? vs = some r) :
    IsLeftmost r vs := by
  cases vs with
  | nil => cases h
  | cons v rest =>
    obtain rfl := Option.some.inj h
    have hv : IsLeftmost v [v] := ⟨[], [], rfl, List.forall_mem_nil _, List.forall_mem_nil _⟩
    exact hv.foldl_earlier

/-! ### The complaints of a suite -/

instance : ∀ outer, DecidablePred (IsSuiteColumn outer)
  | none => fun column => inferInstanceAs (Decidable (column = 0))
  | some width => fun column => inferInstanceAs (Decidable (width < column))

/-- The column that some statements of a suite agree on: that of the first one that is first on its
line and stands where the suite may. -/
def agreedColumn? (source : ByteArray) (outer : Option Nat) (statements : List Node) : Option Nat :=
  (statements.filterMap fun n => leadingColumn? source n.startByte).find?
    fun column => IsSuiteColumn outer column

/-- The complaints of a suite about a statement that is first on its line, by the column that the
statements before it agree on; `outer` is the width of the indentation around a block. -/
inductive IsMisplaced (source : ByteArray) :
    Option Nat → List Node → Node → SourceComplaint → Prop
  | indented {former : List Node} {n : Node} {column : Nat} :
      agreedColumn? source none former = none → IsFirstOnLine source n.startByte column →
        column ≠ 0 → IsMisplaced source none former n .unexpectedIndent
  | unindented {width : Nat} {former : List Node} {n : Node} {column : Nat} :
      agreedColumn? source (some width) former = none → IsFirstOnLine source n.startByte column →
        column ≤ width → IsMisplaced source (some width) former n .expectedIndent
  | further {outer : Option Nat} {former : List Node} {n : Node} {expected column : Nat} :
      agreedColumn? source outer former = some expected → IsFirstOnLine source n.startByte column →
        expected < column → IsMisplaced source outer former n .unexpectedIndent
  | nearer {outer : Option Nat} {former : List Node} {n : Node} {expected column : Nat} :
      agreedColumn? source outer former = some expected → IsFirstOnLine source n.startByte column →
        column < expected → IsMisplaced source outer former n .unmatchedIndent

/-- The complaint about a statement behind others. -/
def complaintBehind? (source : ByteArray) (outer : Option Nat) (former : List Node) (n : Node) :
    Option SourceComplaint :=
  (leadingColumn? source n.startByte).bind fun column =>
    columnComplaint? outer (agreedColumn? source outer former) column

theorem complaintBehind?_eq_some_iff {former : List Node} {n : Node} {complaint : SourceComplaint} :
    complaintBehind? source outer former n = some complaint ↔
      IsMisplaced source outer former n complaint := by
  simp only [complaintBehind?, Option.bind_eq_some_iff, leadingColumn?_eq_some_iff]
  constructor
  · rintro ⟨column, hfirst, hcomplaint⟩
    cases hagreed : agreedColumn? source outer former with
    | none =>
      rw [hagreed] at hcomplaint
      cases outer with
      | none =>
        simp only [columnComplaint?, bne_iff_ne, Option.ite_none_right_eq_some] at hcomplaint
        obtain ⟨hcolumn, hcomplaint⟩ := hcomplaint
        obtain rfl := Option.some.inj hcomplaint
        exact .indented hagreed hfirst hcolumn
      | some width =>
        simp only [columnComplaint?, Option.ite_none_right_eq_some] at hcomplaint
        obtain ⟨hcolumn, hcomplaint⟩ := hcomplaint
        obtain rfl := Option.some.inj hcomplaint
        exact .unindented hagreed hfirst hcolumn
    | some expected =>
      rw [hagreed, columnComplaint?] at hcomplaint
      split at hcomplaint
      · next hlt =>
        obtain rfl := Option.some.inj hcomplaint
        exact .further hagreed hfirst hlt
      · rw [Option.ite_none_right_eq_some] at hcomplaint
        obtain ⟨hlt, hcomplaint⟩ := hcomplaint
        obtain rfl := Option.some.inj hcomplaint
        exact .nearer hagreed hfirst hlt
  · intro h
    cases h with
    | indented hagreed hfirst hcolumn =>
      exact ⟨_, hfirst, by simp [columnComplaint?, hagreed, hcolumn]⟩
    | unindented hagreed hfirst hcolumn =>
      exact ⟨_, hfirst, by simp [columnComplaint?, hagreed, hcolumn]⟩
    | further hagreed hfirst hlt =>
      exact ⟨_, hfirst, by simp [columnComplaint?, hagreed, hlt]⟩
    | nearer hagreed hfirst hlt =>
      exact ⟨_, hfirst, by simp [columnComplaint?, hagreed, hlt, Nat.lt_asymm hlt]⟩

/-- The statements agree on a column as soon as one is first on its line where the suite may
stand. -/
theorem agreedColumn?_append_singleton (former : List Node) (n : Node) :
    agreedColumn? source outer (former ++ [n]) = (agreedColumn? source outer former).or
      ((leadingColumn? source n.startByte).filter fun column => IsSuiteColumn outer column) := by
  rw [agreedColumn?, List.filterMap_append, List.find?_append, agreedColumn?]
  congr 1
  cases hcolumn : leadingColumn? source n.startByte with
  | none => simp [hcolumn]
  | some column =>
    simp only [List.filterMap_cons, List.filterMap_nil, hcolumn, List.find?_singleton,
      Option.filter_some]

/-- A statement adds the complaint about it, and those behind it are judged by the column that it
and those before it agree on. -/
theorem columnViolations_cons (former : List Node) (n : Node) (rest : List Node) :
    columnViolations source outer (agreedColumn? source outer former) (n :: rest) =
      ((complaintBehind? source outer former n).map (Violation.at n)).toList ++
        columnViolations source outer (agreedColumn? source outer (former ++ [n])) rest := by
  rw [columnViolations, complaintBehind?, agreedColumn?_append_singleton]
  cases hcolumn : leadingColumn? source n.startByte with
  | none => simp
  | some column =>
    dsimp only [Option.bind_some]
    cases hagreed : agreedColumn? source outer former with
    | some expected => cases hcomplaint : columnComplaint? outer (some expected) column <;> simp
    | none =>
      cases hcomplaint : columnComplaint? outer none column with
      | none => simp [Option.filter_some, columnComplaint?_none_eq_none_iff.mp hcomplaint]
      | some complaint =>
        have hfits : ¬ IsSuiteColumn outer column := by
          rw [← columnComplaint?_none_eq_none_iff, hcomplaint]
          exact Option.some_ne_none complaint
        simp [Option.filter_some, hfits]

/-- A violation among those of a suite is a complaint about a statement, and the violations before
it are those of the statements before. -/
theorem columnViolations_eq_append_cons {statements : List Node} {r : Violation}
    {rest : List Violation} : ∀ {before : List Node} {here : List Violation},
      columnViolations source outer (agreedColumn? source outer before) statements =
          here ++ r :: rest →
        ∃ former n latter complaint, statements = former ++ n :: latter ∧
          IsMisplaced source outer (before ++ former) n complaint ∧ r = .at n complaint ∧
            here = columnViolations source outer (agreedColumn? source outer before) former := by
  -- The statements passed so far are those before: they grow as the others are gone through.
  induction statements with
  | nil =>
    intro before here h
    simp [columnViolations] at h
  | cons n statements ih =>
    intro before here h
    rw [columnViolations_cons] at h
    rcases append_eq_append_cons h with ⟨others, hn, -⟩ | ⟨others, rfl, hrest⟩
    · obtain ⟨complaint, hcomplaint⟩ : ∃ complaint,
          complaintBehind? source outer before n = some complaint := by
        rw [← Option.isSome_iff_exists]
        cases hnone : complaintBehind? source outer before n <;> simp [hnone] at hn ⊢
      rw [hcomplaint] at hn
      obtain ⟨rfl, hr⟩ : here = [] ∧ Violation.at n complaint = r := by
        cases here <;> simp_all
      refine ⟨[], n, statements, complaint, rfl, ?_, hr.symm, rfl⟩
      rw [List.append_nil]
      exact complaintBehind?_eq_some_iff.mp hcomplaint
    · obtain ⟨former, m, latter, complaint, rfl, hmisplaced, rfl, rfl⟩ := ih hrest
      refine ⟨n :: former, m, latter, complaint, rfl, ?_, rfl, ?_⟩
      · rwa [List.append_cons]
      · rw [columnViolations_cons]

/-- A complaint about a statement is among the violations of the suite. -/
theorem at_mem_columnViolations {former latter : List Node} {n : Node}
    {complaint : SourceComplaint} : ∀ {before : List Node},
      IsMisplaced source outer (before ++ former) n complaint →
        .at n complaint ∈
          columnViolations source outer (agreedColumn? source outer before)
            (former ++ n :: latter) := by
  induction former with
  | nil =>
    intro before h
    rw [List.append_nil, ← complaintBehind?_eq_some_iff] at h
    rw [List.nil_append, columnViolations_cons, h]
    exact List.mem_cons_self
  | cons m former ih =>
    intro before h
    rw [List.append_cons] at h
    rw [List.cons_append, columnViolations_cons]
    exact List.mem_append_right _ (ih h)

/-! ### What is wrong at a node -/

/-- The visited node is a suite: a module, or a block with some indentation around it. -/
inductive IsSuite (source : ByteArray) (v : Visit) : Option Nat → Prop
  | module : v.node.kind = "module" → IsSuite source v none
  | block {width : Nat} : v.node.kind = "block" → IsIndentedBy source v.headerByte width →
      IsSuite source v (some width)

/-- The suite at a visited node complains about one of its statements, with so many before it. -/
def ComplainsOf (source : ByteArray) (v : Visit) (k : Nat) (n : Node)
    (complaint : SourceComplaint) : Prop :=
  ∃ outer former latter, IsSuite source v outer ∧ statementsOf v.node = former ++ n :: latter ∧
    former.length = k ∧ IsMisplaced source outer former n complaint

/-- What is wrong at a visited node, after so many of the statements that it may have. -/
inductive Breaks (source : ByteArray) (v : Visit) : Nat → Violation → Prop
  | print : v.node.kind = "print_statement" → Breaks source v 0 (.at v.node .printStatement)
  | exec : v.node.kind = "exec_statement" → Breaks source v 0 (.at v.node .execStatement)
  | backticks : v.node.kind = "string" → (v.node.text source).toList.head? = some '\x60' →
      Breaks source v 0 (.at v.node .backticks)
  | empty : v.node.kind = "block" → statementsOf v.node = [] → Breaks source v 0 (emptyBlock v)
  | misplaced {k : Nat} {n : Node} {complaint : SourceComplaint} :
      ComplainsOf source v k n complaint → Breaks source v k (.at n complaint)

variable {v : Visit}

theorem IsSuite.kind (h : IsSuite source v outer) :
    v.node.kind = "module" ∨ v.node.kind = "block" := by
  cases h with
  | module hkind => exact .inl hkind
  | block hkind => exact .inr hkind

/-- A node is a suite in one way only. -/
theorem IsSuite.eq {outer' : Option Nat} (h : IsSuite source v outer)
    (h' : IsSuite source v outer') : outer = outer' := by
  cases h with
  | module hkind =>
    cases h' with
    | module => rfl
    | block hkind' => exact absurd (hkind.symm.trans hkind') (by decide)
  | block hkind hwidth =>
    cases h' with
    | module hkind' => exact absurd (hkind.symm.trans hkind') (by decide)
    | block _ hwidth' => rw [isIndentedBy_iff.mp hwidth, isIndentedBy_iff.mp hwidth']

/-- Whether a node is a suite depends on the path to it and not on the nodes beside it. -/
theorem IsSuite.of_path_eq {w : Visit} (h : IsSuite source v outer) (hpath : w.path = v.path) :
    IsSuite source w outer := by
  obtain ⟨hnode, hancestors⟩ := List.cons.inj hpath
  cases h with
  | module hkind => exact .module (hnode ▸ hkind)
  | block hkind hwidth =>
    refine .block (hnode ▸ hkind) ?_
    rwa [Visit.headerByte, Visit.parent?, hancestors]

theorem ComplainsOf.of_path_eq {w : Visit} {k : Nat} {n : Node} {complaint : SourceComplaint}
    (h : ComplainsOf source v k n complaint) (hpath : w.path = v.path) :
    ComplainsOf source w k n complaint := by
  obtain ⟨outer, former, latter, hsuite, hsplit, hlength, hmisplaced⟩ := h
  refine ⟨outer, former, latter, hsuite.of_path_eq hpath, ?_, hlength, hmisplaced⟩
  rw [(List.cons.inj hpath).1, hsplit]

theorem IsSuite.violationsAt_eq (h : IsSuite source v outer) :
    violationsAt source v = suiteViolations source outer v := by
  cases h with
  | module hkind => simp [violationsAt, hkind]
  | block hkind hwidth =>
    rw [isIndentedBy_iff.mp hwidth]
    simp [violationsAt, hkind, Visit.headerByte]

/-- The violations of a suite with statements are its complaints about them. -/
theorem suiteViolations_of_ne_nil (h : statementsOf v.node ≠ []) :
    suiteViolations source outer v =
      columnViolations source outer (agreedColumn? source outer []) (statementsOf v.node) := by
  rw [suiteViolations, if_neg]
  · rfl
  · rw [Bool.and_eq_true, List.isEmpty_iff]
    exact fun hempty => h hempty.2

/-- In a suite with statements nothing is wrong but what it complains about. -/
theorem Breaks.complainsOf {k : Nat} {r : Violation} (h : Breaks source v k r)
    (hsuite : IsSuite source v outer) (hne : statementsOf v.node ≠ []) :
    ∃ n complaint, ComplainsOf source v k n complaint ∧ r = .at n complaint := by
  have hkind := hsuite.kind
  cases h with
  | print h => simp [h] at hkind
  | exec h => simp [h] at hkind
  | backticks h => simp [h] at hkind
  | empty _ hnil => exact absurd hnil hne
  | misplaced h => exact ⟨_, _, h, rfl⟩

theorem Breaks.mem_violationsAt {k : Nat} {r : Violation} (h : Breaks source v k r) :
    r ∈ violationsAt source v := by
  cases h with
  | print hkind => simp [violationsAt, hkind]
  | exec hkind => simp [violationsAt, hkind]
  | backticks hkind htext => simp [violationsAt, hkind, singleton_prefix_iff_head?, htext]
  | empty hkind hnil => simp [violationsAt, hkind, suiteViolations, hnil]
  | misplaced h =>
    obtain ⟨outer, former, latter, hsuite, hsplit, -, hmisplaced⟩ := h
    have hne : statementsOf v.node ≠ [] := hsplit ▸ List.append_ne_nil_of_right_ne_nil _ (by simp)
    rw [hsuite.violationsAt_eq, suiteViolations_of_ne_nil hne, hsplit]
    exact at_mem_columnViolations hmisplaced

/-- A suite without statements has the violation of its own that it is empty, if it is a block. -/
theorem IsSuite.exists_own (h : IsSuite source v outer) (hnil : statementsOf v.node = []) :
    ∃ own : Option Violation, violationsAt source v = own.toList ∧
      ∀ r ∈ own, Breaks source v 0 r := by
  rcases h.kind with hkind | hkind
  · exact ⟨none, by simp [violationsAt, hkind, suiteViolations, hnil, columnViolations], by simp⟩
  · refine ⟨some (emptyBlock v), by simp [violationsAt, hkind, suiteViolations, hnil], ?_⟩
    rintro _ ⟨⟩
    exact .empty hkind hnil

/-- A node has statements that it may complain about, or at most one violation of its own. -/
theorem isSuite_or_exists_own (source : ByteArray) (v : Visit) :
    (∃ outer, IsSuite source v outer ∧ statementsOf v.node ≠ []) ∨
      ∃ own : Option Violation, violationsAt source v = own.toList ∧
        ∀ r ∈ own, Breaks source v 0 r := by
  by_cases hsuite : ∃ outer, IsSuite source v outer
  · obtain ⟨outer, hsuite⟩ := hsuite
    by_cases hnil : statementsOf v.node = []
    · exact .inr (hsuite.exists_own hnil)
    · exact .inl ⟨outer, hsuite, hnil⟩
  · right
    unfold violationsAt
    split
    · next hkind => exact ⟨some _, rfl, by rintro _ ⟨⟩; exact .print hkind⟩
    · next hkind => exact ⟨some _, rfl, by rintro _ ⟨⟩; exact .exec hkind⟩
    · next hkind =>
      split
      · next htext =>
        rw [String.startsWith_string_iff] at htext
        refine ⟨some _, rfl, ?_⟩
        rintro _ ⟨⟩
        exact .backticks hkind (singleton_prefix_iff_head?.mp htext)
      · exact ⟨none, rfl, by simp⟩
    · next hkind => exact absurd ⟨none, .module hkind⟩ hsuite
    · next hkind => exact absurd ⟨_, .block hkind (isIndentedBy_iff.mpr rfl)⟩ hsuite
    · exact ⟨none, rfl, by simp⟩

/-- What is found at a node is wrong there, and it comes behind what is wrong after fewer of the
statements. -/
theorem exists_breaks_of_violationsAt {here rest : List Violation} {r : Violation}
    (h : violationsAt source v = here ++ r :: rest) :
    ∃ k, Breaks source v k r ∧ ∀ j < k, ∀ s, Breaks source v j s → s ∈ here := by
  -- Only a suite with statements can have more than one violation, and there the order matters.
  rcases isSuite_or_exists_own source v with ⟨outer, hsuite, hne⟩ | ⟨own, hown, hbreaks⟩
  · rw [hsuite.violationsAt_eq, suiteViolations_of_ne_nil hne] at h
    obtain ⟨former, n, latter, complaint, hsplit, hmisplaced, rfl, rfl⟩ :=
      columnViolations_eq_append_cons h
    refine ⟨former.length, .misplaced ⟨outer, former, latter, hsuite, hsplit, rfl, hmisplaced⟩, ?_⟩
    intro j hj s hs
    obtain ⟨m, complaint', ⟨outer', former', latter', hsuite', hsplit', rfl, hmisplaced'⟩, rfl⟩ :=
      hs.complainsOf hsuite hne
    obtain rfl := hsuite'.eq hsuite
    -- The statement complained about is among those before the other one.
    have hm : former' ++ [m] <+: statementsOf v.node :=
      ⟨latter', by rw [← List.append_cons, hsplit']⟩
    have hformer : former <+: statementsOf v.node := ⟨n :: latter, hsplit.symm⟩
    have hprefix : former' ++ [m] <+: former := by
      apply List.prefix_of_prefix_length_le hm hformer
      rw [List.length_append]
      exact hj
    obtain ⟨latter', rfl⟩ := hprefix
    rw [← List.append_cons]
    exact at_mem_columnViolations hmisplaced'
  · rw [hown] at h
    have hr : r ∈ own.toList := h ▸ List.mem_append_right _ List.mem_cons_self
    exact ⟨0, hbreaks r (Option.mem_toList.mp hr), fun j hj => absurd hj (Nat.not_lt_zero j)⟩

/-- The violations found at a node are those that there are. -/
theorem mem_violationsAt_iff {r : Violation} :
    r ∈ violationsAt source v ↔ ∃ k, Breaks source v k r := by
  constructor
  · intro h
    obtain ⟨here, rest, h⟩ := List.append_of_mem h
    obtain ⟨k, hk, -⟩ := exists_breaks_of_violationsAt h
    exact ⟨k, hk⟩
  · rintro ⟨k, h⟩
    exact h.mem_violationsAt

/-! ### The earliest violation of a tree -/

/-- A violation counts: of all that is wrong with a tree nothing is at a smaller byte, and of what
is at the same byte nothing is met before it, at an earlier node or after fewer statements. -/
structure IsEarliest (p : ParsedSource) (v : Visit) (k : Nat) (r : Violation) : Prop where
  breaks : Breaks p.source v k r
  least : ∀ w ∈ p.root.tour, ∀ j s, Breaks p.source w j s → r.byte ≤ s.byte
  first : ∃ before after, p.root.tour = before ++ v :: after ∧
    (∀ u ∈ before, ∀ j s, Breaks p.source u j s → s.byte ≠ r.byte) ∧
      ∀ j < k, ∀ s, Breaks p.source v j s → s.byte ≠ r.byte

/-- The leftmost of the violations met on the tour is the earliest. -/
theorem exists_isEarliest {p : ParsedSource} {r : Violation} (h : IsLeftmost r (violations p)) :
    ∃ v k, IsEarliest p v k r := by
  rw [violations_eq_tour] at h
  have hleast : ∀ w ∈ p.root.tour, ∀ j s, Breaks p.source w j s → r.byte ≤ s.byte := by
    intro w hw j s hs
    exact h.byte_le (List.mem_flatMap.mpr ⟨w, hw, hs.mem_violationsAt⟩)
  obtain ⟨met, rest, hviolations, hmet, -⟩ := h
  obtain ⟨before, v, after, here, others, htour, hv, rfl, -⟩ := flatMap_eq_append_cons hviolations
  obtain ⟨k, hbreaks, hhere⟩ := exists_breaks_of_violationsAt hv
  refine ⟨v, k, hbreaks, hleast, before, after, htour, fun u hu j s hs => ?_, fun j hj s hs => ?_⟩
  · refine Nat.ne_of_gt (hmet s (List.mem_append_left _ ?_))
    exact List.mem_flatMap.mpr ⟨u, hu, hs.mem_violationsAt⟩
  · exact Nat.ne_of_gt (hmet s (List.mem_append_right _ (hhere j hj s hs)))

/-- A suite complains about a statement before anything is met there: what is wrong with the
statement or inside it, at the byte where it starts, does not count. -/
theorem IsEarliest.byte_ne {p : ParsedSource} {k : Nat} {r : Violation} (h : IsEarliest p v k r)
    {suite : Visit} {j : Nat} {n : Node} {complaint : SourceComplaint}
    (hsuite : ComplainsOf p.source suite j n complaint) (hn : n :: suite.path <:+ v.path) :
    r.byte ≠ n.startByte := by
  -- The suite is above the node that the violation is met at, and so it was visited before.
  obtain ⟨before, after, htour, hbefore, -⟩ := h.first
  have habove : suite.path <:+ v.ancestors := by
    rcases List.suffix_cons_iff.mp hn with heq | hsuffix
    · exact (List.cons.inj heq).2 ▸ List.suffix_refl _
    · exact (List.suffix_cons n suite.path).trans hsuffix
  obtain ⟨u, hu, hpath⟩ := Node.exists_before_of_ancestors htour habove
  exact (hbefore u hu j _ (.misplaced (hsuite.of_path_eq hpath))).symm

/-- **A tree is rejected for its earliest violation**: if nothing is wrong with it, it is accepted,
and otherwise the error tells of the violation at the smallest byte, and of those at that byte of
the one met first.  A complaint of a suite about a statement goes before any other at its byte about
the statement or what is inside it. -/
theorem violationIn?_earliest (p : ParsedSource) :
    (violationIn? p = none ∧ ∀ v ∈ p.root.tour, ∀ k r, ¬ Breaks p.source v k r) ∨
      ∃ v k r, violationIn? p = some r.error ∧ IsEarliest p v k r ∧
        ∀ suite j n complaint, ComplainsOf p.source suite j n complaint →
          n :: suite.path <:+ v.path → r.byte ≠ n.startByte := by
  cases hearliest : earliest? (violations p) with
  | none =>
    refine .inl ⟨by rw [violationIn?, hearliest, Option.map_none], fun v hv k r hbreaks => ?_⟩
    rw [earliest?_eq_none_iff, violations_eq_tour, List.flatMap_eq_nil_iff] at hearliest
    have hmem := mem_violationsAt_iff.mpr ⟨k, hbreaks⟩
    rw [hearliest v hv] at hmem
    exact List.not_mem_nil hmem
  | some r =>
    obtain ⟨v, k, h⟩ := exists_isEarliest (isLeftmost_of_earliest? hearliest)
    refine .inr ⟨v, k, r, by rw [violationIn?, hearliest, Option.map_some], h, ?_⟩
    intro suite j n complaint hsuite hn
    exact h.byte_ne hsuite hn

/-- A statement of the second version in the second column of a module is both: what counts is that
it is indented. -/
example :
    let info (kind : String) : NodeInfo :=
      ⟨kind, true, none, ⟨1, 0, 1⟩, ⟨8, 0, 8⟩, false, false, false⟩
    violationIn? ⟨" print 1".toUTF8, .mk (info "module") [.mk (info "print_statement") []]⟩ =
      some (.rejected 1 2 SourceComplaint.unexpectedIndent.message) := by
  cbv

end EnergyAudit.Python
