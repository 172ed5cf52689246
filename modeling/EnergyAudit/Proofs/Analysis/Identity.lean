import EnergyAudit.Proofs.Analysis.Hotspots
import EnergyAudit.Proofs.Python.Completeness
import EnergyAudit.Text.Basic
import Mathlib.Data.List.DropRight

/-!
# Ids of functions

The id of a function is its qualified name with the line on which it starts.  Both can be read off
the id again, whatever is in the name, since the line is behind the last `@`.  So functions that
start on different lines have different ids, and in a session each id leads back to its function.

## Main definitions

* `HasFunctionsOnOwnRows` — no two functions of a tree start on one row.

## Main results

* `FunctionId.ofNameAndLine_inj` — an id stands for one name and one line.
* `Python.pairwise_startLine_records` — no two records start on one line.
* `Session.submit_eq_ok_iff` — the sessions of source texts.
* `Session.ids_lead_to_records` — the ids of a session stand for its functions one by one.
-/

namespace EnergyAudit

open EnergyAudit.Text EnergyAudit.Tree

/-! ### Names and lines -/

/-- What stands behind the last mark of a text. -/
theorem rtakeWhile_append_cons (as : List Char) {bs : List Char} {mark : Char} (h : mark ∉ bs) :
    (as ++ mark :: bs).rtakeWhile (· != mark) = bs := by
  have hbehind : ∀ c ∈ bs.reverse, (c != mark) = true := by
    intro c hc
    exact bne_iff_ne.mpr (ne_of_mem_of_not_mem (List.mem_reverse.mp hc) h)
  rw [List.rtakeWhile, List.reverse_append, List.reverse_cons, List.append_assoc,
    List.takeWhile_append_of_pos hbehind, List.singleton_append, List.takeWhile_cons_of_neg,
    List.append_nil, List.reverse_reverse]
  simp

namespace FunctionId

/-- The id of a function as its characters. -/
theorem toList_ofNameAndLine (qualifiedName : String) (line : Nat) :
    (ofNameAndLine qualifiedName line).text.toList =
      qualifiedName.toList ++ '@' :: Nat.toDigits 10 line := by
  have hmark : "@".toList = ['@'] := String.toList_ofList
  rw [ofNameAndLine, String.toList_append, String.toList_append, hmark,
    Nat.toString_eq_ofList_toDigits, String.toList_ofList, List.append_assoc,
    List.singleton_append]

/-- An id stands for one name and one line. -/
theorem ofNameAndLine_inj {q q' : String} {line line' : Nat} :
    ofNameAndLine q line = ofNameAndLine q' line' ↔ q = q' ∧ line = line' := by
  constructor
  · intro h
    have htext := congrArg (·.text.toList) h
    simp only [toList_ofNameAndLine] at htext
    -- No digit is the mark before the line.
    have hmark : ∀ line, '@' ∉ Nat.toDigits 10 line := not_mem_toDigits (by decide)
    have hdigits : Nat.toDigits 10 line = Nat.toDigits 10 line' := by
      rw [← rtakeWhile_append_cons q.toList (hmark line), htext,
        rtakeWhile_append_cons q'.toList (hmark line')]
    have hline : line = line' := by
      rw [← Nat.ofDigitChars_ten_toDigits (n := line), hdigits, Nat.ofDigitChars_ten_toDigits]
    rw [hdigits] at htext
    exact ⟨String.toList_inj.mp (List.append_cancel_right htext), hline⟩
  · rintro ⟨rfl, rfl⟩
    rfl

end FunctionId

/-! ### Records on different lines -/

/-- No two functions of a tree start on one row. -/
def HasFunctionsOnOwnRows (root : Node) : Prop :=
  ((root.nodes.filter (·.kind == "function_definition")).map (·.info.start.row)).Nodup

namespace Python

/-- Functions that start on rows of their own have records that start on lines of their own. -/
theorem pairwise_startLine_records {p : ParsedSource} (hrows : HasFunctionsOnOwnRows p.root) :
    (records p).Pairwise fun a b => a.startLine ≠ b.startLine := by
  have hfound : (p.root.visits.toList.filterMap (recordOf? p.source)).Pairwise
      fun a b => a.startLine ≠ b.startLine :=
    pairwise_recordOf?_of_nodup hrows Nat.succ_ne_succ_iff.mpr
  refine List.Pairwise.sublist (dropRepeated_sublist _) ?_
  exact ((List.mergeSort_perm _ _).pairwise_iff Ne.symm).mpr hfound

/-- The id of a record is that of its name and its line. -/
theorem id_of_mem_records {p : ParsedSource} {r : FunctionRecord} (hr : r ∈ records p) :
    r.id = .ofNameAndLine r.qualifiedName r.startLine := by
  obtain ⟨v, -, hv⟩ := exists_visit_of_mem_records hr
  obtain ⟨name, -, rfl⟩ := Option.map_eq_some_iff.mp hv
  rfl

/-- Functions that start on rows of their own have different ids. -/
theorem nodup_map_id_records {p : ParsedSource} (hrows : HasFunctionsOnOwnRows p.root) :
    ((records p).map (·.id)).Nodup := by
  rw [List.Nodup, List.pairwise_map]
  refine (pairwise_startLine_records hrows).imp_of_mem ?_
  intro a b ha hb hne hid
  rw [id_of_mem_records ha, id_of_mem_records hb, FunctionId.ofNameAndLine_inj] at hid
  exact hne hid.2

end Python

/-! ### Sessions of source texts -/

namespace Session

/-- The language of a source that is accepted is Python. -/
theorem eq_python_of_find? {key : String} {l : Language} (h : Language.find? key = some l) :
    l = .python := by
  have hmem := List.mem_of_find?_eq_some h
  exact List.mem_singleton.mp hmem

/-- A session is made of a source that is not too large, in a known language, and parsed without
complaint; its functions are those of the tree. -/
theorem submit_eq_ok_iff {u : SourceUnit} {settings : AnalysisSettings} {now : Nat} {s : Session} :
    submit u settings now = .ok s ↔
      u.size ≤ settings.maxSourceBytes ∧ (Language.find? u.language).isSome = true ∧
        ∃ p, Python.parse u.text = .ok p ∧
          s = ofRecords u (Python.records p) settings.electricityRate now := by
  rw [submit, SourceUnit.records]
  by_cases hsize : settings.maxSourceBytes < u.size
  · rw [if_pos hsize]
    constructor
    · intro h
      cases h
    · rintro ⟨hle, -⟩
      exact absurd hsize (Nat.not_lt.mpr hle)
  · rw [if_neg hsize]
    cases hfind : Language.find? u.language with
    | none => simp [Except.map]
    | some language =>
      obtain rfl := eq_python_of_find? hfind
      dsimp only [Language.python, Language.pythonRecords]
      cases hparse : Python.parse u.text with
      | error error => simp [Except.map]
      | ok p =>
        simp only [Except.map, Except.ok.injEq, exists_eq_left', Option.isSome_some, true_and,
          Nat.not_lt.mp hsize]
        exact eq_comm

/-- **The ids of functions stand for them one by one.**  An id tells the name and the line of its
function, whatever they are.  So if no two functions of a tree start on one row, the functions of
the session that is made of it have different ids, its table has one entry for each, and what it
gives under an id is the function with this id. -/
theorem ids_lead_to_records (p : ParsedSource) (hrows : HasFunctionsOnOwnRows p.root)
    (u : SourceUnit) (settings : AnalysisSettings) (now : Nat) :
    (∀ q q' line line', FunctionId.ofNameAndLine q line = .ofNameAndLine q' line' ↔
      q = q' ∧ line = line') ∧
      (∀ s, submit u settings now = .ok s ↔
        u.size ≤ settings.maxSourceBytes ∧ (Language.find? u.language).isSome = true ∧
          ∃ p', Python.parse u.text = .ok p' ∧
            s = ofRecords u (Python.records p') settings.electricityRate now) ∧
      let s := ofRecords u (Python.records p) settings.electricityRate now
      (s.records.map (·.id)).Nodup ∧ s.index.size = s.records.length ∧
        (∀ r ∈ s.records, r.id = .ofNameAndLine r.qualifiedName r.startLine) ∧
        ∀ id r, s.record? id = some r ↔ r ∈ s.records ∧ r.id = id := by
  have hdistinct := Python.nodup_map_id_records hrows
  refine ⟨fun q q' line line' => FunctionId.ofNameAndLine_inj, fun s => submit_eq_ok_iff,
    hdistinct, ?_, fun r => Python.id_of_mem_records,
    fun id r => record?_ofRecords_eq_some_iff hdistinct⟩
  exact (Std.HashMap.size_ofList (pairwise_places hdistinct)).trans
    ((List.length_map _).trans List.length_zipIdx)

/-- The ids of two functions, of which one is defined in the other, lead back to them. -/
theorem ids_lead_to_records_nested :
    HasFunctionsOnOwnRows Python.Nested.source.root ∧
      let s := ofRecords ⟨"", "python", defaultFilename⟩ (Python.records Python.Nested.source) 8.0 0
      s.index.size = 2 ∧ s.record? ⟨"f@1"⟩ = some Python.Nested.outer ∧
        s.record? ⟨"f.g@2"⟩ = some Python.Nested.inner := by
  have hrows : HasFunctionsOnOwnRows Python.Nested.source.root := by
    unfold HasFunctionsOnOwnRows
    decide +kernel
  obtain ⟨-, -, -, hsize, -, hrecord⟩ := ids_lead_to_records Python.Nested.source hrows
    ⟨"", "python", defaultFilename⟩ ⟨defaultSizeLimit, 8.0⟩ 0
  have hrecords := Python.Nested.records_eq
  refine ⟨hrows, hsize.trans (congrArg List.length hrecords), (hrecord _ _).mpr ⟨?_, ?_⟩,
    (hrecord _ _).mpr ⟨?_, ?_⟩⟩
  · exact hrecords ▸ List.mem_cons_self
  · decide +kernel
  · exact hrecords ▸ List.mem_cons_of_mem _ List.mem_cons_self
  · decide +kernel

end Session

end EnergyAudit
