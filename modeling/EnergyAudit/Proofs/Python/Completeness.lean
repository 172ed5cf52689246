import EnergyAudit.Proofs.Python.Enclosing
import EnergyAudit.Proofs.Tree.Descent

/-!
# The records of a tree

Every function definition with a name has a record, wherever it stands, and there are no others.  The
records are in the order of their first bytes, and each tells the text of its definition and the way
to it: the names of the functions and classes on this way are its qualified name.

## Main definitions

* `IsNamedFunction` — a node defines a function with a name.
* `HasFunctionsAtOwnBytes` — no two functions of a tree start at one byte.
* `namesOn` — the names that are defined on a way down a tree.
* `IsRecordOf` — what the record of a definition tells of it.

## Main results

* `records_perm` — no record is dropped if functions start at bytes of their own.
* `isRecordOf_recordOf` — a record tells the text of a definition and the names on the way to it.
* `IsRecordOf.qualifiedName_eq_append` — the qualified name of a function within another one.
* `records_complete` — there is just one record for each named function.
-/

namespace EnergyAudit.Python

open EnergyAudit.Tree

/-! ### Named functions -/

/-- A node defines a function with a name, which is an identifier and not empty. -/
def IsNamedFunction (source : ByteArray) (n : Node) : Prop :=
  n.kind = "function_definition" ∧ ∃ name ∈ n.childByField? "name",
    name.kind = "identifier" ∧ name.text source ≠ ""

instance (source : ByteArray) (n : Node) : Decidable (IsNamedFunction source n) :=
  inferInstanceAs (Decidable (_ ∧ ∃ name ∈ _, _))

theorem functionName?_eq_some_iff {source : ByteArray} {n : Node} {name : String} :
    functionName? source n = some name ↔
      IsNamedFunction source n ∧ (n.childByField? "name").map (Node.text source) = some name := by
  unfold functionName? IsNamedFunction
  by_cases hkind : n.kind = "function_definition"
  · cases n.childByField? "name" with
    | none => simp [hkind]
    | some child =>
      simp only [hkind, bne_self_eq_false, Bool.false_eq_true, ite_false, true_and,
        Option.mem_def, Option.some.injEq, exists_eq_left', Option.map_some,
        Option.ite_none_right_eq_some, Bool.and_eq_true, beq_iff_eq, Bool.not_eq_true',
        ← Bool.not_eq_true, String.isEmpty_iff, ne_eq]
  · simp [hkind]

theorem isSome_functionName?_iff {source : ByteArray} {n : Node} :
    (functionName? source n).isSome = true ↔ IsNamedFunction source n := by
  rw [Option.isSome_iff_exists]
  constructor
  · rintro ⟨name, hname⟩
    exact (functionName?_eq_some_iff.mp hname).1
  · intro h
    obtain ⟨-, child, hchild, -⟩ := id h
    exact ⟨child.text source, functionName?_eq_some_iff.mpr ⟨h, congrArg (Option.map _) hchild⟩⟩

/-! ### Records of different functions -/

/-- No two functions of a tree start at one byte. -/
def HasFunctionsAtOwnBytes (root : Node) : Prop :=
  ((root.nodes.filter (·.kind == "function_definition")).map (·.startByte)).Nodup

/-- If functions differ in what a key tells of them, then so do the records that are made of
them. -/
theorem pairwise_recordOf?_of_nodup {β : Type} {p : ParsedSource} {key : Node → β}
    {R : FunctionRecord → FunctionRecord → Prop}
    (h : ((p.root.nodes.filter (·.kind == "function_definition")).map key).Nodup)
    (hR : ∀ {v w : Visit} {name name' : String}, key v.node ≠ key w.node →
      R (recordOf p.source v name) (recordOf p.source w name')) :
    (p.root.visits.toList.filterMap (recordOf? p.source)).Pairwise R := by
  refine List.pairwise_filterMap.mpr ((Node.pairwise_visits_of_nodup h).imp ?_)
  intro v w hne a ha b hb
  obtain ⟨name, hname, rfl⟩ := Option.map_eq_some_iff.mp ha
  obtain ⟨name', hname', rfl⟩ := Option.map_eq_some_iff.mp hb
  exact hR (hne (beq_iff_eq.mpr (functionName?_eq_some_iff.mp hname).1.1)
    (beq_iff_eq.mpr (functionName?_eq_some_iff.mp hname').1.1))

theorem dropRepeated_eq_self {records : List FunctionRecord}
    (h : records.Pairwise fun a b => a.span.startByte ≠ b.span.startByte) :
    dropRepeated records = records := by
  fun_induction dropRepeated records with
  | case1 a b rest heq _ =>
    exact absurd (beq_iff_eq.mp heq) (List.rel_of_pairwise_cons h List.mem_cons_self)
  | case2 a b rest _ ih => rw [ih (List.pairwise_cons.mp h).2]
  | case3 rest => rfl

/-- No record is dropped if functions start at bytes of their own. -/
theorem records_perm {p : ParsedSource} (hbytes : HasFunctionsAtOwnBytes p.root) :
    (records p).Perm (p.root.visits.toList.filterMap (recordOf? p.source)) := by
  have hfound : (p.root.visits.toList.filterMap (recordOf? p.source)).Pairwise
      fun a b => a.span.startByte ≠ b.span.startByte :=
    pairwise_recordOf?_of_nodup hbytes id
  have hsorted := ((List.mergeSort_perm (p.root.visits.toList.filterMap (recordOf? p.source))
    fun a b => a.span.startByte ≤ b.span.startByte).pairwise_iff Ne.symm).mpr hfound
  rw [records, dropRepeated_eq_self hsorted]
  exact List.mergeSort_perm _ _

/-- The records are those of the named functions, one for each. -/
theorem map_span_records_perm {p : ParsedSource} (hbytes : HasFunctionsAtOwnBytes p.root) :
    ((records p).map fun r => (r.span.startByte, r.span.endByte)).Perm
      ((p.root.nodes.filter (IsNamedFunction p.source ·)).map
        fun n => (n.startByte, n.endByte)) := by
  have hfound : (p.root.visits.toList.filterMap (recordOf? p.source)).map
      (fun r => (r.span.startByte, r.span.endByte)) =
        ((p.root.visits.toList.map Visit.node).filter (IsNamedFunction p.source ·)).map
          fun n => (n.startByte, n.endByte) := by
    rw [List.map_filterMap, ← List.filterMap_eq_map, List.filterMap_filter, List.filterMap_map]
    refine List.filterMap_congr fun v _ => ?_
    rw [recordOf?, Option.map_map, Function.comp_apply]
    by_cases hnamed : IsNamedFunction p.source v.node
    · obtain ⟨name, hname⟩ := Option.isSome_iff_exists.mp (isSome_functionName?_iff.mpr hnamed)
      rw [if_pos (decide_eq_true hnamed), hname]
      rfl
    · have hnone : functionName? p.source v.node = none := by
        rwa [← isSome_functionName?_iff, Bool.not_eq_true, Option.isSome_eq_false_iff,
          Option.isNone_iff_eq_none] at hnamed
      rw [if_neg (by simpa using hnamed), hnone, Option.map_none]
  refine ((records_perm hbytes).map _).trans ?_
  rw [hfound]
  exact ((Node.map_node_visits_perm p.root).filter _).map _

/-! ### What a record tells -/

/-- The names of the functions and classes that are defined on a way down a tree. -/
def namesOn (source : ByteArray) (way : List Node) : List String :=
  (way.filter fun n => n.kind ∈ ["function_definition", "class_definition"]).filterMap
    fun n => (n.childByField? "name").map (Node.text source)

theorem namesOn_eq (source : ByteArray) (way : List Node) :
    namesOn source way = way.filterMap (definedName? source) := by
  rw [namesOn, List.filterMap_filter]
  refine List.filterMap_congr fun n _ => ?_
  simp [definedName?, isDefinition]

theorem namesOn_append (source : ByteArray) (way more : List Node) :
    namesOn source (way ++ more) = namesOn source way ++ namesOn source more := by
  rw [namesOn_eq, namesOn_eq, namesOn_eq, List.filterMap_append]

/-- A text is what some bytes stand for, or it is empty where they stand for none. -/
def IsTextOf (bytes : ByteArray) (text : String) : Prop :=
  text.toUTF8 = bytes ∨ (¬ bytes.IsValidUTF8 ∧ text = "")

theorem isTextOf_text (source : ByteArray) (n : Node) :
    IsTextOf (source.extract n.startByte n.endByte) (n.text source) := by
  rw [Node.text, String.fromUTF8?]
  split
  · exact .inl rfl
  · next h => exact .inr ⟨h, rfl⟩

/-- What the record of a function definition tells, given the nodes above the definition from the
root on: its bytes and their text, and the names of all functions and classes that are defined on
the way to it, the outermost first and its own name last. -/
structure IsRecordOf (source : ByteArray) (above : List Node) (n : Node) (r : FunctionRecord) :
    Prop where
  startByte : r.span.startByte = n.startByte
  endByte : r.span.endByte = n.endByte
  text : IsTextOf (source.extract r.span.startByte r.span.endByte) r.source
  names : namesOn source (above ++ [n]) = namesOn source above ++ [r.name]
  qualifiedName : r.qualifiedName = ".".intercalate (namesOn source (above ++ [n]))

theorem isRecordOf_recordOf {source : ByteArray} {v : Visit} {name : String}
    (h : functionName? source v.node = some name) :
    IsRecordOf source v.ancestors.reverse v.node (recordOf source v name) := by
  obtain ⟨⟨hkind, -⟩, hname⟩ := functionName?_eq_some_iff.mp h
  have hown : definedName? source v.node = some name := by
    rw [definedName?, isDefinition, hkind]
    exact hname
  have hnames : namesOn source (v.ancestors.reverse ++ [v.node]) =
      namesOn source v.ancestors.reverse ++ [name] := by
    rw [namesOn_append, namesOn_eq source [v.node], List.filterMap_cons_some hown,
      List.filterMap_nil]
  refine ⟨rfl, rfl, isTextOf_text source v.node, hnames, ?_⟩
  rw [hnames, namesOn_eq, List.filterMap_reverse]
  rfl

namespace IsRecordOf

variable {source : ByteArray} {above between : List Node} {n m : Node}
  {outer inner : FunctionRecord}

/-- The qualified name of a function within another one starts with that of the other one. -/
theorem qualifiedName_eq_append (houter : IsRecordOf source above n outer)
    (hinner : IsRecordOf source (above ++ n :: between) m inner) :
    inner.qualifiedName =
      outer.qualifiedName ++ "." ++ ".".intercalate (namesOn source (between ++ [m])) := by
  have hway : above ++ n :: between ++ [m] = (above ++ [n]) ++ (between ++ [m]) := by simp
  have houterNames : namesOn source (above ++ [n]) ≠ [] := by
    rw [houter.names]
    exact List.concat_ne_nil _ _
  have hownName : namesOn source [m] = [inner.name] := by
    have hnames := hinner.names
    rw [namesOn_append] at hnames
    exact List.append_cancel_left hnames
  have hinnerNames : namesOn source (between ++ [m]) ≠ [] := by
    rw [namesOn_append, hownName]
    exact List.concat_ne_nil _ _
  rw [hinner.qualifiedName, hway, namesOn_append,
    String.intercalate_append_of_ne_nil houterNames hinnerNames, houter.qualifiedName]

end IsRecordOf

/-! ### All records -/

/-- The record of a named function, told by the way to it. -/
theorem exists_isRecordOf {p : ParsedSource} (hbytes : HasFunctionsAtOwnBytes p.root)
    {above : List Node} {n : Node} (hway : p.root.IsDescent (above ++ [n]))
    (hnamed : IsNamedFunction p.source n) :
    ∃ r ∈ records p, IsRecordOf p.source above n r := by
  obtain ⟨v, hv, hpath⟩ := Node.isDescent_iff.mp hway
  rw [Visit.path, List.reverse_cons] at hpath
  obtain ⟨rfl, hn⟩ := List.append_inj' hpath rfl
  obtain rfl : n = v.node := List.singleton_inj.mp hn
  obtain ⟨name, hname⟩ := Option.isSome_iff_exists.mp (isSome_functionName?_iff.mpr hnamed)
  refine ⟨recordOf p.source v name, ?_, isRecordOf_recordOf hname⟩
  rw [(records_perm hbytes).mem_iff, Node.visits_eq_tour]
  exact List.mem_filterMap.mpr ⟨v, hv, congrArg (Option.map _) hname⟩

/-- Every record is that of a named function. -/
theorem exists_isDescent_of_mem_records {p : ParsedSource} {r : FunctionRecord}
    (hr : r ∈ records p) : ∃ above n, p.root.IsDescent (above ++ [n]) ∧
      IsNamedFunction p.source n ∧ IsRecordOf p.source above n r := by
  obtain ⟨v, hv, hrecord⟩ := exists_visit_of_mem_records hr
  obtain ⟨name, hname, rfl⟩ := Option.map_eq_some_iff.mp hrecord
  rw [← Array.mem_toList_iff, Node.visits_eq_tour] at hv
  refine ⟨v.ancestors.reverse, v.node, Node.isDescent_iff.mpr ⟨v, hv, ?_⟩,
    (functionName?_eq_some_iff.mp hname).1, isRecordOf_recordOf hname⟩
  rw [Visit.path, List.reverse_cons]

/-- Records that start at one byte are the same. -/
theorem eq_of_startByte_eq {p : ParsedSource} {a b : FunctionRecord} (ha : a ∈ records p)
    (hb : b ∈ records p) (h : a.span.startByte = b.span.startByte) : a = b := by
  have hdistinct : ((records p).map (·.span.startByte)).Nodup :=
    List.pairwise_map.mpr ((pairwise_records p).imp Nat.ne_of_lt)
  exact List.inj_on_of_nodup_map hdistinct ha hb h

/-- **There is just one record for each named function**, wherever it stands in the tree, and no
other, if no two functions start at one byte.  The records are in the order of their first bytes;
each tells the text of its definition and the names of all functions and classes on the way to it;
so the qualified name of a function with a dot behind it is a prefix of those of the functions in
it. -/
theorem records_complete (p : ParsedSource) (hbytes : HasFunctionsAtOwnBytes p.root) :
    ((records p).map fun r => (r.span.startByte, r.span.endByte)).Perm
        ((p.root.nodes.filter (IsNamedFunction p.source ·)).map
          fun n => (n.startByte, n.endByte)) ∧
      (records p).Pairwise (fun a b => a.span.startByte < b.span.startByte) ∧
      (∀ above n, p.root.IsDescent (above ++ [n]) → IsNamedFunction p.source n →
        ∃! r, r ∈ records p ∧ IsRecordOf p.source above n r) ∧
      (∀ r ∈ records p, ∃ above n, p.root.IsDescent (above ++ [n]) ∧
        IsNamedFunction p.source n ∧ IsRecordOf p.source above n r) ∧
      ∀ outer ∈ records p, ∀ inner ∈ records p, ∀ above n between m,
        IsRecordOf p.source above n outer → IsRecordOf p.source (above ++ n :: between) m inner →
          ∃ rest, inner.qualifiedName = outer.qualifiedName ++ "." ++ rest := by
  refine ⟨map_span_records_perm hbytes, pairwise_records p, fun above n hway hnamed => ?_,
    fun r => exists_isDescent_of_mem_records, ?_⟩
  · obtain ⟨r, hr, hrecord⟩ := exists_isRecordOf hbytes hway hnamed
    refine ⟨r, ⟨hr, hrecord⟩, ?_⟩
    rintro other ⟨hother, hrecord'⟩
    exact eq_of_startByte_eq hother hr (hrecord'.startByte.trans hrecord.startByte.symm)
  · intro outer _ inner _ above n between m houter hinner
    exact ⟨_, houter.qualifiedName_eq_append hinner⟩

/-! ### A method with a function in it -/

namespace Method

def inner : Node :=
  Nested.node "function_definition" none ⟨25, 3, 2⟩ ⟨38, 4, 4⟩
    [Nested.node "identifier" (some "name") ⟨29, 3, 6⟩ ⟨30, 3, 7⟩ [],
      Nested.node "block" (some "body") ⟨37, 4, 3⟩ ⟨38, 4, 4⟩ []]

def outerBody : Node := Nested.node "block" (some "body") ⟨25, 3, 2⟩ ⟨38, 4, 4⟩ [inner]

def outer : Node :=
  Nested.node "function_definition" (some "definition") ⟨14, 2, 1⟩ ⟨38, 4, 4⟩
    [Nested.node "identifier" (some "name") ⟨18, 2, 5⟩ ⟨19, 2, 6⟩ [], outerBody]

def decorated : Node :=
  Nested.node "decorated_definition" none ⟨10, 1, 1⟩ ⟨38, 4, 4⟩
    [Nested.node "decorator" none ⟨10, 1, 1⟩ ⟨12, 1, 3⟩ [], outer]

def classBody : Node := Nested.node "block" (some "body") ⟨10, 1, 1⟩ ⟨38, 4, 4⟩ [decorated]

def classNode : Node :=
  Nested.node "class_definition" none ⟨0, 0, 0⟩ ⟨38, 4, 4⟩
    [Nested.node "identifier" (some "name") ⟨6, 0, 6⟩ ⟨7, 0, 7⟩ [], classBody]

def root : Node := Nested.node "module" none ⟨0, 0, 0⟩ ⟨39, 5, 0⟩ [classNode]

/-- A class with a decorated method that has a function in it. -/
def source : ParsedSource :=
  ⟨"class C:\n @d\n def m():\n  def g():\n   x\n".toUTF8, root⟩

def aboveInner : List Node := [root, classNode, classBody, decorated, outer, outerBody]

theorem isDescent_inner : source.root.IsDescent (aboveInner ++ [inner]) := by
  refine ⟨rfl, ?_⟩
  simp [aboveInner, root, classNode, classBody, decorated, outer, outerBody, inner, Nested.node,
    Node.children]

theorem namesOn_inner : namesOn source.source (aboveInner ++ [inner]) = ["C", "m", "g"] := by
  decide +kernel

/-- The function in the method has a record, which has both names and that of the class. -/
theorem records_complete_inner :
    HasFunctionsAtOwnBytes source.root ∧ source.root.IsDescent (aboveInner ++ [inner]) ∧
      IsNamedFunction source.source inner ∧
      ∃ r ∈ records source, IsRecordOf source.source aboveInner inner r ∧
        r.qualifiedName = "C.m.g" := by
  have hbytes : HasFunctionsAtOwnBytes source.root := by
    unfold HasFunctionsAtOwnBytes
    decide +kernel
  have hnamed : IsNamedFunction source.source inner := by decide +kernel
  obtain ⟨-, -, hone, -⟩ := records_complete source hbytes
  obtain ⟨r, ⟨hr, hrecord⟩, -⟩ := hone _ _ isDescent_inner hnamed
  refine ⟨hbytes, isDescent_inner, hnamed, r, hr, hrecord, ?_⟩
  rw [hrecord.qualifiedName, namesOn_inner]
  rfl

end Method

end EnergyAudit.Python
