import EnergyAudit.Command.Analyze
import EnergyAudit.Proofs.Files.ByteName
import EnergyAudit.Proofs.Files.PathOrder

/-!
# What is collected from a directory

In a tree without links the Python files under a path are told by the names that lead to them: none
of these may be the name of a directory that is passed over, except for the path itself.  Each of
these files is collected once.  A directory comes in the place of its name among its siblings, with
all that is in it, so that the files are in the order of their paths, and sorting them changes
nothing.

## Main definitions

* `Entry.IsPlain` — a tree without links.
* `LeadsToPython` — names that lead to a file that is to be collected.
* `IsCollection` — the names that lead to all of these files, in order.
* `byName` — what is found under names, in the order of the names.

## Main results

* `leadsToPython_directory_iff`, `IsCollection.directory` — a directory is collected entry by entry.
* `Entry.IsPlain.exists_collect` — the listing of a tree gives its collection.
* `IsCollection.pairwise_isPathBefore` — a collection is in the order of the paths.
* `FileTree.collect_listing` — what is collected from a directory.
-/

namespace EnergyAudit.Files

/-! ### Trees without links -/

/-- A tree without links.  The entries of every directory have different names. -/
inductive Entry.IsPlain : Entry → Prop
  | file (content : ByteArray) : IsPlain (.file content)
  | special (reading : Except FileFault ByteArray) : IsPlain (.special reading)
  | directory {entries : List (String × Entry)} (names : ∀ x ∈ entries, IsEntryName x.1)
      (distinct : (entries.map (·.1)).Nodup) (inner : ∀ x ∈ entries, IsPlain x.2) :
      IsPlain (.directory entries)

/-- In a list without repeated keys every entry is found under its key. -/
theorem lookup_eq_some_iff_mem {α : Type} {entries : List (String × α)}
    (hdistinct : (entries.map (·.1)).Nodup) {name : String} {a : α} :
    entries.lookup name = some a ↔ (name, a) ∈ entries := by
  induction entries with
  | nil => simp
  | cons x entries ih =>
    obtain ⟨other, b⟩ := x
    obtain ⟨hx, hothers⟩ := List.nodup_cons.mp hdistinct
    rw [List.lookup_cons, List.mem_cons, Prod.mk.injEq]
    by_cases hname : name = other
    · subst hname
      have hnot : (name, a) ∉ entries := fun h => hx (List.mem_map.mpr ⟨_, h, rfl⟩)
      simp [hnot, eq_comm]
    · rw [beq_false_of_ne hname, ih hothers]
      simp [hname]

namespace Entry

theorem size_pos (e : Entry) : 0 < e.size := by
  cases e <;> simp [size]

theorem size_le_sizeOfAll {entries : List (String × Entry)} {x : String × Entry}
    (hx : x ∈ entries) : x.2.size ≤ sizeOfAll entries := by
  induction entries with
  | nil => cases hx
  | cons y entries ih =>
    rw [sizeOfAll]
    rcases List.mem_cons.mp hx with rfl | hx
    · exact Nat.le_add_right _ _
    · exact Nat.le_trans (ih hx) (Nat.le_add_left _ _)

/-- What is found in a tree is no larger than the tree. -/
theorem size_le_of_find? {inner : Entry} {names : List String} : ∀ {e : Entry},
    e.find? names = some inner → inner.size ≤ e.size := by
  induction names with
  | nil =>
    intro e h
    rw [Option.some.inj h]
  | cons name names ih =>
    intro e h
    cases e with
    | file content | link target | special reading => cases h
    | directory entries =>
      obtain ⟨next, hnext, hinner⟩ := Option.bind_eq_some_iff.mp h
      obtain ⟨before, behind, rfl, -⟩ := List.lookup_eq_some_iff.mp hnext
      have hmem : (name, next) ∈ before ++ (name, next) :: behind :=
        List.mem_append_right _ List.mem_cons_self
      exact Nat.le_trans (ih hinner) (Nat.le_succ_of_le (size_le_sizeOfAll hmem))

/-- All names that lead somewhere in a tree without links are names of entries. -/
theorem IsPlain.isEntryName {inner : Entry} {names : List String} : ∀ {e : Entry}, e.IsPlain →
    e.find? names = some inner → ∀ name ∈ names, IsEntryName name := by
  induction names with
  | nil =>
    intro e he h name hname
    cases hname
  | cons name names ih =>
    intro e he h
    cases he with
    | file content | special reading => cases h
    | directory hnames hdistinct hinner =>
      obtain ⟨next, hnext, hrest⟩ := Option.bind_eq_some_iff.mp h
      have hmem := (lookup_eq_some_iff_mem hdistinct).mp hnext
      exact List.forall_mem_cons.mpr ⟨hnames _ hmem, ih (hinner _ hmem) hrest⟩

end Entry

/-! ### What is to be collected -/

/-- Names lead to a file that is to be collected: to a file of Python, through directories that are
neither hidden nor among those that hold what others have written. -/
@[mk_iff]
structure LeadsToPython (path : String) (e : Entry) (names : List String) : Prop where
  file : ∃ content, e.find? names = some (.file content)
  python : extension? (pathBelow path names) = some "py"
  entered : ∀ name ∈ names.dropLast, ¬ ['.'] <+: name.toList ∧ name ∉ passedOverNames

/-- What stands under a name is not a directory that is passed over. -/
def IsEntered (name : String) (e : Entry) : Prop :=
  (∃ entries, e = .directory entries) → isPassedOver name = false

theorem isPassedOver_eq_false_iff {name : String} :
    isPassedOver name = false ↔ ¬ ['.'] <+: name.toList ∧ name ∉ passedOverNames := by
  simp [isPassedOver]

theorem leadsToPython_file_iff {path : String} {content : ByteArray} {names : List String} :
    LeadsToPython path (.file content) names ↔ names = [] ∧ isPythonFile path = true := by
  rw [isPythonFile, beq_iff_eq]
  constructor
  · rintro ⟨⟨_, hfile⟩, hpython, -⟩
    cases names with
    | nil => exact ⟨rfl, hpython⟩
    | cons name names => cases hfile
  · rintro ⟨rfl, hpython⟩
    exact ⟨⟨content, rfl⟩, hpython, by simp⟩

/-- Nothing is to be collected from a pipe, a socket or a device, whatever its name. -/
theorem not_leadsToPython_special {path : String} {reading : Except FileFault ByteArray}
    {names : List String} : ¬ LeadsToPython path (.special reading) names := by
  rintro ⟨⟨content, hfile⟩, -, -⟩
  cases names with
  | nil => cases hfile
  | cons name names => cases hfile

/-- What is to be collected from a directory lies in one of its entries, which is not a directory
that is passed over. -/
theorem leadsToPython_directory_iff {path : String} {entries : List (String × Entry)}
    (hdistinct : (entries.map (·.1)).Nodup) {names : List String} :
    LeadsToPython path (.directory entries) names ↔ ∃ x ∈ entries, ∃ rest, names = x.1 :: rest ∧
      IsEntered x.1 x.2 ∧ LeadsToPython (joinPath path x.1) x.2 rest := by
  constructor
  · rintro ⟨⟨content, hfile⟩, hpython, hentered⟩
    cases names with
    | nil => cases hfile
    | cons name rest =>
      obtain ⟨e, he, hrest⟩ := Option.bind_eq_some_iff.mp hfile
      refine ⟨(name, e), (lookup_eq_some_iff_mem hdistinct).mp he, rest, rfl, ?_,
        ⟨content, hrest⟩, hpython, ?_⟩
      · rintro ⟨inner, rfl⟩
        cases rest with
        | nil => cases hrest
        | cons next rest =>
          exact isPassedOver_eq_false_iff.mpr (hentered name (by simp))
      · intro d hd
        cases rest with
        | nil => cases hd
        | cons next rest => exact hentered d (List.mem_cons_of_mem name hd)
  · rintro ⟨⟨name, e⟩, hx, rest, rfl, hhere, ⟨content, hrest⟩, hpython, hentered⟩
    refine ⟨⟨content, ?_⟩, hpython, ?_⟩
    · rw [Entry.find?, (lookup_eq_some_iff_mem hdistinct).mpr hx]
      exact hrest
    · intro d hd
      cases rest with
      | nil => cases hd
      | cons next rest =>
        rcases List.mem_cons.mp hd with rfl | hd
        · refine isPassedOver_eq_false_iff.mp (hhere ?_)
          -- Only a directory has something in it.
          cases e with
          | file content | link target | special reading => cases hrest
          | directory inner => exact ⟨inner, rfl⟩
        · exact hentered d hd

/-- Which names of bytes lead to a file that is to be collected: the last one ends with the bytes of
`.py` and has some before them, and the others neither start with the byte of a dot nor are among
those that are passed over. -/
theorem leadsToPython_nameOfBytes_iff {e : Entry} {last : List UInt8}
    (hlast : IsEntryName (nameOfBytes last)) (path : String) (names : List (List UInt8)) :
    LeadsToPython path e ((names ++ [last]).map nameOfBytes) ↔
      (∃ content, e.find? ((names ++ [last]).map nameOfBytes) = some (.file content)) ∧
      (∃ before, before ≠ [] ∧ last = before ++ [46, 112, 121]) ∧
      ∀ name ∈ names, ¬ [46] <+: name ∧ name ∉ passedOverNames.map bytesOf := by
  have hextension : extension? (pathBelow path ((names ++ [last]).map nameOfBytes)) =
      extensionOfName? (nameOfBytes last) := by
    rw [List.map_append, List.map_singleton, pathBelow, List.foldl_concat,
      extension?_joinPath hlast]
  have hentered : (∀ name ∈ ((names ++ [last]).map nameOfBytes).dropLast,
      ¬ ['.'] <+: name.toList ∧ name ∉ passedOverNames) ↔
      ∀ name ∈ names, ¬ [46] <+: name ∧ name ∉ passedOverNames.map bytesOf := by
    rw [List.map_append, List.map_singleton, List.dropLast_concat, List.forall_mem_map]
    refine forall₂_congr fun name _ => ?_
    rw [← isPassedOver_eq_false_iff, Bool.eq_false_iff, Ne, isPassedOver_nameOfBytes, not_or]
  rw [leadsToPython_iff, hextension, extensionOfName?_nameOfBytes_iff, hentered]

/-- The names that lead to all files that are to be collected, in the order of the names. -/
structure IsCollection (path : String) (e : Entry) (found : List (List String)) : Prop where
  ordered : found.Pairwise (List.Lex (· < ·))
  mem_iff : ∀ names, names ∈ found ↔ LeadsToPython path e names

/-! ### The order of names -/

/-- What is found under names, in the order of the names. -/
def byName {α : Type} (found : List (String × α)) : List (String × α) :=
  found.mergeSort fun a b => !(b.1 < a.1)

theorem byName_perm {α : Type} (found : List (String × α)) : (byName found).Perm found :=
  List.mergeSort_perm _ _

/-- What is found does not matter for the order. -/
theorem inOrder_map {α β : Type} (f : String × α → β) (found : List (String × α)) :
    inOrder (found.map fun x => (x.1, f x)) = (byName found).map f := by
  have hsort := List.map_mergeSort (r := fun a b : String × α => !decide (b.1 < a.1))
    (s := fun a b : String × β => !decide (b.1 < a.1)) (f := fun x => (x.1, f x)) (l := found)
    fun a _ b _ => rfl
  rw [inOrder, ← hsort, List.map_map]
  rfl

/-- Different names are in strict order. -/
theorem pairwise_byName {α : Type} {found : List (String × α)}
    (hdistinct : (found.map (·.1)).Nodup) : (byName found).Pairwise fun a b => a.1 < b.1 := by
  have hsorted : (byName found).Pairwise fun a b => decide (a.1 < b.1) = true := by
    refine pairwise_mergeSort_of_nodup ?_ ?_ ?_ hdistinct
    · intro a b hab
      rw [decide_eq_true_eq] at hab
      exact decide_eq_false (lt_asymm hab)
    · intro a c b hac
      simp only [decide_eq_true_eq] at *
      exact (lt_or_ge a.1 b.1).imp_right fun hba => lt_of_le_of_lt hba hac
    · intro a b hab hba
      rw [decide_eq_false_iff_not] at hab hba
      exact le_antisymm (not_lt.mp hba) (not_lt.mp hab)
  exact hsorted.imp of_decide_eq_true

namespace IsCollection

variable {path : String}

theorem file (content : ByteArray) :
    IsCollection path (.file content) (if isPythonFile path then [[]] else []) where
  ordered := by split <;> simp
  mem_iff names := by
    rw [leadsToPython_file_iff]
    split <;> simp [*]

theorem special (reading : Except FileFault ByteArray) :
    IsCollection path (.special reading) [] where
  ordered := .nil
  mem_iff _ := iff_of_false List.not_mem_nil not_leadsToPython_special

/-- The collections of the entries make the collection of a directory. -/
theorem directory {entries : List (String × Entry)} (hdistinct : (entries.map (·.1)).Nodup)
    {foundIn : String × Entry → List (List String)}
    (hentered : ∀ x ∈ entries, IsEntered x.1 x.2 →
      IsCollection (joinPath path x.1) x.2 (foundIn x))
    (hpassed : ∀ x ∈ entries, ¬ IsEntered x.1 x.2 → foundIn x = []) :
    IsCollection path (.directory entries)
      ((byName entries).flatMap fun x => (foundIn x).map (x.1 :: ·)) := by
  have hmem : ∀ {x}, x ∈ byName entries ↔ x ∈ entries := (byName_perm entries).mem_iff
  constructor
  · rw [List.pairwise_flatMap]
    constructor
    · intro x hx
      rw [List.pairwise_map]
      by_cases h : IsEntered x.1 x.2
      · exact (hentered x (hmem.mp hx) h).ordered.imp .cons
      · rw [hpassed x (hmem.mp hx) h]
        exact .nil
    · -- What is in different entries differs in the first name already.
      refine (pairwise_byName hdistinct).imp fun {x y} hlt a ha b hb => ?_
      obtain ⟨_, -, rfl⟩ := List.mem_map.mp ha
      obtain ⟨_, -, rfl⟩ := List.mem_map.mp hb
      exact .rel hlt
  · intro names
    rw [leadsToPython_directory_iff hdistinct, List.mem_flatMap]
    constructor
    · rintro ⟨x, hx, hnames⟩
      obtain ⟨rest, hrest, rfl⟩ := List.mem_map.mp hnames
      by_cases h : IsEntered x.1 x.2
      · exact ⟨x, hmem.mp hx, rest, rfl, h, ((hentered x (hmem.mp hx) h).mem_iff rest).mp hrest⟩
      · rw [hpassed x (hmem.mp hx) h] at hrest
        cases hrest
    · rintro ⟨x, hx, rest, rfl, h, hleads⟩
      refine ⟨x, hmem.mpr hx, List.mem_map_of_mem ?_⟩
      exact ((hentered x hx h).mem_iff rest).mpr hleads

end IsCollection

/-! ### Listings -/

theorem joinAll_map {α : Type} {f : α → Except WalkFault (List String)} {g : α → List String}
    {as : List α} (h : ∀ a ∈ as, f a = .ok (g a)) : joinAll (as.map f) = .ok (as.flatMap g) := by
  induction as with
  | nil => rfl
  | cons a as ih =>
    obtain ⟨ha, hothers⟩ := List.forall_mem_cons.mp h
    rw [List.map_cons, joinAll, ha, ih hothers]
    rfl

/-- The files in one entry of a directory. -/
def collectEntry (path name : String) (listing : Listing) : Except WalkFault (List String) :=
  if listing.isDirectory && isPassedOver name then .ok []
  else collect (joinPath path name) listing

theorem collectEntries_eq (path : String) (entries : List (String × Listing)) :
    collectEntries path entries = entries.map fun x => (x.1, collectEntry path x.1 x.2) := by
  induction entries with
  | nil => rfl
  | cons x entries ih => rw [collectEntries, ih, List.map_cons, collectEntry]

/-- The files in a directory are those in its entries, in the order of the names. -/
theorem collect_directory {α : Type} (path : String) (entries : List (String × α))
    (listing : String × α → Listing) :
    collect path (.directory (entries.map fun x => (x.1, listing x))) =
      joinAll ((byName entries).map fun x => collectEntry path x.1 (listing x)) := by
  rw [collect, collectEntries_eq, List.map_map]
  exact congrArg joinAll (inOrder_map (fun x => collectEntry path x.1 (listing x)) entries)

namespace Entry.IsPlain

variable (t : FileTree) {fuel : Nat} {around : List (List String × String)} {path : String}
  {names : List String}

/-- In the listing of a tree without links directories are what they are in the tree. -/
theorem isDirectory_listFrom {e : Entry} (he : e.IsPlain) (hfuel : e.size ≤ fuel) :
    (t.listFrom fuel around path names e).isDirectory = true ↔
      ∃ entries, e = .directory entries := by
  cases fuel with
  | zero => exact absurd hfuel (Nat.not_le_of_lt e.size_pos)
  | succ fuel =>
    cases he with
    | file content | special reading => simp [FileTree.listFrom, Listing.isDirectory]
    | directory hnames hdistinct hinner => simp [FileTree.listFrom, Listing.isDirectory]

/-- The listing of a tree without links gives its collection. -/
theorem exists_collect {e : Entry} (he : e.IsPlain) :
    ∀ {fuel : Nat} {around : List (List String × String)} {path : String} {names : List String},
      e.size ≤ fuel → ∃ found, IsCollection path e found ∧
        collect path (t.listFrom fuel around path names e) = .ok (found.map (pathBelow path)) := by
  -- The induction is on the tree: a directory is collected entry by entry, each with one step of
  -- depth less.
  induction he with
  | file content =>
    intro fuel around path names hfuel
    obtain ⟨fuel, rfl⟩ := Nat.exists_eq_succ_of_ne_zero (Nat.ne_of_gt hfuel)
    refine ⟨_, IsCollection.file content, ?_⟩
    rw [FileTree.listFrom, collect]
    split <;> rfl
  | special reading =>
    intro fuel around path names hfuel
    obtain ⟨fuel, rfl⟩ := Nat.exists_eq_succ_of_ne_zero (Nat.ne_of_gt hfuel)
    refine ⟨_, IsCollection.special reading, ?_⟩
    rw [FileTree.listFrom, collect]
    rfl
  | @directory entries hnames hdistinct hinner ih =>
    intro fuel around path names hfuel
    rw [size] at hfuel
    obtain ⟨fuel, rfl⟩ : ∃ k, fuel = k + 1 := ⟨fuel - 1, by omega⟩
    let listing (x : String × Entry) : Listing :=
      t.listFrom fuel ((names, path) :: around) (joinPath path x.1) (x.1 :: names) x.2
    have hentry : ∀ x ∈ entries, ∃ found,
        (IsEntered x.1 x.2 → IsCollection (joinPath path x.1) x.2 found) ∧
        (¬ IsEntered x.1 x.2 → found = []) ∧
        collectEntry path x.1 (listing x) = .ok (found.map (pathBelow (joinPath path x.1))) := by
      intro x hx
      have hsize : x.2.size ≤ fuel :=
        Nat.le_trans (size_le_sizeOfAll hx) (Nat.le_of_succ_le_succ hfuel)
      have hdirectory : (listing x).isDirectory = true ↔ ∃ inner, x.2 = .directory inner :=
        isDirectory_listFrom t (hinner x hx) hsize
      have hpassed : ((listing x).isDirectory && isPassedOver x.1) = true ↔
          ¬ IsEntered x.1 x.2 := by
        rw [Bool.and_eq_true, hdirectory, IsEntered, Classical.not_imp, Bool.not_eq_false]
      by_cases h : IsEntered x.1 x.2
      · obtain ⟨found, hfound, hcollect⟩ := ih x hx hsize
        refine ⟨found, fun _ => hfound, fun hnot => absurd h hnot, ?_⟩
        rw [collectEntry, if_neg fun hc => hpassed.mp hc h]
        exact hcollect
      · refine ⟨[], fun hc => absurd hc h, fun _ => rfl, ?_⟩
        rw [collectEntry, if_pos (hpassed.mpr h)]
        rfl
    choose! foundIn hentered hpassed hcollect using hentry
    refine ⟨_, IsCollection.directory hdistinct hentered hpassed, ?_⟩
    have hlisting : t.listFrom (fuel + 1) around path names (.directory entries) =
        .directory (entries.map fun x => (x.1, listing x)) := rfl
    rw [hlisting, collect_directory,
      joinAll_map fun x hx => hcollect x ((byName_perm entries).subset hx), List.map_flatMap]
    simp only [List.map_map]
    rfl

end Entry.IsPlain

/-! ### The order of the files -/

theorem lex_map_name {as bs : List String} (h : List.Lex (· < ·) as bs) :
    List.Lex (fun a b => a.isBefore b = true) (as.map PathPart.name) (bs.map .name) := by
  induction h with
  | nil => exact .nil
  | cons _ ih => exact .cons ih
  | rel hlt => exact .rel ((PathPart.isBefore_name _ _).mpr hlt)

/-- The files of a collection are in the strict order of their paths. -/
theorem IsCollection.pairwise_isPathBefore {path : String} {e : Entry}
    {found : List (List String)} (h : IsCollection path e found) (he : e.IsPlain) :
    (found.map (pathBelow path)).Pairwise fun a b => isPathBefore a b = true := by
  have hnames : ∀ names ∈ found, ∀ name ∈ names, IsEntryName name := by
    intro names hfound
    obtain ⟨⟨content, hfile⟩, -, -⟩ := (h.mem_iff names).mp hfound
    exact he.isEntryName hfile
  rw [List.pairwise_map]
  refine h.ordered.imp_of_mem fun {a b} ha hb hlt => ?_
  -- Both paths go on from the parts of the directory, so that only the names count.
  rw [isPathBefore_iff, pathParts_pathBelow (hnames a ha), pathParts_pathBelow (hnames b hb)]
  exact (lex_map_name hlt).append_left _ _

theorem IsCollection.nodup {path : String} {e : Entry} {found : List (List String)}
    (h : IsCollection path e found) : found.Nodup :=
  h.ordered.imp fun hlt heq => by
    subst heq
    exact irrefl_of (List.Lex (· < ·)) _ hlt

/-- Analyses of files that are in strict order of their paths stay in this order. -/
theorem fileAnalyses_of_pairwise (settings : AnalysisSettings)
    (content : String → Except FileFault String) {files : List String}
    (h : files.Pairwise fun a b => isPathBefore a b = true) :
    Command.fileAnalyses settings (files.map fun file => (file, content file)) =
      files.map fun file => Command.fileAnalysis settings file (content file) := by
  rw [Command.fileAnalyses, List.map_map]
  refine List.mergeSort_of_pairwise (List.pairwise_map.mpr (h.imp fun {a b} hbefore => ?_))
  exact congrArg (!·) (isPathBefore_asymm hbefore)

namespace FileTree

variable (t : FileTree) {path : String} {names : List String} {e : Entry}

theorem entry?_of_arrive (h : t.arrive path = .ok (names, e)) : t.entry? names = some e := by
  unfold arrive at h
  cases hfollow : t.follow true path with
  | error fault => rw [hfollow] at h; cases h
  | ok arrival =>
    rw [hfollow] at h
    cases arrival with
    | missing directory name rest => cases h
    | found there =>
      dsimp only [bind, Except.bind] at h
      split at h
      · next hentry => cases h; exact hentry
      · cases h

/-- The depth to which a listing goes is enough for everything that is in the tree. -/
theorem size_le_of_arrive (h : t.arrive path = .ok (names, e)) :
    e.size ≤ 2 * (t.root.size + 2) * (t.root.size + 2) := by
  calc e.size
    _ ≤ t.root.size := Entry.size_le_of_find? (t.entry?_of_arrive h)
    _ ≤ 2 * (t.root.size + 2) := by omega
    _ ≤ 2 * (t.root.size + 2) * (t.root.size + 2) := Nat.le_mul_of_pos_right _ (Nat.succ_pos _)

/-- **What is collected from a directory.**  Where a path leads to a directory without links, the
walk does not fail.  It gives every file of Python that is in no directory to be passed over, and
nothing else, each once: neither a directory nor a pipe, socket or device with such a name.  The
directory itself may have any name, and the names in it may be made of any bytes.  The files are in
the strict order of their paths, in which the analyses are then sorted, so that every analysis is at
the place of its file. -/
theorem collect_listing {entries : List (String × Entry)}
    (harrive : t.arrive path = .ok (names, .directory entries))
    (hplain : (Entry.directory entries).IsPlain) :
    ∃ found : List (List String),
      collect path (t.listing path) = .ok (found.map (pathBelow path)) ∧
      found.Nodup ∧
      (∀ below, below ∈ found ↔ LeadsToPython path (.directory entries) below) ∧
      (found.map (pathBelow path)).Pairwise (fun a b => isPathBefore a b = true) ∧
      ∀ (settings : AnalysisSettings) (content : String → Except FileFault String),
        Command.fileAnalyses settings
            ((found.map (pathBelow path)).map fun file => (file, content file)) =
          (found.map (pathBelow path)).map fun file =>
            Command.fileAnalysis settings file (content file) := by
  obtain ⟨found, hfound, hcollect⟩ := hplain.exists_collect t (t.size_le_of_arrive harrive)
  refine ⟨found, ?_, hfound.nodup, hfound.mem_iff, hfound.pairwise_isPathBefore hplain,
    fun settings content =>
      fileAnalyses_of_pairwise settings content (hfound.pairwise_isPathBefore hplain)⟩
  rw [listing, harrive]
  exact hcollect

/-- A tree with one directory at its root, worked in from there. -/
def ofDirectory (name : String) (entries : List (String × Entry)) : FileTree :=
  ⟨.directory [(name, .directory entries)], []⟩

/-- The name of the directory leads to it. -/
theorem arrive_ofDirectory {name : String} (hname : IsEntryName name)
    (hsize : name.utf8ByteSize ≤ nameLimit) (hnul : name.contains '\x00' = false)
    (entries : List (String × Entry)) :
    (ofDirectory name entries).arrive name = .ok ([name], .directory entries) := by
  have hsteps : steps name = [name] := by
    rw [steps, hname.endsWith_slash_eq, hname.pieces_eq_singleton]
    rfl
  have hfollow : (ofDirectory name entries).follow true name = .ok (.found [name]) := by
    rw [follow, hname.isAbsolute_eq, hnul, hsteps]
    simp [hname.ne_empty, followFrom, ofDirectory, entry?, Entry.find?, hname.ne_here, hname.ne_up,
      Nat.not_lt.mpr hsize]
  rw [arrive, hfollow]
  simp [bind, Except.bind, entry?, ofDirectory, Entry.find?, pure, Except.pure]

/-- A file and a directory whose names start alike, a hidden directory, a socket, and a file whose
name is not the bytes of any text. -/
def siblings : List (String × Entry) :=
  [("a.py", .file .empty), (".git", .directory [("x.py", .file .empty)]),
    ("a", .directory [("x.py", .file .empty)]),
    ("s.py", .special (.error (.other "No such device or address (os error 6)"))),
    (nameOfBytes [255, 46, 112, 121], .file .empty)]

/-- What is in a directory comes before the file whose name goes on with a dot.  A directory may be
collected though it would be passed over in another, a socket is not collected whatever its name,
and a file may have a name that is no text. -/
theorem collect_listing_siblings :
    (ofDirectory "venv" siblings).arrive "venv" = .ok (["venv"], .directory siblings) ∧
      (Entry.directory siblings).IsPlain ∧
      ∃ found : List (List String),
        collect "venv" ((ofDirectory "venv" siblings).listing "venv") =
          .ok (found.map (pathBelow "venv")) ∧
        (found.map (pathBelow "venv")).Pairwise (fun a b => isPathBefore a b = true) ∧
        ["a", "x.py"] ∈ found ∧ ["a.py"] ∈ found ∧ [nameOfBytes [255, 46, 112, 121]] ∈ found ∧
        [".git", "x.py"] ∉ found ∧ ["s.py"] ∉ found := by
  have hvenv : IsEntryName "venv" := by
    constructor <;> decide
  have harrive := arrive_ofDirectory hvenv (by decide) (by simp) siblings
  have hbytes : IsEntryName (nameOfBytes [255, 46, 112, 121]) :=
    isEntryName_nameOfBytes_iff.mpr (by decide)
  have hnames : ∀ name ∈ ["a.py", ".git", "a", "x.py", "s.py"], IsEntryName name := by
    simp only [List.forall_mem_cons, List.not_mem_nil, false_implies, implies_true, and_true]
    refine ⟨?_, ?_, ?_, ?_, ?_⟩ <;> constructor <;> decide
  have hplain : (Entry.directory siblings).IsPlain := by
    have hinner : (Entry.directory [("x.py", .file .empty)]).IsPlain :=
      .directory (by simp [hnames]) (by simp) (by simp [Entry.IsPlain.file])
    exact .directory (by simp [siblings, hnames, hbytes]) (by decide)
      (by simp [siblings, hinner, Entry.IsPlain.file, Entry.IsPlain.special])
  obtain ⟨found, hcollect, -, hmem, hordered, -⟩ := collect_listing _ harrive hplain
  refine ⟨harrive, hplain, found, hcollect, hordered, (hmem _).mpr ⟨⟨.empty, rfl⟩, ?_, ?_⟩,
    (hmem _).mpr ⟨⟨.empty, rfl⟩, ?_, ?_⟩, (hmem _).mpr ?_, fun h => ?_, fun h => ?_⟩
  · rw [pathBelow, List.foldl_cons, List.foldl_cons, List.foldl_nil,
      extension?_joinPath (hnames _ (by decide))]
    decide
  · simp [passedOverNames]
  · rw [pathBelow, List.foldl_cons, List.foldl_nil, extension?_joinPath (hnames _ (by decide))]
    decide
  · decide
  · exact (leadsToPython_nameOfBytes_iff hbytes "venv" []).mpr
      ⟨⟨.empty, rfl⟩, ⟨[255], by decide, rfl⟩, by simp⟩
  · exact (((hmem _).mp h).entered ".git" (by decide)).1 (by decide)
  · obtain ⟨content, hfile⟩ := ((hmem _).mp h).file
    cases hfile

end FileTree

end EnergyAudit.Files
