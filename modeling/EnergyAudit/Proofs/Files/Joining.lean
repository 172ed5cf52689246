import EnergyAudit.Files.Path
import Mathlib.Data.String.Basic

/-!
# Paths below a directory

The path of something in a directory has the parts of the path of the directory and then its name,
however the path of the directory is written: with a slash at its end or without, with dots or
without, as the root, or as nothing at all.

## Main definitions

* `IsEntryName` — a name that something in a directory can have.
* `pathBelow` — the path of what some names lead to from a directory.

## Main results

* `splitOn_slash` — a text split at slashes is its list of characters split at them.
* `pieces_joined` — the pieces of a path that is made of two.
* `pathParts_joinPath`, `pathParts_pathBelow` — the parts of a path below a directory.
* `extension?_joinPath` — its ending is that of the name.
* `extensionOfName?_eq_some_iff` — what the ending of a name is.
-/

namespace EnergyAudit.Files

open String

/-! ### Splitting at slashes -/

/-- What is found behind some characters, and behind others since the last slash. -/
theorem splitOnAux_slash (rest : List Char) : ∀ (before since : List Char) (found : List String),
    splitOnAux (.ofList (before ++ since ++ rest)) "/" ⟨utf8Len before⟩
        ⟨utf8Len before + utf8Len since⟩ 0 found =
      found.reverse ++ (rest.splitOnPPrepend (· == '/') since.reverse).map .ofList := by
  have hslash : Pos.Raw.get "/" 0 = '/' := by decide
  have hnext : Pos.Raw.next "/" 0 = ⟨1⟩ := by decide
  have hend : Pos.Raw.atEnd "/" ⟨1⟩ = true := by decide
  induction rest with
  | nil =>
    intro before since found
    have hstop : Pos.Raw.atEnd (.ofList (before ++ since ++ []))
        ⟨utf8Len before + utf8Len since⟩ = true := by
      simp [-ofList_append]
    rw [splitOnAux, if_pos hstop, extract_of_valid before since []]
    simp
  | cons c rest ih =>
    intro before since found
    have hgo : ¬ Pos.Raw.atEnd (.ofList (before ++ since ++ c :: rest))
        ⟨utf8Len before + utf8Len since⟩ = true := by
      have hpos := Char.utf8Size_pos c
      simp only [atEnd_iff, rawEndPos_ofList, Pos.Raw.mk_le_mk, utf8Len_append, utf8Len_cons]
      omega
    have hget := get_of_valid (before ++ since) (c :: rest)
    have hstep := next_of_valid (before ++ since) c rest
    rw [utf8Len_append] at hget hstep
    rw [splitOnAux, if_neg hgo]
    simp only [hget, hslash, hstep, hnext, hend, List.headD_cons]
    split
    · next hc =>
      -- The characters since the last slash are found, and none are left.
      obtain rfl := eq_of_beq hc
      have hback : (Pos.Raw.mk (utf8Len before + utf8Len since + ('/' : Char).utf8Size)).unoffsetBy
          ⟨1⟩ = ⟨utf8Len before + utf8Len since⟩ := rfl
      have hsplit := ih (before ++ since ++ ['/']) [] (ofList since :: found)
      rw [List.append_nil, ← List.append_cons, utf8Len_append, utf8Len_append, utf8Len_nil,
        Nat.add_zero] at hsplit
      rw [if_pos trivial, hback, extract_of_valid,
        List.splitOnPPrepend_cons_pos (p := (· == '/')) hc]
      refine hsplit.trans ?_
      simp
    · next hc =>
      have hsplit := ih before (since ++ [c]) found
      rw [← List.append_assoc, ← List.append_cons, utf8Len_append, utf8Len_cons, utf8Len_nil,
        Nat.zero_add, ← Nat.add_assoc] at hsplit
      rw [Pos.Raw.unoffsetBy_zero, hstep,
        List.splitOnPPrepend_cons_neg (p := (· == '/')) (Bool.eq_false_iff.mpr hc)]
      refine hsplit.trans ?_
      simp

/-- A text is split at slashes where its characters are. -/
theorem splitOn_slash (text : String) :
    text.splitOn "/" = (text.toList.splitOn '/').map .ofList := by
  have hsplit := splitOnAux_slash text.toList [] [] []
  rw [List.append_nil, List.nil_append, ofList_toList] at hsplit
  exact hsplit

theorem pieces_eq (path : String) :
    pieces path = ((path.toList.splitOn '/').map .ofList).filter fun piece => !piece.isEmpty := by
  rw [pieces, splitOn_slash]

/-- The pieces of a path that is made of two with a slash between them. -/
theorem pieces_joined (a b : String) : pieces (a ++ "/" ++ b) = pieces a ++ pieces b := by
  have hchars : (a ++ "/" ++ b).toList = a.toList ++ '/' :: b.toList := by
    simp [toList_append]
  rw [pieces_eq, pieces_eq, pieces_eq, hchars, List.splitOn_append_cons_self, List.map_append,
    List.filter_append]

/-! ### Names -/

/-- A name that something in a directory can have: it is not empty, has no slash in it, and is
neither of the two names that every directory gives to itself and to the one around it. -/
@[mk_iff]
structure IsEntryName (name : String) : Prop where
  ne_empty : name ≠ ""
  slash_not_mem : '/' ∉ name.toList
  ne_here : name ≠ "."
  ne_up : name ≠ ".."

theorem isAbsolute_iff {path : String} : isAbsolute path = true ↔ ['/'] <+: path.toList := by
  simp [isAbsolute]

theorem endsWith_slash_iff {path : String} :
    path.endsWith "/" = true ↔ ['/'] <:+ path.toList := by
  rw [← endsWith_toSlice, Slice.endsWith_string_iff, copy_toSlice]
  simp

/-- Whether a path is absolute can be told from any part at its start. -/
theorem isAbsolute_append {a : String} (ha : a ≠ "") (b : String) :
    isAbsolute (a ++ b) = isAbsolute a := by
  rw [Bool.eq_iff_iff, isAbsolute_iff, isAbsolute_iff, toList_append]
  cases hchars : a.toList with
  | nil => exact absurd (toList_eq_nil_iff.mp hchars) ha
  | cons c rest => simp [List.cons_prefix_cons]

namespace IsEntryName

variable {name : String} (h : IsEntryName name)
include h

theorem isAbsolute_eq : isAbsolute name = false := by
  rw [Bool.eq_false_iff, Ne, isAbsolute_iff]
  exact fun hslash => h.slash_not_mem (hslash.subset (by simp))

theorem endsWith_slash_eq : name.endsWith "/" = false := by
  rw [Bool.eq_false_iff, Ne, endsWith_slash_iff]
  exact fun hslash => h.slash_not_mem (hslash.subset (by simp))

theorem pieces_eq_singleton : pieces name = [name] := by
  rw [pieces_eq, List.splitOn_eq_singleton h.slash_not_mem]
  simp [h.ne_empty]

theorem partOf_eq : partOf name = .name name := by
  simp [partOf, h.ne_up]

end IsEntryName

/-! ### The ending of a name -/

theorem drop_length_takeWhile_succ {α : Type} (p : α → Bool) (as : List α) :
    as.drop ((as.takeWhile p).length + 1) = (as.dropWhile p).tail := by
  induction as with
  | nil => rfl
  | cons a as ih =>
    cases hp : p a with
    | true => simp [hp, ih]
    | false => simp [hp]

/-- A list is divided where an element stands for the first time. -/
theorem eq_append_cons_iff {α : Type} [DecidableEq α] {a : α} {as before behind : List α} :
    as = before ++ a :: behind ∧ a ∉ before ↔
      as.takeWhile (· != a) = before ∧ as.dropWhile (· != a) = a :: behind := by
  constructor
  · rintro ⟨rfl, ha⟩
    have hbefore : ∀ b ∈ before, (b != a) = true := fun b hb =>
      bne_iff_ne.mpr fun heq => ha (heq ▸ hb)
    rw [List.takeWhile_append_of_pos hbefore, List.dropWhile_append_of_pos hbefore]
    simp
  · rintro ⟨rfl, hbehind⟩
    constructor
    · rw [← hbehind, List.takeWhile_append_dropWhile]
    · intro ha
      have hall := List.all_eq_true.mp (List.all_takeWhile (p := (· != a)) (l := as)) a ha
      simp at hall

/-- The ending of a name is what is behind its last dot, where something is before it. -/
theorem extensionOfName?_eq_some_iff {name ending : String} :
    extensionOfName? name = some ending ↔
      '.' ∉ ending.toList ∧ ∃ before, before ≠ "" ∧ name = before ++ "." ++ ending := by
  rw [extensionOfName?, drop_length_takeWhile_succ]
  constructor
  · intro h
    cases hbehind : name.toList.reverse.dropWhile (· != '.') with
    | nil =>
      rw [hbehind] at h
      cases h
    | cons c before =>
      obtain rfl : c = '.' := by
        have hhead := List.head?_dropWhile_not (· != '.') name.toList.reverse
        simpa [hbehind] using hhead
      obtain ⟨hchars, hending⟩ := eq_append_cons_iff.mpr ⟨rfl, hbehind⟩
      rw [hbehind, List.tail_cons] at h
      obtain ⟨hbefore, hname⟩ := Option.ite_none_left_eq_some.mp h
      obtain rfl := Option.some.inj hname
      refine ⟨by simpa using hending, .ofList before.reverse, by simpa using hbefore, ?_⟩
      rw [← String.toList_inj, ← List.reverse_inj]
      refine hchars.trans ?_
      simp
  · rintro ⟨hending, before, hbefore, rfl⟩
    have hchars : (before ++ "." ++ ending).toList.reverse =
        ending.toList.reverse ++ '.' :: before.toList.reverse := by
      simp [String.toList_append]
    obtain ⟨hahead, hbehind⟩ := eq_append_cons_iff.mp ⟨hchars, by simpa using hending⟩
    rw [hahead, hbehind]
    simp [hbefore]

/-! ### Paths of what is in a directory -/

/-- The path of something in a directory is the path of the directory and the name, with a slash
between them unless there is one already. -/
theorem exists_joinPath_eq {directory name : String} (hname : IsEntryName name)
    (hdirectory : directory ≠ "") :
    ∃ ending, joinPath directory name = directory ++ ending ∧
      pieces (joinPath directory name) = pieces directory ++ [name] := by
  have hnot : (isAbsolute name || directory.isEmpty) = false := by
    simp [hname.isAbsolute_eq, hdirectory]
  rw [joinPath, hnot, if_neg Bool.false_ne_true]
  split
  · next hslash =>
    obtain ⟨chars, hchars⟩ := endsWith_slash_iff.mp hslash
    obtain rfl : ofList chars ++ "/" = directory := by
      rw [← toList_inj, toList_append, toList_ofList, ← hchars]
      rfl
    refine ⟨name, rfl, ?_⟩
    have hbefore := pieces_joined (ofList chars) ""
    rw [append_empty] at hbefore
    rw [pieces_joined, hbefore, hname.pieces_eq_singleton]
    have hnil : pieces "" = [] := by simp [pieces_eq]
    rw [hnil, List.append_nil]
  · refine ⟨"/" ++ name, String.append_assoc, ?_⟩
    rw [pieces_joined, hname.pieces_eq_singleton]

/-- The path of something in a directory has the parts of the directory and then the name. -/
theorem pathParts_joinPath {name : String} (hname : IsEntryName name) (directory : String) :
    pathParts (joinPath directory name) = pathParts directory ++ [.name name] := by
  have hlast : ([name].filter (· != ".")).map partOf = [.name name] := by
    simp [hname.ne_here, hname.partOf_eq]
  by_cases hdirectory : directory = ""
  · subst hdirectory
    have hjoined : joinPath "" name = name := by simp [joinPath]
    have hnil : pieces "" = [] := by simp [pieces_eq]
    have habsolute : isAbsolute "" = false := by decide +kernel
    rw [hjoined, pathParts, pathParts, hname.pieces_eq_singleton, hname.isAbsolute_eq, hnil,
      habsolute]
    simp [hname.ne_here, hname.partOf_eq]
  · obtain ⟨ending, hjoined, hpieces⟩ := exists_joinPath_eq hname hdirectory
    have habsolute : isAbsolute (joinPath directory name) = isAbsolute directory := by
      rw [hjoined, isAbsolute_append hdirectory]
    -- Only where there is a piece before the name can the path start with a dot.
    have hstart : ((pieces directory ++ [name]).head? == some ".") =
        ((pieces directory).head? == some ".") := by
      cases pieces directory with
      | nil => simp [hname.ne_here]
      | cons piece rest => rfl
    rw [pathParts, pathParts, hpieces, habsolute, hstart, List.filter_append, List.map_append,
      hlast, List.append_assoc]

theorem extension?_joinPath {name : String} (hname : IsEntryName name) (directory : String) :
    extension? (joinPath directory name) = extensionOfName? name := by
  rw [extension?, pathParts_joinPath hname, List.getLast?_concat]

/-- The path of what some names lead to from a directory. -/
def pathBelow (path : String) (names : List String) : String := names.foldl joinPath path

theorem pathParts_pathBelow {names : List String} (hnames : ∀ name ∈ names, IsEntryName name) :
    ∀ path, pathParts (pathBelow path names) = pathParts path ++ names.map .name := by
  induction names with
  | nil => intro path; exact (List.append_nil _).symm
  | cons name names ih =>
    intro path
    obtain ⟨hname, hothers⟩ := List.forall_mem_cons.mp hnames
    rw [pathBelow, List.foldl_cons, ← pathBelow, ih hothers, pathParts_joinPath hname,
      List.append_assoc, List.map_cons, List.singleton_append]

end EnergyAudit.Files
