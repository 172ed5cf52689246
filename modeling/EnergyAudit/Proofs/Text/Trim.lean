import EnergyAudit.Text.Basic
import Mathlib.Data.List.DropRight
import Mathlib.Data.List.Infix

/-!
# Trimmed texts

A text without the blanks at its ends is the part of it that neither starts nor ends with a blank
and has nothing but blanks around it.

## Main definitions

* `IsTrimmedEnd`, `IsTrimmed` — a text without the blanks at its end, or at both ends.

## Main results

* `isTrimmedEnd_iff`, `isTrimmed_iff` — what the trimming functions give is this and nothing else.
* `trimEnd_eq_nil_iff`, `trim_eq_nil_iff` — nothing is left just of blanks.
* `IsTrimmed.infix_of_infix` — what stands in a text without blanks at its own ends is not touched.
-/

namespace EnergyAudit.Text

/-- A text without the blanks at its end. -/
structure IsTrimmedEnd (text part : List Char) : Prop where
  around : ∃ behind, text = part ++ behind ∧ ∀ c ∈ behind, isBlank c = true
  last : ∀ c ∈ part.getLast?, isBlank c = false

/-- A text without the blanks at its start and its end. -/
structure IsTrimmed (text part : List Char) : Prop where
  around : ∃ before behind, text = before ++ (part ++ behind) ∧
    (∀ c ∈ before, isBlank c = true) ∧ ∀ c ∈ behind, isBlank c = true
  first : ∀ c ∈ part.head?, isBlank c = false
  last : ∀ c ∈ part.getLast?, isBlank c = false

theorem trimEnd_append {part behind : List Char} (hlast : ∀ c ∈ part.getLast?, isBlank c = false)
    (hbehind : ∀ c ∈ behind, isBlank c = true) : trimEnd (part ++ behind) = part := by
  have hblanks : ∀ c ∈ behind.reverse, isBlank c = true :=
    fun c hc => hbehind c (List.mem_reverse.mp hc)
  have hpart : part.rdropWhile isBlank = part := by
    rw [List.rdropWhile_eq_self_iff]
    intro hne
    rw [Bool.not_eq_true]
    exact hlast _ (List.getLast_mem_getLast? hne)
  rw [trimEnd, List.reverse_append, List.dropWhile_append_of_pos hblanks]
  exact hpart

theorem trimStart_append {before rest : List Char} (hbefore : ∀ c ∈ before, isBlank c = true)
    (hfirst : ∀ c ∈ rest.head?, isBlank c = false) : trimStart (before ++ rest) = rest := by
  rw [trimStart, List.dropWhile_append_of_pos hbefore]
  cases rest with
  | nil => rfl
  | cons c rest => rw [List.dropWhile_cons_of_neg (by simp [hfirst c rfl])]

/-- The text that the trimming of its end gives is the only one of its kind. -/
theorem isTrimmedEnd_iff {text part : List Char} :
    IsTrimmedEnd text part ↔ part = trimEnd text := by
  constructor
  · rintro ⟨⟨behind, rfl, hbehind⟩, hlast⟩
    exact (trimEnd_append hlast hbehind).symm
  · rintro rfl
    refine ⟨⟨text.rtakeWhile isBlank, ?_, fun c hc => List.mem_rtakeWhile_imp hc⟩, ?_⟩
    · exact List.rdropWhile_append_rtakeWhile.symm
    · intro c hc
      obtain ⟨hne, rfl⟩ := List.mem_getLast?_eq_getLast hc
      exact Bool.eq_false_iff.mpr (List.rdropWhile_last_not isBlank text hne)

/-- The text that the trimming of both ends gives is the only one of its kind. -/
theorem isTrimmed_iff {text part : List Char} : IsTrimmed text part ↔ part = trim text := by
  constructor
  · rintro ⟨⟨before, behind, rfl, hbefore, hbehind⟩, hfirst, hlast⟩
    cases part with
    | nil =>
      have hnil : trimStart (before ++ ([] ++ behind)) = [] := by
        rw [trimStart, List.dropWhile_append_of_pos hbefore, List.nil_append]
        exact List.dropWhile_eq_nil_iff.mpr hbehind
      rw [trim, hnil]
      rfl
    | cons c part => rw [trim, trimStart_append hbefore (by simpa using hfirst),
        trimEnd_append hlast hbehind]
  · intro hpart
    obtain ⟨⟨behind, hstart, hbehind⟩, hlast⟩ := isTrimmedEnd_iff.mpr hpart
    refine ⟨⟨text.takeWhile isBlank, behind, ?_, fun c hc => List.mem_takeWhile_imp hc, hbehind⟩,
      ?_, hlast⟩
    · rw [← hstart]
      exact List.takeWhile_append_dropWhile.symm
    · intro c hc
      have hhead : (text.dropWhile isBlank).head? = some c := by
        have hstart' : text.dropWhile isBlank = part ++ behind := hstart
        rw [hstart', List.head?_append, hc, Option.some_or]
      have hnot := List.head?_dropWhile_not isBlank text
      rwa [hhead] at hnot

theorem trimEnd_eq_nil_iff {text : List Char} :
    trimEnd text = [] ↔ ∀ c ∈ text, isBlank c = true := by
  rw [trimEnd, List.reverse_eq_nil_iff, List.dropWhile_eq_nil_iff]
  simp only [List.mem_reverse]

theorem trim_eq_nil_iff {text : List Char} : trim text = [] ↔ ∀ c ∈ text, isBlank c = true := by
  rw [trim, trimEnd_eq_nil_iff, trimStart]
  constructor
  · intro h c hc
    rw [← List.takeWhile_append_dropWhile (p := isBlank) (l := text)] at hc
    rcases List.mem_append.mp hc with hc | hc
    · exact List.mem_takeWhile_imp hc
    · exact h c hc
  · intro h c hc
    exact h c ((List.dropWhile_sublist isBlank).subset hc)

/-- What stands in a text and has no blank at either end stands in the trimmed text as well. -/
theorem IsTrimmed.infix_of_infix {text part inner : List Char} (h : IsTrimmed text part)
    (hinner : inner <:+: text) (hfirst : ∃ c ∈ inner.head?, isBlank c = false)
    (hlast : ∃ c ∈ inner.getLast?, isBlank c = false) : inner <:+: part := by
  obtain ⟨before, behind, rfl, hbefore, hbehind⟩ := h.around
  obtain ⟨left, right, hsplit⟩ := hinner
  obtain ⟨c, hc, hcblank⟩ := hfirst
  obtain ⟨d, hd, hdblank⟩ := hlast
  rw [List.append_assoc] at hsplit
  have hne : inner ≠ [] := List.ne_nil_of_mem (List.mem_of_mem_head? hc)
  -- The blanks before the trimmed text end where the inner one starts, or before.
  obtain ⟨left', hleft⟩ : ∃ left', left' ++ inner ++ right = part ++ behind := by
    rcases List.append_eq_append_iff.mp hsplit with ⟨others, rfl, hrest⟩ | ⟨others, -, hrest⟩
    · cases others with
      | nil => exact ⟨[], hrest⟩
      | cons x others =>
        have hx : some x = some c := by
          rw [← hc, ← List.head?_append_of_ne_nil inner hne, hrest, List.cons_append,
            List.head?_cons]
        obtain rfl := Option.some.inj hx
        have hblank := hbefore x (List.mem_append_right _ List.mem_cons_self)
        exact absurd hblank (Bool.eq_false_iff.mp hcblank)
    · exact ⟨others, by rw [List.append_assoc, hrest]⟩
  -- Nor do the blanks behind it start before the end of the inner one.
  rcases List.append_eq_append_iff.mp hleft with ⟨others, rfl, -⟩ | ⟨others, hend, rfl⟩
  · exact ⟨left', others, rfl⟩
  · cases hothers : others.getLast? with
    | none =>
      rw [List.getLast?_eq_none_iff.mp hothers, List.append_nil] at hend
      exact ⟨left', [], by rw [List.append_nil, hend]⟩
    | some x =>
      have hx : some d = some x := by
        have hgetLast := congrArg List.getLast? hend
        rwa [List.getLast?_append, List.getLast?_append, hothers, hd, Option.some_or,
          Option.some_or] at hgetLast
      obtain rfl := Option.some.inj hx
      have hblank := hbehind d (List.mem_append_left _ (List.mem_of_getLast? hothers))
      exact absurd hblank (Bool.eq_false_iff.mp hdblank)

end EnergyAudit.Text
