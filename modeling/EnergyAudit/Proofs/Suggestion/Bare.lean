import EnergyAudit.Proofs.Suggestion.Answer

/-!
# Answers that say nothing

An answer that is not blank may still have neither an explanation nor code: it is a block with
nothing in it and nothing around it.  Only the fences keep such a text from being blank, and they
are left out of both parts.

## Main definitions

* `Answer.IsEmpty` — an answer without an explanation and without code.
* `IsBareBlock` — a text that is a block with nothing in it and nothing around it.

## Main results

* `IsBareBlock.exists_isFirstIn` — that block is the first of the text.
* `Answer.isEmpty_ofText_iff` — there are no other texts of which both parts are empty.
-/

namespace EnergyAudit

open EnergyAudit.Text

/-- An answer has neither an explanation nor code. -/
def Answer.IsEmpty (a : Answer) : Prop := a.rationale = "" ∧ a.code = ""

/-- A text is a block in which and around which there are nothing but blanks.  The line that opens
the block may have a name. -/
def IsBareBlock (text : List Char) : Prop :=
  ∃ before name inside behind, (∀ c ∈ before, isBlank c = true) ∧
    (∀ c ∈ name, c ≠ '\x60' ∧ c ≠ '\n') ∧ (∀ c ∈ inside, isBlank c = true) ∧
    (∀ c ∈ behind, isBlank c = true) ∧
    text = before ++ (codeFence.toList ++ (name ++ '\n' :: (inside ++
      (codeFence.toList ++ behind))))

/-! ### The block of such a text -/

/-- No fence stands in blanks. -/
theorem FenceAt.length_le {before rest : List Char} {k : Nat}
    (hbefore : ∀ c ∈ before, isBlank c = true) (h : FenceAt (before ++ rest) k) :
    before.length ≤ k := by
  by_contra hlt
  rw [Nat.not_le] at hlt
  obtain ⟨behind, hdrop⟩ := h
  rw [List.drop_append_of_le_length (Nat.le_of_lt hlt), List.drop_eq_getElem_cons hlt,
    toList_codeFence] at hdrop
  have hc : '\x60' = before[k] := (List.cons.inj hdrop).1
  have hblank := hbefore _ (List.getElem_mem hlt)
  rw [← hc] at hblank
  exact absurd hblank (by decide)

theorem fencePosition?_blanks {before : List Char} (rest : List Char)
    (hbefore : ∀ c ∈ before, isBlank c = true) :
    fencePosition? (before ++ (codeFence.toList ++ rest)) = some before.length := by
  refine fencePosition?_eq_some_iff.mpr ⟨?_, fun l hl => hl.length_le hbefore⟩
  rw [FenceAt, List.drop_left]
  exact List.prefix_append _ _

theorem OpensAt.fenceAt {text : List Char} {i j : Nat} (h : OpensAt text i j) : FenceAt text i := by
  obtain ⟨name, -, -, hdrop⟩ := h
  rw [FenceAt, hdrop]
  exact List.prefix_append _ _

/-- The block of a text that is a bare one is its first, and all that it has besides is blank. -/
theorem IsBareBlock.exists_isFirstIn {text : List Char} (h : IsBareBlock text) :
    ∃ b : CodeBlock, b.IsFirstIn text ∧ (∀ c ∈ text.take b.opening, isBlank c = true) ∧
      (∀ c ∈ b.codeIn text, isBlank c = true) ∧ ∀ c ∈ text.drop b.behind, isBlank c = true := by
  obtain ⟨before, name, inside, behind, hbefore, hname, hinside, hbehind, rfl⟩ := h
  -- The text up to the code, and up to what is behind the block.
  let opening := before ++ (codeFence.toList ++ (name ++ ['\n']))
  have hlength : opening.length = before.length + (3 + name.length + 1) := by
    simp only [opening, toList_codeFence, List.length_append, List.length_cons, List.length_nil]
    omega
  have hopening : ∀ rest, before ++ (codeFence.toList ++ (name ++ '\n' :: rest)) =
      opening ++ rest := by
    intro rest
    simp only [opening, List.append_assoc, List.singleton_append]
  refine ⟨⟨before.length, opening.length, opening.length + inside.length⟩, ⟨?_, ?_⟩, ?_, ?_, ?_⟩
  · refine (blockAt?_eq_some_iff (i := before.length).mp ?_).2
    rw [List.drop_left, blockAt?, openingLength?_fence _ hname]
    have hcode : (codeFence.toList ++ (name ++ '\n' :: (inside ++
        (codeFence.toList ++ behind)))).drop (3 + name.length + 1) =
          inside ++ (codeFence.toList ++ behind) := by
      rw [← List.drop_drop, ← List.drop_drop, toList_codeFence]
      simp
    dsimp only
    rw [hcode, fencePosition?_blanks _ hinside, Option.map_some, hlength]
  · intro c hc
    exact hc.opens.fenceAt.length_le hbefore
  · rwa [List.take_left]
  · rw [CodeBlock.codeIn, hopening, drop_take_append]
    exact hinside
  · have hbehindBlock : (opening ++ (inside ++ (codeFence.toList ++ behind))).drop
        (opening.length + inside.length + 3) = behind := by
      rw [← List.drop_drop, ← List.drop_drop, List.drop_left, List.drop_left, toList_codeFence]
      rfl
    rw [CodeBlock.behind, hopening, hbehindBlock]
    exact hbehind

/-- A text of which the first block has nothing in it and nothing around it is a bare one. -/
theorem CodeBlock.IsClosedIn.isBareBlock {b : CodeBlock} {text : List Char} (h : b.IsClosedIn text)
    (hbefore : ∀ c ∈ text.take b.opening, isBlank c = true)
    (hinside : ∀ c ∈ b.codeIn text, isBlank c = true)
    (hbehind : ∀ c ∈ text.drop b.behind, isBlank c = true) : IsBareBlock text := by
  obtain ⟨name, hname, hdrop⟩ := h.exists_drop_opening_eq
  refine ⟨_, name, _, _, hbefore, hname, hinside, hbehind, ?_⟩
  rw [← hdrop, List.take_append_drop]

/-! ### Empty answers -/

namespace Answer

theorem joinParagraphs_eq_nil_iff {before after : List Char} :
    joinParagraphs before after = [] ↔ before = [] ∧ after = [] := by
  rw [joinParagraphs_eq]
  split
  · exact List.append_eq_nil_iff
  · next h => exact iff_of_false (by simp) fun hboth => h (.inl hboth.1)

theorem ofList_eq_empty_iff {chars : List Char} : String.ofList chars = "" ↔ chars = [] := by
  rw [← String.toList_inj, String.toList_ofList, String.toList_empty]

/-- **An answer is empty just if its text is blank or a bare block.** -/
theorem isEmpty_ofText_iff {raw : String} :
    (ofText raw).IsEmpty ↔ isAllBlank raw = true ∨ IsBareBlock raw.toList := by
  have hblank : isAllBlank raw = true ↔ ∀ c ∈ raw.toList, isBlank c = true := by
    rw [isAllBlank, List.all_eq_true]
  unfold IsEmpty ofText
  rw [hblank]
  dsimp only
  cases hblock : codeBlock? raw.toList with
  | none =>
    have hnot : ¬ IsBareBlock raw.toList := by
      intro hbare
      obtain ⟨b, hb, -⟩ := hbare.exists_isFirstIn
      exact codeBlock?_eq_none_iff.mp hblock b hb.closed
    simp only [ofList_eq_empty_iff, trim_eq_nil_iff, and_true, hnot, or_false]
  | some b =>
    have hfirst := codeBlock?_eq_some_iff.mp hblock
    have hnot : ¬ ∀ c ∈ raw.toList, isBlank c = true := by
      intro hall
      have hfence : FenceAt (raw.toList ++ []) b.opening := by
        rw [List.append_nil]
        exact hfirst.closed.opens.fenceAt
      obtain ⟨rest, hrest⟩ := hfirst.closed.opens.fenceAt
      rw [List.drop_eq_nil_of_le (hfence.length_le hall), toList_codeFence] at hrest
      cases hrest
    simp only [ofList_eq_empty_iff, joinParagraphs_eq_nil_iff, trim_eq_nil_iff, trimEnd_eq_nil_iff,
      hnot, false_or]
    constructor
    · rintro ⟨⟨hbefore, hbehind⟩, hinside⟩
      exact hfirst.closed.isBareBlock hbefore hinside hbehind
    · intro hbare
      -- The first block of the text is the bare one.
      obtain ⟨c, hc, hbefore, hinside, hbehind⟩ := hbare.exists_isFirstIn
      obtain rfl : b = c := Option.some.inj (hblock.symm.trans (codeBlock?_eq_some_iff.mpr hc))
      exact ⟨⟨hbefore, hbehind⟩, hinside⟩

end Answer

end EnergyAudit
