import EnergyAudit.Proofs.Suggestion.Prompt
import EnergyAudit.Proofs.Text.Trim

/-!
# The parts of an answer

An answer is split at the first of its blocks that is closed, told by positions in its text: where
a line opens a block, where that line ends, and where the next fence stands.  The code is what
stands between the two fences, the explanation is what stands around them, and nothing else is left
out than the fences, the rest of the opening line and blanks.

## Main definitions

* `FenceAt`, `OpensAt` — a fence and a line that opens a block, by their positions.
* `CodeBlock.IsClosedIn`, `CodeBlock.IsFirstIn` — the blocks of a text.
* `Answer.SplitsAt` — an answer made of what is in a block and of what is around it.

## Main results

* `IsSearch.eq_some_iff` — a search finds the first position at which there is something.
* `codeBlock?_eq_some_iff`, `codeBlock?_eq_none_iff` — the block found is the first that is closed.
* `Answer.ofText_splitsAt` — an answer is split at that block.
-/

namespace EnergyAudit

open EnergyAudit.Text

/-! ### Searches -/

/-- A search goes through a text from its start and stops where it finds something. -/
structure IsSearch {α : Type} (search find : Nat → List Char → Option α) : Prop where
  nil : ∀ position, search position [] = none
  cons : ∀ position c rest, search position (c :: rest) =
    (find position (c :: rest)).or (search (position + 1) rest)
  /-- There is nothing to be found at the end. -/
  find_nil : ∀ position, find position [] = none

namespace IsSearch

variable {α : Type} {search find : Nat → List Char → Option α}

theorem eq_none_iff (h : IsSearch search find) {text : List Char} : ∀ {position : Nat},
    search position text = none ↔ ∀ i, find (position + i) (text.drop i) = none := by
  induction text with
  | nil =>
    intro position
    simp [h.nil, h.find_nil]
  | cons c rest ih =>
    intro position
    rw [h.cons, Option.or_eq_none_iff, ih]
    constructor
    · rintro ⟨hhere, hlater⟩ i
      cases i with
      | zero => exact hhere
      | succ i =>
        rw [List.drop_succ_cons, Nat.add_comm i 1, ← Nat.add_assoc]
        exact hlater i
    · intro hnone
      refine ⟨hnone 0, fun i => ?_⟩
      have hlater := hnone (i + 1)
      rwa [List.drop_succ_cons, Nat.add_comm i 1, ← Nat.add_assoc] at hlater

/-- A search finds what is at the first position at which there is something. -/
theorem eq_some_iff (h : IsSearch search find) {a : α} {text : List Char} : ∀ {position : Nat},
    search position text = some a ↔ ∃ i, find (position + i) (text.drop i) = some a ∧
      ∀ l < i, find (position + l) (text.drop l) = none := by
  induction text with
  | nil =>
    intro position
    simp [h.nil, h.find_nil]
  | cons c rest ih =>
    intro position
    have hshift : ∀ i, find (position + 1 + i) (rest.drop i) =
        find (position + (i + 1)) ((c :: rest).drop (i + 1)) := by
      intro i
      rw [List.drop_succ_cons, Nat.add_comm i 1, Nat.add_assoc]
    rw [h.cons, Option.or_eq_some_iff, ih]
    constructor
    · rintro (hhere | ⟨hhere, i, hfound, hbefore⟩)
      · exact ⟨0, hhere, fun l hl => absurd hl (Nat.not_lt_zero l)⟩
      · refine ⟨i + 1, hshift i ▸ hfound, fun l hl => ?_⟩
        cases l with
        | zero => exact hhere
        | succ l => exact hshift l ▸ hbefore l (Nat.lt_of_succ_lt_succ hl)
    · rintro ⟨i, hfound, hbefore⟩
      cases i with
      | zero => exact .inl hfound
      | succ i =>
        refine .inr ⟨hbefore 0 (Nat.succ_pos i), i, hshift i ▸ hfound, fun l hl => ?_⟩
        exact hshift l ▸ hbefore (l + 1) (Nat.succ_lt_succ hl)

end IsSearch

/-! ### Fences and blocks by their positions -/

/-- A fence stands at a position of a text. -/
def FenceAt (text : List Char) (k : Nat) : Prop := codeFence.toList <+: text.drop k

/-- A line that opens a block stands at a position and ends before another one: a fence, then
neither backticks nor line ends, and then a line end. -/
def OpensAt (text : List Char) (i j : Nat) : Prop :=
  ∃ name, (∀ c ∈ name, c ≠ '\x60' ∧ c ≠ '\n') ∧ j = i + (3 + name.length + 1) ∧
    text.drop i = codeFence.toList ++ (name ++ '\n' :: text.drop j)

namespace CodeBlock

/-- A block of a text that is closed: its line opens it, and it stops at the first fence behind. -/
structure IsClosedIn (b : CodeBlock) (text : List Char) : Prop where
  opens : OpensAt text b.opening b.start
  start_le : b.start ≤ b.stop
  closes : FenceAt text b.stop
  least : ∀ k, b.start ≤ k → FenceAt text k → b.stop ≤ k

/-- The first block of a text that is closed. -/
structure IsFirstIn (b : CodeBlock) (text : List Char) : Prop where
  closed : b.IsClosedIn text
  least : ∀ c : CodeBlock, c.IsClosedIn text → b.opening ≤ c.opening

/-- What stands between the fences of a block. -/
def codeIn (b : CodeBlock) (text : List Char) : List Char := (text.take b.stop).drop b.start

/-- A block with its fences. -/
def wholeIn (b : CodeBlock) (text : List Char) : List Char := (text.take b.behind).drop b.opening

end CodeBlock

/-! ### Finding the first block -/

theorem isSearch_fencePositionFrom? : IsSearch fencePositionFrom? fun position text =>
    if startsWithFence text then some position else none where
  nil position := rfl
  cons position c rest := by
    rw [fencePositionFrom?]
    split <;> rfl
  find_nil position := rfl

theorem fenceAt_iff {text : List Char} {k : Nat} :
    FenceAt text k ↔ startsWithFence (text.drop k) = true :=
  startsWithFence_iff.symm

theorem fencePosition?_eq_some_iff {text : List Char} {k : Nat} :
    fencePosition? text = some k ↔ FenceAt text k ∧ ∀ l, FenceAt text l → k ≤ l := by
  rw [fencePosition?, isSearch_fencePositionFrom?.eq_some_iff]
  simp only [Nat.zero_add, Option.ite_none_right_eq_some, Option.some.injEq,
    ite_eq_right_iff, reduceCtorEq, imp_false, ← fenceAt_iff]
  constructor
  · rintro ⟨_, ⟨hfence, rfl⟩, hbefore⟩
    exact ⟨hfence, fun l hl => Nat.le_of_not_lt fun hlt => hbefore l hlt hl⟩
  · rintro ⟨hfence, hleast⟩
    exact ⟨k, ⟨hfence, rfl⟩, fun l hlt hl => Nat.not_lt_of_le (hleast l hl) hlt⟩

/-- The line found at the start of a text is the one that opens a block there. -/
theorem openingLength?_eq_some_iff {text : List Char} {n : Nat} :
    openingLength? text = some n ↔ OpensAt text 0 n := by
  constructor
  · intro h
    unfold openingLength? at h
    split at h
    · next hfence =>
      obtain ⟨behind, rfl⟩ := startsWithFence_iff.mp hfence
      have hbehind : (codeFence.toList ++ behind).drop 3 = behind := by simp [toList_codeFence]
      dsimp only at h
      rw [hbehind, Option.ite_none_right_eq_some, Option.some.injEq, beq_iff_eq] at h
      obtain ⟨hline, rfl⟩ := h
      -- What is behind the fence is the name and a rest that starts with the end of the line.
      have hsplit := List.takeWhile_append_dropWhile (p := fun c => c != '\x60' && c != '\n')
        (l := behind)
      generalize hname : behind.takeWhile (fun c => c != '\x60' && c != '\n') = name
        at hsplit hline ⊢
      rw [← List.drop_drop, hbehind, ← hsplit, List.drop_left] at hline
      obtain ⟨rest, hrest⟩ := List.head?_eq_some_iff.mp hline
      rw [hrest] at hsplit
      refine ⟨name, fun c hc => ?_, (Nat.zero_add _).symm, ?_⟩
      · rw [← hname] at hc
        simpa using List.mem_takeWhile_imp hc
      · rw [List.drop_zero, Nat.add_assoc, ← List.drop_drop, hbehind, ← hsplit,
          ← List.drop_drop, List.drop_left]
        rfl
    · cases h
  · rintro ⟨name, hname, rfl, htext⟩
    rw [List.drop_zero] at htext
    rw [htext, openingLength?_fence _ hname, Nat.zero_add]

theorem opensAt_add_iff {text : List Char} {i n : Nat} :
    OpensAt text i (i + n) ↔ OpensAt (text.drop i) 0 n := by
  simp only [OpensAt, Nat.zero_add, Nat.add_zero, Nat.add_left_cancel_iff, List.drop_drop]

theorem OpensAt.le {text : List Char} {i j : Nat} (h : OpensAt text i j) : i ≤ j := by
  obtain ⟨name, -, rfl, -⟩ := h
  exact Nat.le_add_right _ _

theorem fenceAt_add_iff {text : List Char} {i k : Nat} :
    FenceAt text (i + k) ↔ FenceAt (text.drop i) k := by
  rw [FenceAt, FenceAt, List.drop_drop]

/-- The block found at a position is the closed one that opens there. -/
theorem blockAt?_eq_some_iff {text : List Char} {i : Nat} {b : CodeBlock} :
    blockAt? i (text.drop i) = some b ↔ b.opening = i ∧ b.IsClosedIn text := by
  unfold blockAt?
  constructor
  · intro h
    split at h
    · cases h
    · next n hopening =>
      obtain ⟨k, hfence, rfl⟩ := Option.map_eq_some_iff.mp h
      rw [List.drop_drop, fencePosition?_eq_some_iff] at hfence
      -- The fence is found by its distance from the line, and the block tells its position.
      obtain ⟨hcloses, hleast⟩ := hfence
      refine ⟨rfl, ?_, Nat.le_add_right _ _, fenceAt_add_iff.mpr hcloses, fun l hl hfence => ?_⟩
      · exact opensAt_add_iff.mpr (openingLength?_eq_some_iff.mp hopening)
      · obtain ⟨m, rfl⟩ := Nat.exists_eq_add_of_le hl
        exact Nat.add_le_add_left (hleast m (fenceAt_add_iff.mp hfence)) _
  · obtain ⟨opening, start, stop⟩ := b
    rintro ⟨rfl, hopens, hle, hcloses, hleast⟩
    dsimp only at hopens hle hcloses hleast ⊢
    obtain ⟨n, rfl⟩ := Nat.exists_eq_add_of_le hopens.le
    obtain ⟨k, rfl⟩ := Nat.exists_eq_add_of_le hle
    have hopening := openingLength?_eq_some_iff.mpr (opensAt_add_iff.mp hopens)
    have hfence : fencePosition? (text.drop (opening + n)) = some k := by
      refine fencePosition?_eq_some_iff.mpr ⟨fenceAt_add_iff.mp hcloses, fun l hl => ?_⟩
      exact Nat.le_of_add_le_add_left
        (hleast (opening + n + l) (Nat.le_add_right _ _) (fenceAt_add_iff.mpr hl))
    rw [hopening]
    dsimp only
    rw [List.drop_drop, hfence, Option.map_some]

theorem isSearch_codeBlockFrom? : IsSearch codeBlockFrom? blockAt? where
  nil position := rfl
  cons position c rest := by
    rw [codeBlockFrom?]
    split
    · next block hblock => rw [hblock, Option.some_or]
    · next hblock => rw [hblock, Option.none_or]
  find_nil position := rfl

/-- There is a block at a position unless none is found there. -/
theorem blockAt?_eq_none_iff {text : List Char} {i : Nat} :
    blockAt? i (text.drop i) = none ↔ ∀ b : CodeBlock, b.IsClosedIn text → b.opening ≠ i := by
  rw [Option.eq_none_iff_forall_ne_some]
  refine forall_congr' fun b => ?_
  rw [Ne, blockAt?_eq_some_iff, not_and']

/-- The block found is the first one that is closed. -/
theorem codeBlock?_eq_some_iff {text : List Char} {b : CodeBlock} :
    codeBlock? text = some b ↔ b.IsFirstIn text := by
  rw [codeBlock?, isSearch_codeBlockFrom?.eq_some_iff]
  simp only [Nat.zero_add, blockAt?_eq_some_iff, blockAt?_eq_none_iff]
  constructor
  · rintro ⟨_, ⟨rfl, hclosed⟩, hbefore⟩
    exact ⟨hclosed, fun c hc => Nat.le_of_not_lt fun hlt => hbefore c.opening hlt c hc rfl⟩
  · rintro ⟨hclosed, hleast⟩
    refine ⟨b.opening, ⟨rfl, hclosed⟩, fun l hl c hc hopening => ?_⟩
    exact Nat.not_lt_of_le (hleast c hc) (hopening ▸ hl)

/-- No block is found if none is closed. -/
theorem codeBlock?_eq_none_iff {text : List Char} :
    codeBlock? text = none ↔ ∀ b : CodeBlock, ¬ b.IsClosedIn text := by
  rw [codeBlock?, isSearch_codeBlockFrom?.eq_none_iff]
  simp only [Nat.zero_add, blockAt?_eq_none_iff]
  exact ⟨fun h b hb => h b.opening b hb rfl, fun h i b hb => absurd hb (h b)⟩

/-! ### The parts of a text -/

namespace CodeBlock

variable {b : CodeBlock} {text : List Char}

/-- Behind the place where a closed block opens stand its line, its code and its second fence. -/
theorem IsClosedIn.exists_drop_opening_eq (h : b.IsClosedIn text) :
    ∃ name, (∀ c ∈ name, c ≠ '\x60' ∧ c ≠ '\n') ∧ text.drop b.opening = codeFence.toList ++
      (name ++ '\n' :: (b.codeIn text ++ (codeFence.toList ++ text.drop b.behind))) := by
  obtain ⟨name, hname, -, hopens⟩ := h.opens
  obtain ⟨rest, hcloses⟩ := h.closes
  have hbehind : text.drop b.behind = rest := by
    rw [behind, ← List.drop_drop, ← hcloses, toList_codeFence]
    rfl
  have hcode : text.drop b.start = b.codeIn text ++ text.drop b.stop := by
    have hsplit := List.take_append_drop (b.stop - b.start) (text.drop b.start)
    rw [List.drop_drop, Nat.add_sub_of_le h.start_le, ← List.drop_take] at hsplit
    exact hsplit.symm
  exact ⟨name, hname, by rw [hopens, hcode, hbehind, hcloses]⟩

/-- A block with its fences starts with the first of them and ends with the second. -/
theorem IsClosedIn.exists_wholeIn_eq (h : b.IsClosedIn text) :
    ∃ line, b.wholeIn text = codeFence.toList ++ (line ++ codeFence.toList) := by
  obtain ⟨name, -, hdrop⟩ := h.exists_drop_opening_eq
  have hle : b.opening ≤ text.length := by
    by_contra hlt
    rw [List.drop_eq_nil_of_le (Nat.le_of_not_le hlt), toList_codeFence] at hdrop
    cases hdrop
  have htake : text.take b.behind = text.take b.opening ++
      (codeFence.toList ++ ((name ++ '\n' :: b.codeIn text) ++ codeFence.toList)) := by
    have htext := (List.take_append_drop b.behind text).trans
      (List.take_append_drop b.opening text).symm
    rw [hdrop] at htext
    apply List.append_cancel_right
    rw [htext]
    simp only [List.append_assoc, List.cons_append]
  refine ⟨name ++ '\n' :: b.codeIn text, ?_⟩
  rw [wholeIn, htake, List.drop_left' (List.length_take_of_le hle)]

/-- A block stands in the text behind every place before it. -/
theorem wholeIn_infix_drop {k : Nat} (hk : k ≤ b.opening) : b.wholeIn text <:+: text.drop k := by
  rw [wholeIn, List.drop_take]
  exact (List.take_prefix _ _).isInfix.trans (List.drop_suffix_drop_left text hk).isInfix

end CodeBlock

/-! ### The parts of an answer -/

namespace Answer

/-- An answer is made of a block of a text and of what is around it. -/
structure SplitsAt (a : Answer) (text : List Char) (b : CodeBlock) : Prop where
  first : b.IsFirstIn text
  /-- The code is what stands in the block, without the blanks at its end. -/
  code : IsTrimmedEnd (b.codeIn text) a.code.toList
  /-- The explanation is what stands before and behind the block, with an empty line between if
  neither is blank. -/
  rationale : ∃ before after, IsTrimmed (text.take b.opening) before ∧
    IsTrimmed (text.drop b.behind) after ∧ a.rationale.toList =
      if before = [] ∨ after = [] then before ++ after else before ++ '\n' :: '\n' :: after
  /-- Apart from these there are only the line that opens the block and the fence that closes it. -/
  parts : ∃ name, (∀ c ∈ name, c ≠ '\x60' ∧ c ≠ '\n') ∧ text = text.take b.opening ++
    (codeFence.toList ++ (name ++ '\n' :: (b.codeIn text ++
      (codeFence.toList ++ text.drop b.behind))))
  /-- Every later block stays in the explanation as it is. -/
  later : ∀ c : CodeBlock, c.IsClosedIn text → b.behind ≤ c.opening →
    c.wholeIn text <:+: a.rationale.toList

theorem joinParagraphs_eq (before after : List Char) : joinParagraphs before after =
    if before = [] ∨ after = [] then before ++ after else before ++ '\n' :: '\n' :: after := by
  cases before <;> cases after <;> simp [joinParagraphs]

theorem suffix_joinParagraphs (before after : List Char) :
    after <:+ joinParagraphs before after := by
  rw [joinParagraphs_eq]
  split
  · exact List.suffix_append _ _
  · exact ⟨before ++ ['\n', '\n'], by simp⟩

/-- A later block is not touched by what is done to the text behind the first one. -/
theorem wholeIn_infix_joinParagraphs {b c : CodeBlock} {text before after : List Char}
    (hafter : IsTrimmed (text.drop b.behind) after) (hc : c.IsClosedIn text)
    (hlater : b.behind ≤ c.opening) : c.wholeIn text <:+: joinParagraphs before after := by
  obtain ⟨line, hwhole⟩ := hc.exists_wholeIn_eq
  have hfirst : ∃ x ∈ (c.wholeIn text).head?, isBlank x = false :=
    ⟨'\x60', by rw [hwhole, toList_codeFence]; rfl, by decide⟩
  have hlast : ∃ x ∈ (c.wholeIn text).getLast?, isBlank x = false := by
    refine ⟨'\x60', ?_, by decide⟩
    rw [hwhole, ← List.append_assoc, List.getLast?_append, toList_codeFence]
    rfl
  have hinfix := hafter.infix_of_infix (CodeBlock.wholeIn_infix_drop hlater) hfirst hlast
  exact hinfix.trans (suffix_joinParagraphs before after).isInfix

/-- **An answer is split at the first block of its text that is closed.**  Without such a block the
whole text is the explanation. -/
theorem ofText_splitsAt (raw : String) :
    (∃ b, (ofText raw).SplitsAt raw.toList b) ∨
      (∀ b : CodeBlock, ¬ b.IsClosedIn raw.toList) ∧ (ofText raw).code = "" ∧
        IsTrimmed raw.toList (ofText raw).rationale.toList := by
  unfold ofText
  dsimp only
  cases hblock : codeBlock? raw.toList with
  | none =>
    refine .inr ⟨codeBlock?_eq_none_iff.mp hblock, rfl, ?_⟩
    exact isTrimmed_iff.mpr String.toList_ofList
  | some b =>
    have hfirst := codeBlock?_eq_some_iff.mp hblock
    have hbefore := isTrimmed_iff.mpr (Eq.refl (trim (raw.toList.take b.opening)))
    have hafter := isTrimmed_iff.mpr (Eq.refl (trim (raw.toList.drop b.behind)))
    obtain ⟨name, hname, hdrop⟩ := hfirst.closed.exists_drop_opening_eq
    refine .inl ⟨b, hfirst, ?_, ⟨_, _, hbefore, hafter, ?_⟩, ⟨name, hname, ?_⟩, ?_⟩
    · exact isTrimmedEnd_iff.mpr String.toList_ofList
    · rw [← joinParagraphs_eq, String.toList_ofList]
    · rw [← hdrop, List.take_append_drop]
    · intro c hc hlater
      rw [String.toList_ofList]
      exact wholeIn_infix_joinParagraphs hafter hc hlater

end Answer

end EnergyAudit
