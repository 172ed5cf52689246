import EnergyAudit.Proofs.Suggestion.Prompt

/-!
# The pattern of a block

A block of code is told by a pattern: three backticks, any number of characters other than a
backtick and a line end, a carriage return or none, a line end, as few characters as possible, and
three backticks.  A pattern is a list of parts, each of which prefers to take more characters or
fewer.  Of all places at which a pattern matches, the leftmost counts.  Of all matches there, the
one counts that does better at the first of the parts in which they differ.

## Main definitions

* `PatternPart.lengths` — the numbers of characters that a part may take, the preferred one first.
* `TextPattern.ways` — all matches at the start of a text, the preferred one first.
* `TextPattern.find?` — the preferred one of the leftmost matches.
* `blockPattern` — the pattern of a block.

## Main results

* `blockAt?_eq_first?` — the match at a place is the block that opens there.
* `codeBlock?_eq_find?` — the block found is the one that the pattern finds.
-/

namespace EnergyAudit

open EnergyAudit.Text

/-! ### Patterns -/

/-- A part of a pattern. -/
inductive PatternPart where
  /-- These characters. -/
  | literal (chars : List Char)
  /-- One of some characters or none, one if possible. -/
  | optional (accepts : Char → Bool)
  /-- Any number of some characters, as many as possible. -/
  | most (accepts : Char → Bool)
  /-- Any number of some characters, as few as possible. -/
  | fewest (accepts : Char → Bool)

namespace PatternPart

/-- How many characters at the start of a text are accepted, the largest number first. -/
def greedyLengths (accepts : Char → Bool) : List Char → List Nat
  | [] => [0]
  | c :: rest => (if accepts c then (greedyLengths accepts rest).map (· + 1) else []) ++ [0]

/-- How many characters at the start of a text are accepted, the least number first. -/
def lazyLengths (accepts : Char → Bool) : List Char → List Nat
  | [] => [0]
  | c :: rest => 0 :: if accepts c then (lazyLengths accepts rest).map (· + 1) else []

/-- The numbers of characters that a part may take from the start of a text, in the order in which
they are tried. -/
def lengths (text : List Char) : PatternPart → List Nat
  | literal chars => if chars.isPrefixOf text then [chars.length] else []
  | optional accepts => if text.head?.any accepts then [1, 0] else [0]
  | most accepts => greedyLengths accepts text
  | fewest accepts => lazyLengths accepts text

end PatternPart

/-- A pattern matches what its parts match one after the other. -/
abbrev TextPattern := List PatternPart

namespace TextPattern

/-- All matches at the start of a text, the preferred one first.  A match is told by the number of
characters that each part takes. -/
def ways : TextPattern → List Char → List (List Nat)
  | [], _ => [[]]
  | part :: parts, text => (part.lengths text).flatMap fun n =>
    (ways parts (text.drop n)).map (n :: ·)

/-- The preferred match at the start of a text. -/
def first? (pattern : TextPattern) (text : List Char) : Option (List Nat) :=
  (pattern.ways text).head?

/-- The position of the leftmost match, counted on from the position of the text, and the match that
is preferred there. -/
def findFrom? (pattern : TextPattern) (position : Nat) (text : List Char) :
    Option (Nat × List Nat) :=
  match pattern.first? text with
  | some taken => some (position, taken)
  | none => match text with
    | [] => none
    | _ :: rest => findFrom? pattern (position + 1) rest

/-- The position of the leftmost match and the match that is preferred there. -/
def find? (pattern : TextPattern) (text : List Char) : Option (Nat × List Nat) :=
  pattern.findFrom? 0 text

/-- The numbers that the first part may take are tried one after the other. -/
theorem first?_cons (part : PatternPart) (parts : TextPattern) (text : List Char) :
    first? (part :: parts) text =
      (part.lengths text).findSome? fun n => (first? parts (text.drop n)).map (n :: ·) := by
  rw [first?, ways, List.head?_flatMap]
  simp only [List.head?_map, first?]

theorem first?_literal_cons (chars : List Char) (parts : TextPattern) (text : List Char) :
    first? (.literal chars :: parts) text =
      if chars.isPrefixOf text then
        (first? parts (text.drop chars.length)).map (chars.length :: ·)
      else none := by
  rw [first?_cons, PatternPart.lengths]
  split
  · rw [List.findSome?_singleton]
  · rfl

end TextPattern

/-! ### The pattern of a block -/

/-- The pattern of what stands behind the line that opens a block, the code and a fence. -/
def codePattern : TextPattern := [.fewest fun _ => true, .literal codeFence.toList]

/-- The pattern of the end of a line that opens a block and of what stands behind it. -/
def lineEndPattern : TextPattern := .optional (· == '\r') :: .literal ['\n'] :: codePattern

/-- The characters that may stand behind the fence of a line that opens a block. -/
def isNameChar (c : Char) : Bool := c != '\x60' && c != '\n'

/-- The pattern of a block, in the usual notation "```[^`\n]*\r?\n(.*?)```" where a dot stands for
line ends as well.  Its fifth part is the code. -/
def blockPattern : TextPattern :=
  .literal codeFence.toList :: .most isNameChar :: lineEndPattern

/-- The place that is reached from a position by what some parts take. -/
def placeBehind (position : Nat) (taken : List Nat) : Nat := taken.foldl (· + ·) position

/-- The block that a match of the pattern is. -/
def CodeBlock.ofMatch (position : Nat) (taken : List Nat) : CodeBlock :=
  ⟨position, placeBehind position (taken.take 4), placeBehind position (taken.take 5)⟩

theorem isPrefixOf_codeFence (text : List Char) :
    codeFence.toList.isPrefixOf text = startsWithFence text := by
  rw [Bool.eq_iff_iff, List.isPrefixOf_iff_prefix, startsWithFence_iff]

theorem length_codeFence : codeFence.toList.length = 3 := by
  rw [toList_codeFence]
  rfl

/-! ### The code -/

/-- The least number of characters before a fence leads to the first fence. -/
theorem findSome?_lazyLengths (text : List Char) : ∀ position,
    ((PatternPart.lazyLengths (fun _ => true) text).findSome? fun n =>
      if startsWithFence (text.drop n) then some (n + position) else none) =
      fencePositionFrom? position text := by
  induction text with
  | nil => exact fun _ => rfl
  | cons c rest ih =>
    intro position
    have hshift : ∀ n, n + 1 + position = n + (position + 1) := by omega
    rw [PatternPart.lazyLengths, if_pos rfl, List.findSome?_cons, List.findSome?_map,
      List.drop_zero, fencePositionFrom?, ← ih (position + 1)]
    cases hfence : startsWithFence (c :: rest) with
    | true => rw [if_pos rfl, Nat.zero_add, if_pos rfl]
    | false =>
      simp only [Function.comp_def, List.drop_succ_cons, hshift, Bool.false_eq_true, if_false]

/-- The code ends where the next fence is. -/
theorem first?_codePattern (text : List Char) :
    codePattern.first? text = (fencePosition? text).map fun n => [n, 3] := by
  have hfence : ∀ n, (TextPattern.first? [.literal codeFence.toList] (text.drop n)).map (n :: ·) =
      (if startsWithFence (text.drop n) then some (n + 0) else none).map fun n => [n, 3] := by
    intro n
    rw [TextPattern.first?_literal_cons, isPrefixOf_codeFence, length_codeFence, Nat.add_zero]
    split <;> rfl
  rw [codePattern, TextPattern.first?_cons, fencePosition?, ← findSome?_lazyLengths text 0,
    List.map_findSome?]
  simp only [hfence]
  rfl

/-! ### The line that opens a block -/

theorem first?_newline_cons (c : Char) (rest : List Char) :
    TextPattern.first? (.literal ['\n'] :: codePattern) (c :: rest) =
      if c = '\n' then (codePattern.first? rest).map (1 :: ·) else none := by
  have hprefix : ['\n'].isPrefixOf (c :: rest) = decide (c = '\n') := by
    simp only [List.isPrefixOf, Bool.and_true, beq_eq_decide, eq_comm]
  rw [TextPattern.first?_literal_cons, hprefix]
  simp only [decide_eq_true_eq]
  rfl

/-- A line ends with a line end, and there may be a carriage return before it. -/
theorem first?_lineEndPattern_cons (c : Char) (rest : List Char) :
    lineEndPattern.first? (c :: rest) =
      if c = '\r' then (TextPattern.first? (.literal ['\n'] :: codePattern) rest).map (1 :: ·)
      else (TextPattern.first? (.literal ['\n'] :: codePattern) (c :: rest)).map (0 :: ·) := by
  rw [lineEndPattern, TextPattern.first?_cons, PatternPart.lengths]
  by_cases hc : c = '\r'
  · subst hc
    have hnone : TextPattern.first? (.literal ['\n'] :: codePattern) ('\r' :: rest) = none := by
      rw [first?_newline_cons]
      rfl
    have hpair : ∀ f : Nat → Option (List Nat), [1, 0].findSome? f = (f 1).or (f 0) := by
      intro f
      cases hone : f 1 <;> simp [hone]
    simp [hpair, hnone]
  · simp [hc]

/-- Where a line does not end behind all these characters, it does not end behind fewer. -/
theorem first?_lineEndPattern_eq_none {c : Char} {rest : List Char} (hc : isNameChar c = true)
    (h : TextPattern.first? (.literal ['\n'] :: codePattern)
      (rest.drop (rest.takeWhile isNameChar).length) = none) :
    lineEndPattern.first? (c :: rest) = none := by
  rw [first?_lineEndPattern_cons]
  split
  · cases rest with
    | nil => rfl
    | cons d rest =>
      by_cases hd : d = '\n'
      · subst hd
        rw [List.takeWhile_cons_of_neg (by decide), List.length_nil, List.drop_zero] at h
        rw [h, Option.map_none]
      · rw [first?_newline_cons, if_neg hd, Option.map_none]
  · have hnewline : c ≠ '\n' := fun heq => by
      rw [heq] at hc
      cases hc
    rw [first?_newline_cons, if_neg hnewline, Option.map_none]

/-- Of the matches of a line that opens a block the one counts that takes all characters up to the
line end, since behind fewer of them the same is found or nothing. -/
theorem findSome?_greedyLengths (text : List Char) : ∀ position,
    ((PatternPart.greedyLengths isNameChar text).findSome? fun n =>
      (lineEndPattern.first? (text.drop n)).map ((n + position) :: ·)) =
      (TextPattern.first? (.literal ['\n'] :: codePattern)
        (text.drop (text.takeWhile isNameChar).length)).map fun taken =>
          ((text.takeWhile isNameChar).length + position) :: 0 :: taken := by
  induction text with
  | nil => exact fun _ => rfl
  | cons c rest ih =>
    intro position
    have hshift : ∀ n, n + 1 + position = n + (position + 1) := by omega
    rw [PatternPart.greedyLengths]
    cases hc : isNameChar c with
    | false =>
      rw [List.takeWhile_cons_of_neg (by simp [hc])]
      have hreturn : c ≠ '\r' := fun heq => by
        rw [heq] at hc
        cases hc
      simp [first?_lineEndPattern_cons, hreturn, Function.comp_def]
    | true =>
      rw [List.takeWhile_cons_of_pos hc, if_pos rfl, List.findSome?_append, List.findSome?_map]
      simp only [Function.comp_def, List.drop_succ_cons, hshift, List.length_cons,
        ih (position + 1)]
      cases hline : TextPattern.first? (.literal ['\n'] :: codePattern)
          (rest.drop (rest.takeWhile isNameChar).length) with
      | some taken => rfl
      | none => simp [first?_lineEndPattern_eq_none hc hline]

/-! ### Blocks -/

/-- The pattern matches a fence, all characters up to the line end, and what is found behind
them. -/
theorem first?_blockPattern (text : List Char) : blockPattern.first? text =
    if startsWithFence text then
      (TextPattern.first? (.literal ['\n'] :: codePattern)
        ((text.drop 3).drop ((text.drop 3).takeWhile isNameChar).length)).map fun taken =>
          3 :: ((text.drop 3).takeWhile isNameChar).length :: 0 :: taken
    else none := by
  rw [blockPattern, TextPattern.first?_literal_cons, isPrefixOf_codeFence, length_codeFence,
    TextPattern.first?_cons, PatternPart.lengths]
  have hline := findSome?_greedyLengths (text.drop 3) 0
  simp only [Nat.add_zero] at hline
  rw [hline, Option.map_map]
  rfl

/-- The match of the pattern at the start of a text is the block that opens there. -/
theorem blockAt?_eq_first? (position : Nat) (text : List Char) :
    blockAt? position text = (blockPattern.first? text).map (CodeBlock.ofMatch position) := by
  rw [first?_blockPattern]
  unfold blockAt? openingLength?
  cases startsWithFence text with
  | false => rfl
  | true =>
    have hname : ((text.drop 3).takeWhile fun c => c != '\x60' && c != '\n') =
        (text.drop 3).takeWhile isNameChar := rfl
    rw [if_pos rfl, if_pos rfl, hname]
    generalize (text.drop 3).takeWhile isNameChar = name
    dsimp only
    rw [← List.drop_drop]
    cases hbehind : (text.drop 3).drop name.length with
    | nil => rfl
    | cons c rest =>
      rw [first?_newline_cons, first?_codePattern, List.head?_cons]
      by_cases hc : c = '\n'
      · have hrest : text.drop (3 + name.length + 1) = rest := by
          rw [← List.drop_drop, ← List.drop_drop, hbehind, List.drop_one, List.tail_cons]
        subst hc
        simp only [beq_self_eq_true, if_true, hrest]
        cases fencePosition? rest <;> simp [CodeBlock.ofMatch, placeBehind, Nat.add_assoc]
      · simp [hc]

/-- The block ends where the match does. -/
theorem behind_ofMatch {text : List Char} {taken : List Nat}
    (h : blockPattern.first? text = some taken) (position : Nat) :
    (CodeBlock.ofMatch position taken).behind = placeBehind position taken := by
  rw [first?_blockPattern] at h
  split at h
  · obtain ⟨taken, hnewline, rfl⟩ := Option.map_eq_some_iff.mp h
    cases hbehind : (text.drop 3).drop ((text.drop 3).takeWhile isNameChar).length with
    | nil =>
      rw [hbehind] at hnewline
      cases hnewline
    | cons c rest =>
      rw [hbehind, first?_newline_cons, first?_codePattern] at hnewline
      split at hnewline
      · obtain ⟨taken, hcode, rfl⟩ := Option.map_eq_some_iff.mp hnewline
        obtain ⟨n, -, rfl⟩ := Option.map_eq_some_iff.mp hcode
        simp [CodeBlock.ofMatch, CodeBlock.behind, placeBehind]
      · cases hnewline
  · cases h

theorem codeBlockFrom?_eq_findFrom? (text : List Char) : ∀ position,
    codeBlockFrom? position text = (blockPattern.findFrom? position text).map fun (start, taken) =>
      CodeBlock.ofMatch start taken := by
  induction text with
  | nil => exact fun _ => rfl
  | cons c rest ih =>
    intro position
    rw [codeBlockFrom?, TextPattern.findFrom?, blockAt?_eq_first?]
    cases blockPattern.first? (c :: rest) with
    | none => exact ih (position + 1)
    | some taken => rfl

/-- **The block found is the leftmost match of the pattern**, and of the matches there the preferred
one: it opens where the match starts, and its code is what the fifth part takes. -/
theorem codeBlock?_eq_find? (text : List Char) : codeBlock? text =
    (blockPattern.find? text).map fun (start, taken) => CodeBlock.ofMatch start taken :=
  codeBlockFrom?_eq_findFrom? text 0

end EnergyAudit
