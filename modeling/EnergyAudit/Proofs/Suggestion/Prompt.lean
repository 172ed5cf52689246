import EnergyAudit.Suggestion.Answer
import EnergyAudit.Suggestion.Prompt
import EnergyAudit.Text.Basic
import Mathlib.Data.List.DropRight
import Mathlib.Data.List.Infix

/-!
# The code in a prompt

A prompt shows a function between two fences, as an answer shows its code.  So the code of a prompt
that is read like an answer is the text of the function: no fence stands before it if the names in
the prompt have no backticks, and the block ends with the text if no fence stands in it.

## Main definitions

* `HasNoFence`, `HasNoBacktick` — no fence and no backtick stands anywhere in a text.

## Main results

* `codeBlock?_fenced` — the first block of a text with code between two fences.
* `exists_promptOpening_eq` — no fence stands in a prompt before the code.
* `ofText_prompt` — the code of a prompt is the text of its function.
-/

namespace EnergyAudit

open EnergyAudit.Text

/-! ### Fences -/

/-- No fence stands anywhere in a text. -/
def HasNoFence (text : List Char) : Prop := ¬ codeFence.toList <:+: text

theorem toList_codeFence : codeFence.toList = ['\x60', '\x60', '\x60'] := by simp [codeFence]

theorem startsWithFence_iff {text : List Char} :
    startsWithFence text = true ↔ codeFence.toList <+: text := by
  rw [toList_codeFence]
  constructor
  · intro h
    unfold startsWithFence at h
    split at h
    · next rest => exact ⟨rest, rfl⟩
    · cases h
  · rintro ⟨rest, rfl⟩
    rfl

/-- A fence does not reach over the end of a line. -/
theorem startsWithFence_append_newline (line rest : List Char) :
    startsWithFence (line ++ '\n' :: rest) = startsWithFence line := by
  rw [Bool.eq_iff_iff, startsWithFence_iff, startsWithFence_iff, toList_codeFence]
  match line with
  | [] | [_] | [_, _] | _ :: _ :: _ :: _ => simp [List.cons_prefix_cons]

namespace HasNoFence

theorem of_infix {text part : List Char} (h : HasNoFence text) (hpart : part <:+: text) :
    HasNoFence part :=
  fun hfence => h (hfence.trans hpart)

theorem startsWithFence_eq {text : List Char} (h : HasNoFence text) :
    startsWithFence text = false :=
  Bool.eq_false_iff.mpr fun hstarts => h (startsWithFence_iff.mp hstarts).isInfix

/-- No fence stands in a text with fewer than three backticks. -/
theorem of_count_lt {text : List Char} (h : text.count '\x60' < 3) : HasNoFence text := by
  intro hfence
  have hcount := hfence.sublist.count_le '\x60'
  rw [toList_codeFence] at hcount
  exact Nat.lt_irrefl _ (Nat.lt_of_lt_of_le h hcount)

end HasNoFence

/-! ### The first block -/

/-- The first fence is not in a line that has none. -/
theorem fencePositionFrom?_append_newline {line : List Char} (rest : List Char) :
    ∀ {position : Nat}, HasNoFence line →
      fencePositionFrom? position (line ++ '\n' :: rest) =
        fencePositionFrom? (position + line.length + 1) rest := by
  induction line with
  | nil =>
    intro position _
    rfl
  | cons c line ih =>
    intro position h
    have hstarts : startsWithFence (c :: (line ++ '\n' :: rest)) = false :=
      (startsWithFence_append_newline (c :: line) rest).trans h.startsWithFence_eq
    rw [List.cons_append, fencePositionFrom?, hstarts, if_neg Bool.false_ne_true,
      ih (h.of_infix (List.suffix_cons c line).isInfix), List.length_cons]
    congr 1
    omega

/-- The first block is not in a line without a fence. -/
theorem codeBlockFrom?_append_newline {line : List Char} (rest : List Char) :
    ∀ {position : Nat}, HasNoFence line →
      codeBlockFrom? position (line ++ '\n' :: rest) =
        codeBlockFrom? (position + line.length + 1) rest := by
  have hnone : ∀ {position : Nat} {text : List Char}, startsWithFence text = false →
      blockAt? position text = none := by
    intro position text hstarts
    rw [blockAt?, openingLength?, hstarts, if_neg Bool.false_ne_true]
  induction line with
  | nil =>
    intro position _
    rw [List.nil_append, codeBlockFrom?, hnone rfl]
    rfl
  | cons c line ih =>
    intro position h
    have hstarts : startsWithFence (c :: (line ++ '\n' :: rest)) = false :=
      (startsWithFence_append_newline (c :: line) rest).trans h.startsWithFence_eq
    rw [List.cons_append, codeBlockFrom?, hnone hstarts]
    dsimp only
    rw [ih (h.of_infix (List.suffix_cons c line).isInfix), List.length_cons]
    congr 1
    omega

/-- A fence with a name behind it opens a block. -/
theorem openingLength?_fence {name : List Char} (rest : List Char)
    (hname : ∀ c ∈ name, c ≠ '\x60' ∧ c ≠ '\n') :
    openingLength? (codeFence.toList ++ (name ++ '\n' :: rest)) = some (3 + name.length + 1) := by
  have hstarts : startsWithFence (codeFence.toList ++ (name ++ '\n' :: rest)) = true :=
    startsWithFence_iff.mpr (List.prefix_append _ _)
  have hbehind : (codeFence.toList ++ (name ++ '\n' :: rest)).drop 3 = name ++ '\n' :: rest := by
    simp [toList_codeFence]
  have hnamed : (name ++ '\n' :: rest).takeWhile (fun c => c != '\x60' && c != '\n') = name := by
    rw [List.takeWhile_append_of_pos (by simpa using hname)]
    simp
  rw [openingLength?, if_pos hstarts, hbehind, hnamed]
  dsimp only
  rw [← List.drop_drop, hbehind, List.drop_left]
  rfl

/-- A block that opens at the start of a text is its first. -/
theorem codeBlockFrom?_of_blockAt? {position : Nat} {text : List Char} {block : CodeBlock}
    (h : blockAt? position text = some block) : codeBlockFrom? position text = some block := by
  cases text with
  | nil => cases h
  | cons c rest => rw [codeBlockFrom?, h]

/-- A block reaches from its fence to the first fence behind its code. -/
theorem blockAt?_fenced (position : Nat) {name code : List Char} (rest : List Char)
    (hname : ∀ c ∈ name, c ≠ '\x60' ∧ c ≠ '\n') (hcode : HasNoFence code) :
    blockAt? position
        (codeFence.toList ++ (name ++ '\n' :: (code ++ '\n' :: (codeFence.toList ++ rest)))) =
      some ⟨position, position + (3 + name.length + 1),
        position + (3 + name.length + 1) + (code.length + 1)⟩ := by
  have hclosing : fencePosition? (code ++ '\n' :: (codeFence.toList ++ rest)) =
      some (code.length + 1) := by
    rw [fencePosition?, fencePositionFrom?_append_newline _ hcode, Nat.zero_add, toList_codeFence]
    rfl
  have hbehind : (codeFence.toList ++
      (name ++ '\n' :: (code ++ '\n' :: (codeFence.toList ++ rest)))).drop (3 + name.length + 1) =
        code ++ '\n' :: (codeFence.toList ++ rest) := by
    rw [← List.drop_drop, ← List.drop_drop, toList_codeFence]
    simp
  rw [blockAt?, openingLength?_fence _ hname]
  dsimp only
  rw [hbehind, hclosing, Option.map_some]

/-- The first block of a text with code between two fences on lines of their own. -/
theorem codeBlock?_fenced {before name code : List Char} (rest : List Char)
    (hbefore : HasNoFence before) (hname : ∀ c ∈ name, c ≠ '\x60' ∧ c ≠ '\n')
    (hcode : HasNoFence code) :
    codeBlock? (before ++ '\n' ::
        (codeFence.toList ++ (name ++ '\n' :: (code ++ '\n' :: (codeFence.toList ++ rest))))) =
      some ⟨before.length + 1, before.length + 1 + (3 + name.length + 1),
        before.length + 1 + (3 + name.length + 1) + (code.length + 1)⟩ := by
  rw [codeBlock?, codeBlockFrom?_append_newline _ hbefore, Nat.zero_add]
  exact codeBlockFrom?_of_blockAt? (blockAt?_fenced _ rest hname hcode)

/-! ### The code of an answer -/

theorem trimEnd_append_newline (text : List Char) : trimEnd (text ++ ['\n']) = trimEnd text :=
  List.rdropWhile_concat_pos isBlank text '\n' (by decide)

theorem trimEnd_trimEnd (text : List Char) : trimEnd (trimEnd text) = trimEnd text :=
  List.rdropWhile_idempotent isBlank text

/-- What stands in the middle of a text. -/
theorem drop_take_append {α : Type} (before middle rest : List α) :
    ((before ++ (middle ++ rest)).take (before.length + middle.length)).drop before.length =
      middle := by
  rw [List.take_append, List.take_of_length_le (Nat.le_add_right _ _), Nat.add_sub_cancel_left,
    List.take_left, List.drop_left]

/-- The code of an answer is what stands between its first two fences, without blanks at the end. -/
theorem code_ofText_fenced {raw : String} {before name code rest : List Char}
    (hraw : raw.toList = before ++ '\n' ::
      (codeFence.toList ++ (name ++ '\n' :: (code ++ '\n' :: (codeFence.toList ++ rest)))))
    (hbefore : HasNoFence before) (hname : ∀ c ∈ name, c ≠ '\x60' ∧ c ≠ '\n')
    (hcode : HasNoFence code) : (Answer.ofText raw).code = .ofList (trimEnd code) := by
  have hblock := codeBlock?_fenced rest hbefore hname hcode
  have hlength : (before ++ '\n' :: (codeFence.toList ++ (name ++ ['\n']))).length =
      before.length + 1 + (3 + name.length + 1) := by
    simp only [toList_codeFence, List.length_append, List.length_cons, List.length_nil]
    omega
  have hmiddle := drop_take_append (before ++ '\n' :: (codeFence.toList ++ (name ++ ['\n'])))
    (code ++ ['\n']) (codeFence.toList ++ rest)
  rw [hlength, List.length_append, List.length_singleton] at hmiddle
  rw [Answer.ofText]
  simp only [hraw, hblock]
  simp only [List.append_assoc, List.cons_append, List.nil_append] at hmiddle
  rw [hmiddle, trimEnd_append_newline]

/-! ### The prompt before the code -/

/-- No backtick stands in a text. -/
def HasNoBacktick (text : String) : Prop := '\x60' ∉ text.toList

namespace HasNoBacktick

theorem ofList {chars : List Char} (h : '\x60' ∉ chars) : HasNoBacktick (.ofList chars) := by
  rwa [HasNoBacktick, String.toList_ofList]

theorem append_iff {a b : String} :
    HasNoBacktick (a ++ b) ↔ HasNoBacktick a ∧ HasNoBacktick b := by
  rw [HasNoBacktick, String.toList_append, List.mem_append, not_or, HasNoBacktick, HasNoBacktick]

theorem count_eq {text : String} (h : HasNoBacktick text) : text.toList.count '\x60' = 0 :=
  List.count_eq_zero.mpr h

theorem join {texts : List String} (h : ∀ text ∈ texts, HasNoBacktick text) :
    HasNoBacktick (String.join texts) := by
  rw [HasNoBacktick, String.toList_join, List.mem_flatMap]
  rintro ⟨text, htext, hmem⟩
  exact h text htext hmem

theorem intercalate {between : String} (hbetween : HasNoBacktick between) {texts : List String}
    (h : ∀ text ∈ texts, HasNoBacktick text) : HasNoBacktick (between.intercalate texts) := by
  induction texts with
  | nil => exact ofList List.not_mem_nil
  | cons text texts ih =>
    obtain ⟨htext, hothers⟩ := List.forall_mem_cons.mp h
    cases texts with
    | nil => rwa [String.intercalate_singleton]
    | cons other texts =>
      rw [String.intercalate_cons_cons, append_iff, append_iff]
      exact ⟨⟨htext, hbetween⟩, ih hothers⟩

/-- No digit is a backtick. -/
theorem toString_nat (n : Nat) : HasNoBacktick (toString n) := by
  rw [Nat.toString_eq_ofList_toDigits]
  exact ofList (not_mem_toDigits (by decide) n)

theorem toString_uint32 (n : UInt32) : HasNoBacktick (toString n) := toString_nat n.toNat

theorem toString_uint64 (n : UInt64) : HasNoBacktick (toString n) := toString_nat n.toNat

theorem breakdownLines (r : FunctionRecord) (b : ScoreBreakdown) :
    HasNoBacktick (breakdownLines r b) := by
  unfold EnergyAudit.breakdownLines
  simp only [append_iff, and_assoc]
  refine ⟨?_, toString_uint64 _, ?_, toString_uint32 _, ?_, ?_, toString_uint64 _, ?_,
    toString_uint32 _, ?_, ?_, toString_uint64 _, ?_, ?_, toString_uint64 _, ?_,
    toString_uint32 _, ?_⟩
  all_goals exact ofList (by decide)

theorem of_mem_reasons {r : FunctionRecord}
    (hcalls : ∀ call ∈ r.expensiveCalls, HasNoBacktick call) :
    ∀ reason ∈ r.reasons, HasNoBacktick reason := by
  intro reason hreason
  simp only [FunctionRecord.reasons, List.mem_append, List.mem_map, or_assoc] at hreason
  rcases hreason with h | h | h | h | ⟨issue, -, rfl⟩
  · obtain ⟨-, h⟩ := List.mem_ite_nil_right.mp h
    rw [List.mem_singleton.mp h, append_iff]
    exact ⟨ofList (by decide), toString_uint32 _⟩
  · obtain ⟨-, h⟩ := List.mem_ite_nil_right.mp h
    rw [List.mem_singleton.mp h]
    exact ofList (by decide)
  · obtain ⟨-, h⟩ := List.mem_ite_nil_right.mp h
    rw [List.mem_singleton.mp h, append_iff]
    exact ⟨toString_uint32 _, ofList (by decide)⟩
  · obtain ⟨-, h⟩ := List.mem_ite_nil_left.mp h
    rw [List.mem_singleton.mp h, append_iff]
    exact ⟨ofList (by decide), intercalate (ofList (by decide)) hcalls⟩
  · cases issue
    all_goals exact ofList (by decide)

theorem signals {r : FunctionRecord} (hcalls : ∀ call ∈ r.expensiveCalls, HasNoBacktick call) :
    HasNoBacktick (signals r) := by
  rw [EnergyAudit.signals]
  split
  · exact ofList List.not_mem_nil
  · rw [append_iff]
    refine ⟨ofList (by decide), join ?_⟩
    intro line hline
    obtain ⟨reason, hreason, rfl⟩ := List.mem_map.mp hline
    rw [append_iff, append_iff]
    exact ⟨⟨ofList (by decide), of_mem_reasons hcalls reason hreason⟩, ofList (by decide)⟩

end HasNoBacktick

/-- There is no fence in a text that quotes a name on its last line. -/
theorem exists_quoting_eq {before name lines : String} (hbefore : HasNoBacktick before)
    (hname : HasNoBacktick name) (hlines : HasNoBacktick lines) :
    ∃ text, (before ++ "Function `" ++ name ++ "` (lines " ++ lines ++ "):\n").toList =
      text ++ ['\n'] ∧ HasNoFence text := by
  have hopen : "Function `".toList.count '\x60' = 1 := by
    rw [show "Function `" = String.ofList _ from rfl, String.toList_ofList]
    decide
  have hclose : "` (lines ".toList.count '\x60' = 1 := by
    rw [show "` (lines " = String.ofList _ from rfl, String.toList_ofList]
    decide
  have hend : "):\n".toList = [')', ':'] ++ ['\n'] := String.toList_ofList
  refine ⟨(before ++ "Function `" ++ name ++ "` (lines " ++ lines).toList ++ [')', ':'], ?_,
    .of_count_lt ?_⟩
  · rw [String.toList_append, hend, List.append_assoc]
  · simp only [String.toList_append, List.count_append, hbefore.count_eq, hopen, hname.count_eq,
      hclose, hlines.count_eq]
    decide

/-- No fence stands in a prompt before the code, which starts on a line of its own. -/
theorem exists_promptOpening_eq {r : FunctionRecord} (s : HotspotScore) {language : String}
    (hname : HasNoBacktick r.qualifiedName)
    (hcalls : ∀ call ∈ r.expensiveCalls, HasNoBacktick call)
    (hlanguage : HasNoBacktick language) :
    ∃ text, (promptOpening r s language).toList = text ++ ['\n'] ∧ HasNoFence text := by
  unfold promptOpening
  refine exists_quoting_eq ?_ hname ?_
  · simp only [HasNoBacktick.append_iff, and_assoc]
    refine ⟨?_, hlanguage, ?_, ?_, .toString_nat _, ?_, .toString_uint64 _, ?_, ?_,
      .breakdownLines _ _, .signals hcalls, ?_⟩
    all_goals exact .ofList (by decide)
  · rw [Span.lines, HasNoBacktick.append_iff, HasNoBacktick.append_iff]
    exact ⟨⟨.toString_nat _, .ofList (by decide)⟩, .toString_nat _⟩

/-! ### Reading a prompt like an answer -/

/-- A prompt consists of lines before a fence, the fence, the code, and the fence again. -/
theorem toList_prompt {r : FunctionRecord} {s : HotspotScore} {language : String}
    {text : List Char} (hopening : (promptOpening r s language).toList = text ++ ['\n']) :
    (prompt r s language).toList = text ++ '\n' :: (codeFence.toList ++ (language.toList ++ '\n' ::
      (trimEnd r.source.toList ++ '\n' :: (codeFence.toList ++
        ("\n\n".toList ++ promptInstructions.toList))))) := by
  have hnewline : "\n".toList = ['\n'] := String.toList_ofList
  unfold prompt
  simp only [String.toList_append, hopening, hnewline, trimmedEnd, String.toList_ofList,
    List.append_assoc, List.cons_append, List.nil_append]

/-- **The code of a prompt is the text of its function**, without the blanks at its end, if no fence
stands in it and the names in the prompt have no backticks.  The block opens where the opening of
the prompt ends, and its code ends where the text of the function does. -/
theorem ofText_prompt (r : FunctionRecord) (s : HotspotScore) (language : String)
    (hsource : ¬ codeFence.toList <:+: r.source.toList)
    (hname : '\x60' ∉ r.qualifiedName.toList)
    (hcalls : ∀ call ∈ r.expensiveCalls, '\x60' ∉ call.toList)
    (hlanguage : '\x60' ∉ language.toList ∧ '\n' ∉ language.toList) :
    let opening := (promptOpening r s language).length
    let start := opening + (3 + language.length + 1)
    let stop := start + ((trimmedEnd r.source).length + 1)
    codeBlock? (prompt r s language).toList = some ⟨opening, start, stop⟩ ∧
      (Answer.ofText (prompt r s language)).code = trimmedEnd r.source := by
  intro opening start stop
  obtain ⟨text, hopening, htext⟩ := exists_promptOpening_eq s hname hcalls hlanguage.1
  have hprompt := toList_prompt hopening
  have hcode : HasNoFence (trimEnd r.source.toList) :=
    HasNoFence.of_infix hsource (List.rdropWhile_prefix isBlank _).isInfix
  have hlanguage' : ∀ c ∈ language.toList, c ≠ '\x60' ∧ c ≠ '\n' := by
    intro c hc
    exact ⟨ne_of_mem_of_not_mem hc hlanguage.1, ne_of_mem_of_not_mem hc hlanguage.2⟩
  have hblock : codeBlock? (prompt r s language).toList = some ⟨opening, start, stop⟩ := by
    have hlength : opening = text.length + 1 := by
      rw [← List.length_singleton (a := '\n'), ← List.length_append, ← hopening,
        String.length_toList]
    rw [hprompt, codeBlock?_fenced _ htext hlanguage' hcode]
    simp only [start, stop, hlength, trimmedEnd, String.length_ofList, String.length_toList]
  refine ⟨hblock, ?_⟩
  rw [code_ofText_fenced hprompt htext hlanguage' hcode, trimEnd_trimEnd, trimmedEnd]

/-- A function that opens a file and ends with two backticks and an empty line. -/
def FunctionRecord.endingInBackticks : FunctionRecord :=
  { (default : FunctionRecord) with
    qualifiedName := "Cache.get"
    expensiveCalls := ["open"]
    source := "def get(k):\n    pass  # ``\n\n" }

/-- The two backticks at the end of a function stay apart from the fence. -/
theorem ofText_prompt_endingInBackticks :
    let r := FunctionRecord.endingInBackticks
    ¬ codeFence.toList <:+: r.source.toList ∧ '\x60' ∉ r.qualifiedName.toList ∧
      (∀ call ∈ r.expensiveCalls, '\x60' ∉ call.toList) ∧
      ('\x60' ∉ "python".toList ∧ '\n' ∉ "python".toList) ∧
      (Answer.ofText (prompt r (r.hotspotScore 1) "python")).code =
        "def get(k):\n    pass  # ``" := by
  intro r
  have hsource : ¬ codeFence.toList <:+: r.source.toList := HasNoFence.of_count_lt (by decide)
  have hname : '\x60' ∉ r.qualifiedName.toList := by decide
  have hcalls : ∀ call ∈ r.expensiveCalls, '\x60' ∉ call.toList := by decide
  have hlanguage : '\x60' ∉ "python".toList ∧ '\n' ∉ "python".toList := by decide
  refine ⟨hsource, hname, hcalls, hlanguage, ?_⟩
  have hcode := (ofText_prompt r (r.hotspotScore 1) "python" hsource hname hcalls hlanguage).2
  rw [hcode]
  decide

end EnergyAudit
