import EnergyAudit.Text.Basic

/-!
# Answers

A provider answers with an explanation and a block of code.  The block stands between two fences of
three backticks; the rest of the line of the first fence is not part of the code.

## Main definitions

* `fencePosition?` — where the first fence of a text is.
* `CodeBlock`, `codeBlock?` — the first block that is closed.
* `Answer`, `Answer.ofText` — the explanation and the code of an answer.
-/

namespace EnergyAudit

open EnergyAudit.Text

/-- Whether a text starts with a fence. -/
def startsWithFence : List Char → Bool
  | '\x60' :: '\x60' :: '\x60' :: _ => true
  | _ => false

/-- The position of the first fence, counted on from the position of the text. -/
def fencePositionFrom? (position : Nat) : List Char → Option Nat
  | [] => none
  | c :: rest =>
    if startsWithFence (c :: rest) then some position else fencePositionFrom? (position + 1) rest

/-- The position of the first fence in a text. -/
def fencePosition? (text : List Char) : Option Nat := fencePositionFrom? 0 text

/-- The length of the line at the start of a text if it opens a block: a fence, no further backtick,
and the end of the line. -/
def openingLength? (text : List Char) : Option Nat :=
  if startsWithFence text then
    let named := (text.drop 3).takeWhile fun c => c != '\x60' && c != '\n'
    if (text.drop (3 + named.length)).head? == some '\n' then some (3 + named.length + 1) else none
  else none

/-- A block of code: where its fence opens, where the code starts and where it ends. -/
structure CodeBlock where
  opening : Nat
  start : Nat
  stop : Nat
deriving BEq, DecidableEq, Repr

/-- The position behind a block. -/
def CodeBlock.behind (b : CodeBlock) : Nat := b.stop + 3

/-- The block that opens at the start of a text, which stands at some position. -/
def blockAt? (position : Nat) (text : List Char) : Option CodeBlock :=
  match openingLength? text with
  | none => none
  | some length => (fencePosition? (text.drop length)).map fun codeLength =>
    ⟨position, position + length, position + length + codeLength⟩

/-- The first block of a text that is closed, counted on from the position of the text. -/
def codeBlockFrom? (position : Nat) : List Char → Option CodeBlock
  | [] => none
  | c :: rest =>
    match blockAt? position (c :: rest) with
    | some block => some block
    | none => codeBlockFrom? (position + 1) rest

/-- The first block of a text that is closed. -/
def codeBlock? (text : List Char) : Option CodeBlock := codeBlockFrom? 0 text

/-- An answer in its two parts. -/
structure Answer where
  rationale : String
  /-- The code, which is empty where there is no block. -/
  code : String
deriving BEq, DecidableEq, Repr, Inhabited

/-- Two paragraphs with an empty line between them if neither is empty. -/
def joinParagraphs (before after : List Char) : List Char :=
  if before.isEmpty then after
  else if after.isEmpty then before
  else before ++ ['\n', '\n'] ++ after

/-- The first block is the code; all around it is the explanation. -/
def Answer.ofText (raw : String) : Answer :=
  let text := raw.toList
  match codeBlock? text with
  | none => { rationale := .ofList (trim text), code := "" }
  | some block =>
    { rationale :=
        .ofList (joinParagraphs (trim (text.take block.opening)) (trim (text.drop block.behind)))
      code := .ofList (trimEnd ((text.take block.stop).drop block.start)) }

end EnergyAudit
