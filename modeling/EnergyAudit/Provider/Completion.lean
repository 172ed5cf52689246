import EnergyAudit.Json.Reader
import EnergyAudit.Suggestion.Result
import EnergyAudit.Text.Basic

/-!
# Completions

The answer of a provider is a completion: a JSON text with a list of choices, each with a message
that has a content.  The content of the first choice is what the provider says.  An array may stand
for an object, with the values of its fields in their order.

## Main definitions

* `Choice` — a choice, by the content of its message.
* `readCompletion` — the choices of a completion.
* `completionContent` — what a provider says.
-/

namespace EnergyAudit.Provider

open EnergyAudit.Text

/-- A choice, by the content of its message. -/
structure Choice where
  content? : Option String
deriving BEq, DecidableEq, Repr

/-- Reads something from the start of a text. -/
abbrev JsonReader (α : Type) : Type := List Char → Except JsonError (α × List Char)

/-- Reads what an object or an array says.  An object is read member by member, and of an array the
only item if there is one. -/
def readRecord {α : Type} (expected name : String) (value : JsonReader α)
    (finish : Option α → Except JsonError α) (finishArray : Option α → Except JsonError α) :
    JsonReader α := fun rest =>
  match skipJsonBlanks rest with
  | '\x7b' :: rest => do
    let member (key : String) (found : Option α) (rest : List Char) :
        Except JsonError (Option α × List Char) := do
      if key != name then
        let rest ← skipColon rest
        let rest ← skipValue (rest.length + 1) rest
        return (found, rest)
      else if found.isSome then throw (.duplicateField name)
      else
        let (a, rest) ← value (← skipColon rest)
        return (some a, rest)
    let (found, rest) ← readMembers member (rest.length + 1) true none rest
    return (← finish found, rest)
  | '[' :: rest => do
    let (found, rest) ← match skipJsonBlanks rest with
      | [] => throw .endInList
      | ']' :: _ => pure (none, rest)
      | rest => (value rest).map fun (a, rest) => (some a, rest)
    let a ← finishArray found
    return (a, ← endArray rest)
  | rest => .error (unexpectedAt expected rest)

/-- Reads a text that may be missing. -/
def readOptionalText : JsonReader (Option String) := fun rest =>
  match skipJsonBlanks rest with
  | 'n' :: rest => (readWord "ull".toList rest).map fun rest => (none, rest)
  | '"' :: rest => (readString rest).map fun (text, rest) => (some text, rest)
  | rest => .error (unexpectedAt "a string" rest)

/-- Reads a message, which may have no content. -/
def readMessage : JsonReader (Option String) :=
  readRecord "struct Message" "content" readOptionalText (fun found => .ok found.join)
    (fun found => .ok found.join)

/-- Reads a choice, which has a message. -/
def readChoice : JsonReader Choice :=
  let message : JsonReader Choice := fun rest =>
    (readMessage rest).map fun (content, rest) => (⟨content⟩, rest)
  readRecord "struct Choice" "message" message
    (fun found => match found with
      | some choice => .ok choice
      | none => .error (.missingField "message"))
    (fun found => match found with
      | some choice => .ok choice
      | none => .error (.tooShort 0 "struct Choice with 1 element"))

/-- Reads a list of choices. -/
def readChoices : JsonReader (List Choice) := fun rest =>
  match skipJsonBlanks rest with
  | '[' :: rest => do
    let item (choices : List Choice) (rest : List Char) :
        Except JsonError (List Choice × List Char) :=
      (readChoice rest).map fun (choice, rest) => (choice :: choices, rest)
    let (choices, rest) ← readElements item (rest.length + 1) true [] rest
    return (choices.reverse, rest)
  | rest => .error (unexpectedAt "a sequence" rest)

/-- The choices of a completion. -/
def readCompletion (text : String) : Except JsonError (List Choice) := do
  let (choices, rest) ← readRecord "struct ChatCompletionResponse" "choices" readChoices
    (fun found => .ok (found.getD [])) (fun found => .ok (found.getD [])) text.toList
  endText rest
  return choices

/-- What a provider says in a completion: the content of the first choice, if it is not blank.  How
completions are read is left open. -/
def completionContent (decode : String → Except String (List Choice)) (text : String) :
    Except ProviderError String :=
  match decode text with
  | .error message => .error (.malformed message)
  | .ok [] => .error (.malformed "response has no choices")
  | .ok (choice :: _) =>
    let content := choice.content?.getD ""
    if isAllBlank content then .error .emptyResponse else .ok content

end EnergyAudit.Provider
