import EnergyAudit.Text.IdentifierChar

/-!
# Letters

Token patterns tell only finitely many kinds of characters apart: every ASCII character by itself,
and four classes of the others.  A *letter* is the number of such a kind, and token automata run
over letters.

## Main definitions

* `letterOf c` — the letter of a character.
* `LetterSet` — a set of letters, with union, complement and membership.
-/

namespace EnergyAudit.Grammar

open EnergyAudit.Text

/-- The number of letters: 128 for ASCII and four classes. -/
def letterCount : Nat := 132

/-- The letter of the characters above ASCII that may begin an identifier. -/
def identifierStartLetter : Nat := 128

/-- The letter of the characters above ASCII that may only continue an identifier. -/
def identifierContinueLetter : Nat := 129

/-- The letter of the invisible spaces: zero width space, word joiner and byte order mark. -/
def invisibleSpaceLetter : Nat := 130

/-- The letter of all other characters above ASCII. -/
def otherLetter : Nat := 131

/-- The kind of a character, as far as token patterns can tell. -/
def letterOf (c : Char) : Nat :=
  if c.val < 128 then c.toNat
  else if isIdentifierStart c then identifierStartLetter
  else if isIdentifierContinue c then identifierContinueLetter
  else if c == '\u200b' || c == '\u2060' || c == '\ufeff' then invisibleSpaceLetter
  else otherLetter

/-- A set of letters as a bit mask in three words. -/
structure LetterSet where
  low : UInt64
  middle : UInt64
  high : UInt64
deriving BEq, Hashable

namespace LetterSet

/-- No letter. -/
def empty : LetterSet := ⟨0, 0, 0⟩

/-- Whether a letter belongs to the set. -/
def contains (s : LetterSet) (letter : Nat) : Bool :=
  let bit := (letter % 64).toUInt64
  let word := if letter < 64 then s.low else if letter < 128 then s.middle else s.high
  (word >>> bit) &&& 1 == 1

/-- The set of one letter. -/
def single (letter : Nat) : LetterSet :=
  let bit := (1 : UInt64) <<< (letter % 64).toUInt64
  if letter < 64 then ⟨bit, 0, 0⟩ else if letter < 128 then ⟨0, bit, 0⟩ else ⟨0, 0, bit⟩

/-- The letters in either set. -/
def union (s t : LetterSet) : LetterSet :=
  ⟨s.low ||| t.low, s.middle ||| t.middle, s.high ||| t.high⟩

/-- The set of a list of letters. -/
def ofList (letters : List Nat) : LetterSet :=
  letters.foldl (fun s letter => s.union (single letter)) empty

/-- The characters of an ASCII text. -/
def ofText (text : String) : LetterSet := ofList (text.toList.map letterOf)

/-- The ASCII characters from one to another, both included. -/
def range (first last : Char) : LetterSet :=
  ofList ((List.range (last.toNat + 1)).drop first.toNat)

/-- Every letter outside the set, the null character excepted: no token runs over it. -/
def except (s : LetterSet) : LetterSet :=
  ofList ((List.range letterCount).filter fun letter => letter != 0 && !s.contains letter)

/-- Whether the sets share a letter. -/
def meets (s t : LetterSet) : Bool :=
  (s.low &&& t.low) != 0 || (s.middle &&& t.middle) != 0 || (s.high &&& t.high) != 0

/-- Letters that may begin an identifier. -/
def identifierStart : LetterSet :=
  ((range 'a' 'z').union (range 'A' 'Z')).union (ofList ['_'.toNat, identifierStartLetter])

/-- Letters that may continue an identifier. -/
def identifierContinue : LetterSet :=
  (identifierStart.union (range '0' '9')).union (single identifierContinueLetter)

end LetterSet

end EnergyAudit.Grammar
