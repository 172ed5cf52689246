/-!
# Sets of tokens

Token numbers are small, so a set of tokens is a bit mask of 128 bits.

## Main definitions

* `TokenSet` — the set, with union, intersection, difference and membership.
* `TokenSet.toList` — its members in increasing order.
-/

namespace EnergyAudit.Grammar

/-- A set of token numbers below 128. -/
structure TokenSet where
  low : UInt64
  high : UInt64
deriving BEq, Hashable, Inhabited

namespace TokenSet

/-- No token. -/
def empty : TokenSet := ⟨0, 0⟩

/-- The set of one token. -/
def single (token : Nat) : TokenSet :=
  if token < 64 then ⟨1 <<< token.toUInt64, 0⟩
  else if token < 128 then ⟨0, 1 <<< (token - 64).toUInt64⟩
  else empty

/-- Whether a token belongs to the set. -/
def contains (s : TokenSet) (token : Nat) : Bool :=
  if token < 64 then (s.low >>> token.toUInt64) &&& 1 == 1
  else if token < 128 then (s.high >>> (token - 64).toUInt64) &&& 1 == 1
  else false

/-- The tokens in either set. -/
def union (s t : TokenSet) : TokenSet := ⟨s.low ||| t.low, s.high ||| t.high⟩

/-- The tokens in both sets. -/
def inter (s t : TokenSet) : TokenSet := ⟨s.low &&& t.low, s.high &&& t.high⟩

/-- The tokens of the first set that are not in the second. -/
def diff (s t : TokenSet) : TokenSet := ⟨s.low &&& ~~~t.low, s.high &&& ~~~t.high⟩

/-- The set with one more token. -/
def insert (s : TokenSet) (token : Nat) : TokenSet := s.union (single token)

/-- Whether there is no token in the set. -/
def isEmpty (s : TokenSet) : Bool := s.low == 0 && s.high == 0

/-- The tokens of the set in increasing order. -/
def toList (s : TokenSet) : List Nat := (List.range 128).filter s.contains

/-- The set of the tokens in a list. -/
def ofList (tokens : List Nat) : TokenSet := tokens.foldl insert empty

end TokenSet

end EnergyAudit.Grammar
