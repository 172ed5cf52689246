import EnergyAudit.Text.Basic

/-!
# Percent codes

Bytes that cannot stand in a URL are written as a percent sign with two hexadecimal digits.

## Main definitions

* `percentEncode` — a text in which some ASCII characters, and all others, are written so.
* `percentDecode` — the bytes that a text stands for.
-/

namespace EnergyAudit.Url

open EnergyAudit.Text

/-- A byte written with a percent sign. -/
def percentByte (b : UInt8) : String :=
  .ofList ['%', (Nat.digitChar (b.toNat / 16)).toUpper, (Nat.digitChar (b.toNat % 16)).toUpper]

/-- A character as it is or with percent signs. -/
def percentChar (isEncoded : Char → Bool) (c : Char) : String :=
  if c.val < 0x80 && !isEncoded c then c.toString
  else String.join (c.toString.toUTF8.toList.map percentByte)

/-- A text in which some ASCII characters, and all others, are written with percent signs. -/
def percentEncode (isEncoded : Char → Bool) (text : List Char) : String :=
  String.join (text.map (percentChar isEncoded))

/-- The bytes that a text stands for; a percent sign without two digits stands for itself. -/
def percentDecode : List Char → List UInt8
  | '%' :: a :: b :: rest =>
    match hexValue? a, hexValue? b with
    | some high, some low => UInt8.ofNat (high * 16 + low) :: percentDecode rest
    | _, _ => 37 :: percentDecode (a :: b :: rest)
  | c :: rest => c.toString.toUTF8.toList ++ percentDecode rest
  | [] => []

/-! ### Sets of characters -/

/-- Control characters. -/
def isControl (c : Char) : Bool := c.val < 0x20 || c.val == 0x7f

/-- What is encoded in a path. -/
def isEncodedInPath (c : Char) : Bool :=
  isControl c || [' ', '"', '<', '>', '\x60', '#', '?', '\x7b', '\x7d'].contains c

/-- What is encoded in the name and the password of a user. -/
def isEncodedInUser (c : Char) : Bool :=
  isEncodedInPath c || ['/', ':', ';', '=', '@', '[', '\\', ']', '^', '|'].contains c

/-- What is encoded in a query. -/
def isEncodedInQuery (c : Char) : Bool := isControl c || [' ', '"', '#', '<', '>', '\''].contains c

end EnergyAudit.Url
