/-!
# Cursors

A cursor is a place in a text that is kept as UTF-8 bytes.

## Main definitions

* `Cursor` — the place, with the character there and the next place.
* `lineEndsBetween` — the number of line ends in a stretch of bytes.
-/

namespace EnergyAudit.Text

/-- A place in a text of UTF-8 bytes. -/
structure Cursor where
  source : ByteArray
  position : Nat

/-- The byte at a place; 0 beyond the end. -/
def byteAt (source : ByteArray) (position : Nat) : Nat :=
  if h : position < source.size then source[position].toNat else 0

/-- The value of the continuation byte at a place. -/
def continuationAt (source : ByteArray) (position : Nat) : Nat := byteAt source position % 64

namespace Cursor

variable (c : Cursor)

/-- Whether the cursor is at the end of the text. -/
def atEnd : Bool := c.source.size ≤ c.position

/-- The number of bytes of the character at the cursor, at least one. -/
def width : Nat :=
  let first := byteAt c.source c.position
  if first < 0xe0 then (if first < 0x80 then 1 else 2) else if first < 0xf0 then 3 else 4

/-- The code of the character at the cursor; 0 at the end. -/
def code : Nat :=
  let first := byteAt c.source c.position
  if first < 0x80 then first
  else
    let at1 := continuationAt c.source (c.position + 1)
    if first < 0xe0 then first % 32 * 64 + at1
    else
      let at2 := continuationAt c.source (c.position + 2)
      if first < 0xf0 then (first % 16 * 64 + at1) * 64 + at2
      else ((first % 8 * 64 + at1) * 64 + at2) * 64 + continuationAt c.source (c.position + 3)

/-- Whether the character at the cursor is the given one; nothing is at the end. -/
def isAt (character : Char) : Bool := c.code == character.toNat && !c.atEnd

/-- The cursor behind the character; at the end it stays. -/
def next : Cursor := if c.atEnd then c else { c with position := c.position + c.width }

end Cursor

/-- The number of line ends from one place up to another. -/
def lineEndsBetween (source : ByteArray) (start stop : Nat) : Nat :=
  (stop - start).fold (fun offset _ count =>
    if byteAt source (start + offset) == 10 then count + 1 else count) 0

end EnergyAudit.Text
