import EnergyAudit.Text.Cursor

/-!
# Line index

Rows and columns of places in a text.  Lines end at line feeds, rows and columns count from zero,
and columns are in bytes.

## Main definitions

* `Point` — a place with its row and column.
* `LineIndex.ofSource` — the index of a text.
* `LineIndex.point` — the row and column of a place.
-/

namespace EnergyAudit.Text

/-- A place in a text. -/
structure Point where
  byte : Nat
  row : Nat
  column : Nat
deriving BEq, DecidableEq, Repr, Inhabited

/-- The places where the lines of a text start, in increasing order. -/
structure LineIndex where
  starts : Array Nat

namespace LineIndex

/-- The index of a text. -/
def ofSource (source : ByteArray) : LineIndex :=
  ⟨source.size.fold (fun place _ starts =>
    if byteAt source place == 10 then starts.push (place + 1) else starts) #[0]⟩

/-- The last of the rows from `low` up to `low + count` that starts at a place or before it.  Halves
the number of rows each time. -/
def searchRow (index : LineIndex) (byte : Nat) : Nat → Nat → Nat → Nat
  | 0, low, _ => low
  | fuel + 1, low, count =>
    if count == 0 then low
    else
      let half := (count + 1) / 2
      if (index.starts[low + half]?.getD 0) ≤ byte then
        searchRow index byte fuel (low + half) (count - half)
      else searchRow index byte fuel low (half - 1)

/-- The row and column of a place. -/
def point (index : LineIndex) (byte : Nat) : Point :=
  let row := index.searchRow byte index.starts.size 0 (index.starts.size - 1)
  ⟨byte, row, byte - (index.starts[row]?.getD 0)⟩

end LineIndex

end EnergyAudit.Text
