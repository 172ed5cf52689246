/-!
# Shortest decimals

The decimal number with the fewest digits that is read back as a given binary number, and of those
the nearest to it.

A binary number `m * 2 ^ e` is read back from every real number in the interval around it that ends
halfway to its neighbours; the ends belong to the interval when `m` is even.

## Main definitions

* `Binary` — a binary number with its neighbourhood; `Binary.ofFloat` takes a float apart.
* `Decimal` — digits times a power of ten.
* `Binary.shortest` — the shortest decimal in the interval.
-/

namespace EnergyAudit

/-- A decimal number `digits * 10 ^ exponent`. -/
structure Decimal where
  digits : Nat
  exponent : Int
deriving BEq, DecidableEq, Repr

namespace Decimal

/-- A positive binary number `mantissa * 2 ^ exponent`. -/
structure Binary where
  mantissa : Nat
  exponent : Int
  /-- Whether the next smaller number is only half as far away as the next larger one. -/
  closeBelow : Bool
deriving BEq, DecidableEq, Repr

/-- A fraction of natural numbers. -/
structure Fraction where
  num : Nat
  den : Nat

namespace Fraction

/-- The fraction `n * base ^ exponent`. -/
def scaled (n base : Nat) (exponent : Int) : Fraction :=
  if 0 ≤ exponent then ⟨n * Nat.pow base exponent.toNat, 1⟩ else ⟨n, Nat.pow base exponent.natAbs⟩

/-- The fraction divided by a power of ten. -/
def dividedByPower (f : Fraction) (exponent : Int) : Fraction :=
  if 0 ≤ exponent then ⟨f.num, f.den * Nat.pow 10 exponent.toNat⟩
  else ⟨f.num * Nat.pow 10 exponent.natAbs, f.den⟩

/-- The order of two fractions. -/
def compare (f g : Fraction) : Ordering := Ord.compare (f.num * g.den) (g.num * f.den)

end Fraction

namespace Binary

/-- Four times the number, so that the ends of its interval are whole multiples of the same power
of two. -/
def quarters (b : Binary) : Nat := 4 * b.mantissa

/-- The lower end of the interval. -/
def lower (b : Binary) : Fraction :=
  .scaled (b.quarters - if b.closeBelow then 1 else 2) 2 (b.exponent - 2)

/-- The upper end of the interval. -/
def upper (b : Binary) : Fraction := .scaled (b.quarters + 2) 2 (b.exponent - 2)

/-- The number itself. -/
def value (b : Binary) : Fraction := .scaled b.mantissa 2 b.exponent

/-- Whether the ends belong to the interval. -/
def isClosed (b : Binary) : Bool := b.mantissa % 2 == 0

/-- Whether `n * 10 ^ exponent` lies in the interval. -/
def covers (b : Binary) (n : Nat) (exponent : Int) : Bool :=
  let point := Fraction.scaled n 10 exponent
  let above := b.lower.compare point
  let below := point.compare b.upper
  if b.isClosed then above != .gt && below != .gt else above == .lt && below == .lt

/-- The power of ten of the first digit, searched from an estimate upwards. -/
def leadingPower (b : Binary) : Nat → Int → Int
  | 0, power => power
  | fuel + 1, power =>
    if b.value.compare (.scaled 1 10 (power + 1)) == .lt then power
    else leadingPower b fuel (power + 1)

/-- The multiple of a power of ten that lies in the interval next to the number, if any does; of two
that are equally near the even one. -/
def nearest? (b : Binary) (exponent : Int) : Option Decimal :=
  let quotient := b.value.dividedByPower exponent
  let below := quotient.num / quotient.den
  let rest := quotient.num % quotient.den
  let takesBelow := b.covers below exponent
  let takesAbove := b.covers (below + 1) exponent
  let prefersBelow :=
    2 * rest < quotient.den || (2 * rest == quotient.den && below % 2 == 0)
  if takesBelow && (prefersBelow || !takesAbove) then some ⟨below, exponent⟩
  else if takesAbove then some ⟨below + 1, exponent⟩
  else none

/-- The shortest decimal with at least so many digits. -/
def shortestFrom (b : Binary) (power : Int) : Nat → Nat → Decimal
  | 0, _ => ⟨0, 0⟩
  | fuel + 1, places =>
    match b.nearest? (power - places) with
    | some decimal => decimal
    | none => shortestFrom b power fuel (places + 1)

/-- A decimal without zeros at its end. -/
def stripZeros : Nat → Decimal → Decimal
  | 0, d => d
  | fuel + 1, d =>
    if d.digits != 0 && d.digits % 10 == 0 then stripZeros fuel ⟨d.digits / 10, d.exponent + 1⟩
    else d

/-- The shortest decimal that is read back as the number.  A float never needs more than 17
digits. -/
def shortest (b : Binary) : Decimal :=
  let estimate : Int := ((b.mantissa.log2 : Int) + b.exponent) * 30102 / 100000 - 1
  let power := b.leadingPower 4 estimate
  stripZeros 20 (b.shortestFrom power 20 0)

/-- The number that a finite float other than zero stands for, its sign aside. -/
def ofFloat (x : Float) : Binary :=
  let bits : Nat := x.toBits.toNat % Nat.pow 2 63
  let fraction : Nat := bits % Nat.pow 2 52
  let field : Nat := bits / Nat.pow 2 52
  if field == 0 then ⟨fraction, -1074, false⟩
  else ⟨fraction + Nat.pow 2 52, (field : Int) - 1075, fraction == 0 && 1 < field⟩

end Binary

end Decimal

end EnergyAudit
