import EnergyAudit.Decimal.Shortest

/-!
# Decimal texts

How floats are written: in full, without exponents, in texts for people, and with an exponent where
a number is very large or small in data.  And how they are read from decimals with an exponent.

## Main definitions

* `plainText` — a float in full.
* `dataText` — a float as data.
* `scientificFloat?` — the float nearest to a decimal.
-/

namespace EnergyAudit.Decimal

/-- Whether a float is written with a minus sign. -/
def isNegative (x : Float) : Bool := x.toBits >>> 63 == 1

/-- The shortest decimal of a finite float, its sign aside. -/
def decimalOf (x : Float) : Decimal :=
  if x == 0.0 then ⟨0, 0⟩ else (Binary.ofFloat x).shortest

/-- So many zeros. -/
def zeros (n : Nat) : String := .ofList (List.replicate n '0')

/-- The digits of a decimal with the point in its place; without a fraction there is no point. -/
def positional (d : Decimal) : String :=
  let digits := toString d.digits
  if 0 ≤ d.exponent then digits ++ zeros d.exponent.toNat
  else
    let places := d.exponent.natAbs
    if places < digits.length then
      let whole := digits.length - places
      (digits.take whole).toString ++ "." ++ (digits.drop whole).toString
    else "0." ++ zeros (places - digits.length) ++ digits

/-- A float in full. -/
def plainText (x : Float) : String :=
  if x.isNaN then "NaN"
  else
    let sign := if isNegative x then "-" else ""
    sign ++ (if x.isInf then "inf" else positional (decimalOf x))

/-- The digits of a decimal with a point behind the first one and a signed exponent. -/
def scientific (d : Decimal) : String :=
  let digits := toString d.digits
  let power := d.exponent + digits.length - 1
  let mantissa :=
    if digits.length == 1 then digits
    else (digits.take 1).toString ++ "." ++ (digits.drop 1).toString
  mantissa ++ "e" ++ (if 0 ≤ power then "+" else "") ++ toString power

/-- A finite float as data: with a point, or with an exponent from `10 ^ 16` on and below
`10 ^ (-5)`. -/
def dataText (x : Float) : String :=
  let sign := if isNegative x then "-" else ""
  if x == 0.0 then sign ++ "0.0"
  else
    let d := decimalOf x
    let point := d.exponent + (toString d.digits).length
    sign ++
      (if -5 < point && point ≤ 16 then
        if 0 ≤ d.exponent then positional d ++ ".0" else positional d
      else scientific d)

/-- The float nearest to `mantissa * 10 ^ exponent`, if that is in range.  What is certainly too
large or too small is not computed. -/
def scientificFloat? (mantissa : Nat) (exponent : Int) : Option Float :=
  if mantissa == 0 then some 0.0
  else
    let power := exponent + (Nat.toDigits 10 mantissa).length
    if 310 < power then none
    else if power < -400 then some 0.0
    else
      let x := Float.ofScientific mantissa (exponent < 0) exponent.natAbs
      if x.isInf then none else some x

end EnergyAudit.Decimal
