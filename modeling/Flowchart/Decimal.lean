/-
  Decimal fractions.

  A decimal is an integer over a power of ten.  Its text has the digits that are needed and no more:
  positional with at least one digit after the point while the leading digit stands between the fourth
  place after the point and the sixteenth before it, and in scientific form outside that range.
-/

namespace Flowchart

/-- The number `mantissa / 10 ^ places`. -/
structure Decimal where
  mantissa : Int
  places : Nat
deriving Repr, BEq, DecidableEq

namespace Decimal

/-- Zero, however many places are written. -/
def isZero (d : Decimal) : Bool := d.mantissa == 0

/-- The number one, however many places are written. -/
def isOne (d : Decimal) : Bool := d.mantissa == (Nat.pow 10 d.places : Nat)

/-- The whole part, rounding toward zero. -/
def truncated (d : Decimal) : Int := d.mantissa.tdiv (Nat.pow 10 d.places : Nat)

/-- A digit list without the zeros at its end, and how many there were. -/
def dropZeros (digits : List Char) : List Char × Nat :=
  let kept := (digits.reverse.dropWhile (· == '0')).reverse
  (kept, digits.length - kept.length)

/-- The exponent of the scientific form: a sign and at least two digits. -/
def exponentText (e : Int) : String :=
  let digits := toString e.natAbs
  (if e < 0 then "-" else "+") ++ (if digits.length < 2 then "0" ++ digits else digits)

/-- The text of a number with the significant digits `digits` and the point after `point` of them. -/
def digitsText (digits : List Char) (point : Int) : String :=
  if -4 < point && point ≤ 16 then
    if point ≤ 0 then
      "0." ++ String.ofList (List.replicate point.natAbs '0' ++ digits)
    else
      let n := point.toNat
      let whole := digits.take n ++ List.replicate (n - digits.length) '0'
      let fraction := digits.drop n
      String.ofList whole ++ "." ++ (if fraction.isEmpty then "0" else String.ofList fraction)
  else
    let fraction := digits.drop 1
    String.ofList (digits.take 1) ++ (if fraction.isEmpty then "" else "." ++ String.ofList fraction) ++
      "e" ++ exponentText (point - 1)

/-- The shortest text. -/
def text (d : Decimal) : String :=
  if d.isZero then "0.0"
  else
    let (digits, dropped) := dropZeros (Nat.toDigits 10 d.mantissa.natAbs)
    (if d.mantissa < 0 then "-" else "") ++
      digitsText digits ((digits.length + dropped : Nat) - (d.places : Int))

end Decimal

end Flowchart
