/-
  Numbers to a given number of digits.

  A number written in decimal is first taken to the nearest fraction with a binary denominator and
  fifty-three significant bits, which is what is kept of it; the digits asked for are then those of
  that fraction, a half going to the even neighbour.  All of it is exact arithmetic on a numerator and
  a denominator, signs left aside.
-/
import Flowchart.Decimal

namespace Flowchart

/-- The fraction `numerator / denominator`. -/
structure Fraction where
  numerator : Nat
  denominator : Nat
deriving Repr, DecidableEq

namespace Fraction

/-- The nearest whole number to `n / d`, a half going to the even neighbour. -/
def roundDiv (n d : Nat) : Nat :=
  let low := n / d
  let rest := n % d
  if 2 * rest > d || (2 * rest == d && low % 2 == 1) then low + 1 else low

/-- The fraction times a power of two, as a numerator and a denominator. -/
def timesTwoPow (f : Fraction) (e : Int) : Fraction :=
  if e ≥ 0 then ⟨f.numerator * Nat.pow 2 e.toNat, f.denominator⟩
  else ⟨f.numerator, f.denominator * Nat.pow 2 e.natAbs⟩

/-- The nearest fraction of fifty-three bits. -/
def nearestBinary (f : Fraction) : Fraction :=
  if f.numerator == 0 then ⟨0, 1⟩
  else
    let guess : Int := 52 - (Nat.log2 f.numerator : Int) + (Nat.log2 f.denominator : Int)
    let first := f.timesTwoPow guess
    -- the guess is one too low when the leading bits of the quotient fall short
    let shift := if first.numerator < Nat.pow 2 52 * first.denominator then guess + 1 else guess
    let g := f.timesTwoPow shift
    (Fraction.mk (roundDiv g.numerator g.denominator) 1).timesTwoPow (-shift)

/-- Digits with a point before the last `places` of them. -/
def pointed (digits : List Char) (places : Nat) (keepPoint : Bool) : String :=
  let padded := List.replicate (places + 1 - digits.length) '0' ++ digits
  let whole := padded.take (padded.length - places)
  let part := padded.drop (padded.length - places)
  String.ofList whole ++ (if places == 0 && !keepPoint then "" else "." ++ String.ofList part)

/-- The fraction to `places` places after the point. -/
def fixedText (f : Fraction) (places : Nat) (keepPoint : Bool) : String :=
  pointed (Nat.toDigits 10 (roundDiv (f.numerator * Nat.pow 10 places) f.denominator)) places keepPoint

/-- The power of ten of the leading digit, for a fraction that is not zero. -/
def magnitude (f : Fraction) : Int :=
  let whole := f.numerator / f.denominator
  if whole > 0 then ((Nat.toDigits 10 whole).length : Int) - 1
  else
    -- the fraction below one is a whole number of these units, and the unit count has a leading digit
    let width := (Nat.toDigits 10 f.denominator).length + 1
    ((Nat.toDigits 10 (f.numerator * Nat.pow 10 width / f.denominator)).length : Int) - 1 - width

/-- The digits to `count` significant ones, and the power of ten of the first. -/
def significant (f : Fraction) (count : Nat) : List Char × Int :=
  if f.numerator == 0 then (List.replicate count '0', 0)
  else
    let e := f.magnitude
    let shift := (count : Int) - 1 - e
    let n :=
      if shift ≥ 0 then roundDiv (f.numerator * Nat.pow 10 shift.toNat) f.denominator
      else roundDiv f.numerator (f.denominator * Nat.pow 10 shift.natAbs)
    let digits := Nat.toDigits 10 n
    if digits.length > count then (digits.take count, e + 1) else (digits, e)

/-- The fraction with one digit before the point and `places` after it. -/
def scientificText (f : Fraction) (places : Nat) (keepPoint : Bool) : String :=
  let (digits, e) := f.significant (places + 1)
  pointed digits places keepPoint ++ "e" ++ Decimal.exponentText e

/-- A text without the zeros at its end, and without a point that is left there. -/
def trimZeros (s : String) : String :=
  if s.toList.contains '.' then
    let kept := s.toList.reverse.dropWhile (· == '0')
    String.ofList ((kept.dropWhile (· == '.')).reverse)
  else s

/-- The fraction to `count` significant digits, in whichever form is the shorter. -/
def generalText (f : Fraction) (count : Nat) (keepZeros : Bool) : String :=
  let count := max count 1
  let (digits, e) := f.significant count
  if -4 ≤ e && e < count then
    let places := ((count : Int) - 1 - e).toNat
    let body := if e < 0 then List.replicate e.natAbs '0' ++ digits else digits
    let text := pointed body places keepZeros
    if keepZeros then text else trimZeros text
  else
    let text := pointed digits (count - 1) keepZeros
    (if keepZeros then text else trimZeros text) ++ "e" ++ Decimal.exponentText e

end Fraction

/-- What is kept of a decimal, its sign left aside. -/
def Decimal.magnitudeOf (d : Decimal) : Fraction :=
  (Fraction.mk d.mantissa.natAbs (Nat.pow 10 d.places)).nearestBinary

end Flowchart
