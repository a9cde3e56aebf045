import RemoteDebug.Decimal.Binary
import RemoteDebug.Text.Blank

/-!
# The shortest decimal text of a binary number

A number is written with as few digits as make it read back, and of the texts with so few digits
by the one that is nearest to it, of two as near the larger one. The text is positional, without an
exponent, and always has a point.
-/

namespace RemoteDebug.Decimal

/-- A whole number times a power of ten. -/
structure Scaled where
  digits : Nat
  exponent : Int
deriving DecidableEq, Repr

namespace Scaled

/-- A decimal number as a fraction. -/
def toFraction (number : Scaled) : Fraction :=
  Fraction.scale ⟨number.digits, 1⟩ 10 number.exponent

/-- The positional text of a number, with a point. -/
def text (number : Scaled) : String :=
  match number.exponent with
  | .ofNat n => toString (number.digits * Nat.pow 10 n) ++ ".0"
  | .negSucc n =>
    let places := n + 1
    let unit := Nat.pow 10 places
    let whole := number.digits / unit
    let fraction := (Nat.toDigits 10 (number.digits % unit)).leftpad places '0'
    let kept := Text.dropEndWhile (· == '0') fraction
    toString whole ++ "." ++ String.ofList (if kept.isEmpty then ['0'] else kept)

end Scaled

/-- Of the two neighbours of a number on the grid of a power of ten, those that read back as it, the
nearer one first, of two as near the one above. -/
def neighbours (number : Binary) (exponent : Int) : List Scaled :=
  let exact := number.toFraction.scale 10 (-exponent)
  let below := exact.numerator / exact.denominator
  let nearBelow := 2 * (exact.numerator % exact.denominator) < exact.denominator
  let pair : List Scaled := [⟨below, exponent⟩, ⟨below + 1, exponent⟩]
  (if nearBelow then pair else pair.reverse).filter fun candidate =>
    number.covers candidate.toFraction

/-- The first decimal that reads back on the grids from a power of ten downwards. -/
def firstOnGrids (number : Binary) (exponent : Int) : Nat → Option Scaled
  | 0 => none
  | grids + 1 =>
    match neighbours number exponent with
    | found :: _ => some found
    | [] => firstOnGrids number (exponent - 1) grids

/-- The shortest decimal that reads back as a number. Seventeen digits always do, and the coarsest
grid that can hold a digit is one above the number's own magnitude. -/
def shortest (number : Binary) : Scaled :=
  if number.mantissa = 0 then ⟨0, 0⟩
  else
    let fraction := number.toFraction
    let digitsOf (n : Nat) : Int := (Nat.toDigits 10 n).length
    let start := if fraction.numerator < fraction.denominator then
        -- below one: count the zeros behind the point
        1 - digitsOf (fraction.denominator / fraction.numerator)
      else digitsOf (fraction.numerator / fraction.denominator)
    (firstOnGrids number (start + 1) 20).getD ⟨0, 0⟩

/-- The shortest positional text of a number, with a sign if it is negative. -/
def shortestText (negative : Bool) (number : Binary) : String :=
  (if negative then "-" else "") ++ (shortest number).text

end RemoteDebug.Decimal
