/-!
# Binary floating point numbers

A number that a text writes in decimals is held with 53 binary digits: the nearest number of the
form `mantissa * 2 ^ exponent`, where the mantissa is below `2 ^ 53` and the exponent between
`-1074` and `971`; a tie goes to the even mantissa, and numbers beyond the largest have no such
form. All arithmetic is on natural numbers and exact.
-/

namespace RemoteDebug.Decimal

/-- A quotient rounded to the nearest natural number, a tie to the even one. -/
def roundQuotient (numerator denominator : Nat) : Nat :=
  let quotient := numerator / denominator
  let twice := 2 * (numerator % denominator)
  if twice < denominator then quotient
  else if denominator < twice then quotient + 1
  else quotient + quotient % 2

/-- A fraction of natural numbers. -/
structure Fraction where
  numerator : Nat
  denominator : Nat
deriving DecidableEq, Repr

namespace Fraction

/-- A fraction times a power of a base. -/
def scale (fraction : Fraction) (base : Nat) (exponent : Int) : Fraction :=
  match exponent with
  | .ofNat n => { fraction with numerator := fraction.numerator * Nat.pow base n }
  | .negSucc n => { fraction with denominator := fraction.denominator * Nat.pow base (n + 1) }

/-- Whether a fraction is at most another. -/
def le (left right : Fraction) : Bool :=
  left.numerator * right.denominator ≤ right.numerator * left.denominator

/-- Whether a fraction is less than another. -/
def lt (left right : Fraction) : Bool :=
  !right.le left

/-- The exponent of the largest power of two that is at most a fraction above zero. -/
def binaryMagnitude (fraction : Fraction) : Int :=
  let guess : Int := (fraction.numerator.log2 : Int) - fraction.denominator.log2
  if (Fraction.scale ⟨1, 1⟩ 2 guess).le fraction then guess else guess - 1

end Fraction

/-- A number with 53 binary digits. -/
structure Binary where
  mantissa : Nat
  exponent : Int
deriving DecidableEq, Repr

namespace Binary

/-- The least exponent. -/
def minExponent : Int :=
  -1074

/-- The largest exponent. -/
def maxExponent : Int :=
  971

/-- One more than the largest mantissa. -/
def mantissaBound : Nat :=
  0x20000000000000

/-- The number nearest to a fraction; none if it is too large. -/
def nearest? (fraction : Fraction) : Option Binary :=
  if fraction.numerator = 0 then some ⟨0, minExponent⟩
  else
    let exponent := max (fraction.binaryMagnitude - 52) minExponent
    let scaled := fraction.scale 2 (-exponent)
    let mantissa := roundQuotient scaled.numerator scaled.denominator
    let found : Binary :=
      if mantissa = mantissaBound then ⟨mantissaBound / 2, exponent + 1⟩ else ⟨mantissa, exponent⟩
    if maxExponent < found.exponent then none else some found

/-- The number nearest to a whole number times a power of ten; none if it is too large. Exponents
that decide by themselves are not raised to. -/
def ofDecimal? (digits : Nat) (exponent : Int) : Option Binary :=
  let size : Int := (Nat.toDigits 10 digits).length
  if digits = 0 ∨ size + exponent < -330 then some ⟨0, minExponent⟩
  else if 330 < size + exponent then none
  else nearest? (Fraction.scale ⟨digits, 1⟩ 10 exponent)

/-- A number as a fraction, the mantissa taken in quarters. -/
def quarters (exponent : Int) (mantissaInQuarters : Nat) : Fraction :=
  Fraction.scale ⟨mantissaInQuarters, 4⟩ 2 exponent

/-- A number as a fraction. -/
def toFraction (number : Binary) : Fraction :=
  quarters number.exponent (4 * number.mantissa)

/-- The lower end of the fractions that round to a number above zero. -/
def lowerEnd (number : Binary) : Fraction :=
  let narrow := number.mantissa = mantissaBound / 2 ∧ minExponent < number.exponent
  quarters number.exponent (4 * number.mantissa - if narrow then 1 else 2)

/-- The upper end of the fractions that round to a number. -/
def upperEnd (number : Binary) : Fraction :=
  quarters number.exponent (4 * number.mantissa + 2)

/-- Whether a fraction rounds to a number above zero; an end does if the mantissa is even. -/
def covers (number : Binary) (fraction : Fraction) : Bool :=
  if number.mantissa % 2 = 0 then
    number.lowerEnd.le fraction && fraction.le number.upperEnd
  else number.lowerEnd.lt fraction && fraction.lt number.upperEnd

end Binary

end RemoteDebug.Decimal
