import RemoteDebug.Decimal.Binary
import RemoteDebug.Toml.Lexical
import RemoteDebug.Toml.Value

/-!
# TOML numbers and dates

Integers have 64 bits with a sign. Underscores may stand between digits. A date or a time is read to
tell whether it is one, and nothing more is kept of it.
-/

namespace RemoteDebug.Toml

open RemoteDebug.Reader

/-! ## Digits -/

/-- Reads digits of some kind, at least one, with single underscores between them. -/
def digitGroups (isDigit : Char → Bool) : Reader (List Char) := do
  let first ← char isDigit
  let rest ← many (char isDigit <|> (do exactly ['_']; char isDigit))
  return first :: rest

/-- Reads a sign, if there is one, and tells whether it is negative. -/
def sign : Reader Bool := do
  match ← optional? (char fun c => c == '+' || c == '-') with
  | some '-' => return true
  | _ => return false

/-- Reads decimal digits of which the first is zero only if it is the only one. -/
def wholeDigits : Reader (List Char) :=
  (do
    let first ← char fun c => isDecimalDigit c && c != '0'
    let rest ← many (char isDecimalDigit <|> (do exactly ['_']; char isDecimalDigit))
    return first :: rest) <|>
  (do return [← char isDecimalDigit])

/-! ## Integers -/

/-- Whether an integer has 64 bits, of which one is for the sign. -/
def fitsWord (value : Int) : Bool :=
  -0x8000000000000000 ≤ value && value < 0x8000000000000000

/-- The value of digits of a base below sixteen. -/
def valueInBase (base : Nat) (digits : List Char) : Nat :=
  digits.foldl (fun value digit => base * value + (Hex.digitValue? digit).getD 0) 0

/-- Reads an integer of a base that a mark tells. -/
def markedInteger (mark : Char) (base : Nat) (isDigit : Char → Bool) : Reader Int := do
  exactly ['0', mark]
  let value : Int := valueInBase base (← digitGroups isDigit)
  guard (fitsWord value)
  return value

/-- Reads a decimal integer. -/
def decimalInteger : Reader Int := do
  let negative ← sign
  let value : Int := decimalValue (← wholeDigits)
  let signed := if negative then -value else value
  guard (fitsWord signed)
  return signed

/-- Reads an integer. -/
def integer : Reader Int :=
  markedInteger 'x' 16 Hex.isDigit <|>
  markedInteger 'o' 8 (fun c => '0' ≤ c && c ≤ '7') <|>
  markedInteger 'b' 2 (fun c => c == '0' || c == '1') <|>
  decimalInteger

/-! ## Floating point numbers -/

/-- Reads the digits behind a point. -/
def fractionDigits : Reader (List Char) := do
  exactly ['.']
  digitGroups isDecimalDigit

/-- Reads an exponent. -/
def exponentPart : Reader Int := do
  let _ ← char fun c => c == 'e' || c == 'E'
  let negative ← sign
  let value : Int := decimalValue (← digitGroups isDecimalDigit)
  return if negative then -value else value

/-- Whether a number is within the bound for numbers that are held with 53 binary digits. -/
def isHeld (digits : Nat) (exponent : Int) : Bool :=
  (Decimal.Binary.ofDecimal? digits exponent).isSome

/-- Reads a number with a fraction, an exponent or both. A number above the largest is refused, and
one below the least is minus infinity. -/
def finiteFloat : Reader Floating := do
  let negative ← sign
  let whole ← wholeDigits
  let fraction ← optional? fractionDigits
  let exponent ← if fraction.isSome then optional? exponentPart else some <$> exponentPart
  let places := fraction.getD []
  let digits := decimalValue (whole ++ places)
  let power := exponent.getD 0 - (places.length : Int)
  if isHeld digits power then return .finite negative digits power
  guard negative
  return .infinite true

/-- Reads infinity or the mark of no number. -/
def specialFloat : Reader Floating := do
  let negative ← sign
  (do exactly ['i', 'n', 'f']; return .infinite negative) <|>
  (do exactly ['n', 'a', 'n']; return .notANumber)

/-- Reads a floating point number. -/
def floating : Reader Floating :=
  finiteFloat <|> specialFloat

/-! ## Dates and times -/

/-- Reads exactly so many decimal digits as a number in a range. -/
def fixedDigits (count low high : Nat) : Reader Nat :=
  fun text => do
    let digits := text.take count
    guard (digits.length = count ∧ digits.all isDecimalDigit)
    let value := decimalValue digits
    guard (low ≤ value ∧ value ≤ high)
    return (value, text.drop count)

/-- Whether a year has a leap day. -/
def isLeapYear (year : Nat) : Bool :=
  year % 4 == 0 && (year % 100 != 0 || year % 400 == 0)

/-- The number of days of a month. -/
def daysOfMonth (year month : Nat) : Nat :=
  if month = 2 then if isLeapYear year then 29 else 28
  else if month = 4 ∨ month = 6 ∨ month = 9 ∨ month = 11 then 30
  else 31

/-- Reads a date. -/
def date : Reader Unit := do
  let year ← fixedDigits 4 0 9999
  exactly ['-']
  let month ← fixedDigits 2 1 12
  exactly ['-']
  let _ ← fixedDigits 2 1 (daysOfMonth year month)

/-- Reads a time of day. -/
def time : Reader Unit := do
  let _ ← fixedDigits 2 0 23
  exactly [':']
  let _ ← fixedDigits 2 0 59
  exactly [':']
  let _ ← fixedDigits 2 0 60
  let _ ← optional? (do
    exactly ['.']
    someChars isDecimalDigit)

/-- Reads the offset of a time zone. -/
def zoneOffset : Reader Unit :=
  (do let _ ← char fun c => c == 'Z' || c == 'z') <|>
  (do
    let _ ← char fun c => c == '+' || c == '-'
    let _ ← fixedDigits 2 0 23
    exactly [':']
    let _ ← fixedDigits 2 0 59)

/-- Reads a date, a time, or both with or without an offset. -/
def datetime : Reader Unit :=
  (do
    date
    let _ ← optional? (do
      let _ ← char fun c => c == 'T' || c == 't' || c == ' '
      time
      optional? zoneOffset)) <|>
  time

end RemoteDebug.Toml
