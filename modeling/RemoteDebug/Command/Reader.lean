import RemoteDebug.Text.Blank
import RemoteDebug.Text.Hex
import RemoteDebug.Text.Identifier
import RemoteDebug.Text.Reader

/-!
# Reading a typed line

The parts of a command: words, numbers and names. Blanks around a padded reader do not matter;
each reader says whether it is padded.
-/

namespace RemoteDebug.Reader

open RemoteDebug.Text

/-- Reads the blanks at the start of a text, if there are any. -/
def blanks : Reader Unit :=
  fun text => some ((), trimStart text)

/-- Reads what a reader reads, and the blanks on both sides of it. -/
def padded {α : Type} (reader : Reader α) : Reader α := do
  blanks
  let result ← reader
  blanks
  return result

/-- Reads a word, and the blanks on both sides of it. -/
def word (expected : String) : Reader Unit :=
  padded (exactly expected.toList)

/-- Reads an identifier. -/
def identifier : Reader (List Char) := do
  let first ← char isIdentifierStart
  let rest ← charsWhile isIdentifierRest
  return first :: rest

/-- The most digits of a hexadecimal number that is read. -/
def hexDigitLimit : Nat :=
  8

/-- Reads hexadecimal digits, as many as there are up to the limit. -/
def hexDigits : Reader Nat :=
  fun text =>
    let digits := (text.take hexDigitLimit).takeWhile Hex.isDigit
    (Hex.read? digits).map fun value => (value, text.drop digits.length)

/-- Reads a hexadecimal number with or without one of the marks `0x`, `0X` and `$`; padded. -/
def hexNumber : Reader Nat :=
  padded do
    let _ ← optional? (exactly ['0', 'x'] <|> exactly ['0', 'X'] <|> exactly ['$'])
    hexDigits

/-- Reads the digits of a decimal number: a zero, or digits that start with another one. -/
def decimalDigits : Reader (List Char) :=
  (do
    let first ← char fun c => isDecimalDigit c && c != '0'
    let rest ← charsWhile isDecimalDigit
    return first :: rest) <|>
  (do
    exactly ['0']
    return ['0'])

/-- One more than the largest decimal number that is read. -/
def decimalBound : Nat :=
  0x100000000

/-- Reads a decimal number of 32 bits; padded. -/
def decimalNumber : Reader Nat :=
  padded do
    let value := decimalValue (← decimalDigits)
    guard (value < decimalBound)
    return value

/-- Reads a word of any characters but blanks; padded. -/
def plainWord : Reader String :=
  padded do
    return String.ofList (← someChars fun c => !isBlank c)

end RemoteDebug.Reader
