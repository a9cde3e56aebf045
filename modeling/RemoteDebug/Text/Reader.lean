/-!
# Readers

A reader takes something from the start of a text and leaves the rest, or fails. Readers are put
together by sequence and by ordered choice: once an alternative has succeeded, the others are not
tried again.
-/

namespace RemoteDebug

/-- A reader of what starts a text. -/
abbrev Reader : Type → Type :=
  StateT (List Char) Option

namespace Reader

variable {α : Type}

/-- Reads one character that satisfies a test. -/
def char (test : Char → Bool) : Reader Char
  | [] => none
  | c :: rest => if test c then some (c, rest) else none

/-- Reads all characters up to the first that does not satisfy a test. -/
def charsWhile (test : Char → Bool) : Reader (List Char) :=
  fun text => some (text.takeWhile test, text.dropWhile test)

/-- Reads at least one character, and all up to the first that does not satisfy a test. -/
def someChars (test : Char → Bool) : Reader (List Char) := do
  let chars ← charsWhile test
  guard !chars.isEmpty
  return chars

/-- Reads a given text. -/
def exactly (expected : List Char) : Reader Unit :=
  fun text => if expected.isPrefixOf text then some ((), text.drop expected.length) else none

/-- Reads what a reader reads, or nothing if it fails. -/
def optional? (reader : Reader α) : Reader (Option α) :=
  some <$> reader <|> pure none

/-- Reads the end of the text. -/
def atEnd : Reader Unit
  | [] => some ((), [])
  | _ :: _ => none

/-- What a reader makes of a whole text. -/
def readAll? (reader : Reader α) (text : List Char) : Option α :=
  ((do let result ← reader; atEnd; return result : Reader α) text).map Prod.fst

/-- Reads as many items as there are, up to a limit. -/
def upTo (reader : Reader α) : Nat → Reader (List α)
  | 0 => pure []
  | limit + 1 => do
    match ← optional? reader with
    | none => return []
    | some item => return item :: (← upTo reader limit)

/-- Reads as many items as there are; each is taken to have a character at least. -/
def many (reader : Reader α) : Reader (List α) :=
  fun text => upTo reader text.length text

/-! ## Decimal digits -/

/-- Whether a character is a decimal digit. -/
def isDecimalDigit (c : Char) : Bool :=
  '0' ≤ c && c ≤ '9'

/-- The value of decimal digits. -/
def decimalValue (digits : List Char) : Nat :=
  digits.foldl (fun value digit => 10 * value + (digit.toNat - '0'.toNat)) 0

end Reader

end RemoteDebug
