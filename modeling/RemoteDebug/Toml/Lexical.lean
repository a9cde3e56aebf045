import RemoteDebug.Text.Hex
import RemoteDebug.Text.Reader

/-!
# The characters of TOML

Blanks, line ends, comments, strings and keys. A blank is a space or a tab; a line ends with a line
feed, before which a carriage return may stand. Controls are let through nowhere but for the tab.
-/

namespace RemoteDebug.Toml

open RemoteDebug.Reader

/-! ## Blanks and comments -/

/-- Whether a character is a blank. -/
def isSpace (c : Char) : Bool :=
  c == ' ' || c == '\t'

/-- Reads blanks, if there are any. -/
def spaces : Reader Unit := do
  let _ ← charsWhile isSpace

/-- Reads a line end. -/
def lineEnd : Reader Unit :=
  exactly ['\n'] <|> exactly ['\r', '\n']

/-- Whether a character may stand in a comment or a string. -/
def isTextChar (c : Char) : Bool :=
  c == '\t' || (0x20 ≤ c.toNat && c.toNat != 0x7F)

/-- Reads a comment, without the line end behind it. -/
def comment : Reader Unit := do
  exactly ['#']
  let _ ← charsWhile isTextChar

/-- Reads blanks and a comment, if there are any. -/
def trailing : Reader Unit := do
  spaces
  let _ ← optional? comment

/-- Reads a line end, or a comment with its line end, or a blank. -/
def gap : Reader Unit :=
  (do let _ ← char isSpace) <|> lineEnd <|> (do comment; lineEnd)

/-- Reads blanks, line ends and comments, if there are any. -/
def gaps : Reader Unit := do
  let _ ← many gap

/-! ## Strings -/

/-- The character of a code point, unless it is none. -/
def scalar? (code : Nat) : Option Char :=
  if h : code.isValidChar then some (Char.ofNatAux code h) else none

/-- Reads exactly so many hexadecimal digits as the code point of a character. -/
def codePoint (count : Nat) : Reader Char :=
  fun text => do
    let digits := text.take count
    guard (digits.length = count)
    let c ← Hex.read? digits >>= scalar?
    return (c, text.drop count)

/-- Reads what follows the backslash of an escape. -/
def escaped : Reader Char := do
  match ← char fun _ => true with
  | 'b' => return '\x08'
  | 't' => return '\t'
  | 'n' => return '\n'
  | 'f' => return '\x0c'
  | 'r' => return '\r'
  | '\x22' => return '\x22'
  | '\\' => return '\\'
  | 'u' => codePoint 4
  | 'U' => codePoint 8
  | _ => failure

/-- Reads an escape. -/
def escapeSequence : Reader Char := do
  exactly ['\\']
  escaped

/-- Reads a string between double quotes, on one line. -/
def basicString : Reader String := do
  exactly ['\x22']
  let chars ← many <|
    (char fun c => isTextChar c && c != '\x22' && c != '\\') <|> escapeSequence
  exactly ['\x22']
  return String.ofList chars

/-- Reads a string between single quotes, on one line. -/
def literalString : Reader String := do
  exactly ['\x27']
  let chars ← charsWhile fun c => isTextChar c && c != '\x27'
  exactly ['\x27']
  return String.ofList chars

/-- Reads one or two quotes that no third one follows. -/
def looseQuotes (quote : Char) : Reader (List Char)
  | text =>
    let count := (text.takeWhile (· == quote)).length
    if count = 1 ∨ count = 2 then some (List.replicate count quote, text.drop count) else none

/-- Reads the three quotes that end a string of several lines. One or two more may stand before
them and belong to the string; whatever quotes are left behind do not. -/
def closingQuotes (quote : Char) : Reader (List Char)
  | text =>
    let count := (text.takeWhile (· == quote)).length
    let kept := min (count - 3) 2
    if count < 3 then none else some (List.replicate kept quote, text.drop (kept + 3))

/-- Reads a string of several lines between three quotes and three. A line end right behind the
first three does not belong to it, and each other line end counts as a line feed. -/
def quotedLines (quote : Char) (piece : Reader (List Char)) : Reader String := do
  exactly [quote, quote, quote]
  let _ ← optional? lineEnd
  let pieces ← many (piece <|> (do lineEnd; return ['\n']) <|> looseQuotes quote)
  let last ← closingQuotes quote
  return String.ofList (pieces.flatten ++ last)

/-- Reads a backslash at the end of a line, and all blanks and line ends behind it. -/
def continued : Reader Unit := do
  exactly ['\\']
  spaces
  lineEnd
  let _ ← many ((do let _ ← char isSpace) <|> lineEnd)

/-- Reads a string between three double quotes. -/
def basicText : Reader String :=
  quotedLines '\x22' <|
    (do return [← char fun c => isTextChar c && c != '\x22' && c != '\\']) <|>
    (do continued; return []) <|>
    (do return [← escapeSequence])

/-- Reads a string between three single quotes. -/
def literalText : Reader String :=
  quotedLines '\x27' do return [← char fun c => isTextChar c && c != '\x27']

/-- Reads a string of any form. -/
def stringValue : Reader String :=
  basicText <|> basicString <|> literalText <|> literalString

/-! ## Keys -/

/-- Whether a character may stand in a key without quotes. -/
def isBareKeyChar (c : Char) : Bool :=
  c.isAlphanum || c == '_' || c == '-'

/-- Reads one part of a key. -/
def simpleKey : Reader String :=
  basicString <|> literalString <|> (do return String.ofList (← someChars isBareKeyChar))

/-- The most parts of a key. -/
def keyDepth : Nat :=
  79

/-- Reads a key: parts with points between them, and the blanks around it. -/
def key : Reader (List String) := do
  spaces
  let first ← simpleKey
  spaces
  let rest ← many do
    exactly ['.']
    spaces
    let part ← simpleKey
    spaces
    return part
  guard (rest.length < keyDepth)
  return first :: rest

end RemoteDebug.Toml
