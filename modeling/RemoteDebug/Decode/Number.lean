import RemoteDebug.Error
import RemoteDebug.Text.Blank

/-!
# Numbers on the wire

The target writes numbers in hexadecimal, with or without a mark `$` or `0x` before them and with
or without colons behind them. A number has 32 bits; a plus sign before its digits is let through.
-/

namespace RemoteDebug.Decode

/-- One more than the largest number on the wire. -/
def wordBound : Nat :=
  0x100000000

/-- A text without the one mark before its digits, if it has one. -/
def dropMark : List Char → List Char
  | '$' :: rest => rest
  | '0' :: 'x' :: rest => rest
  | text => text

/-- A text without the one plus sign before its digits, if it has one. -/
def dropSign : List Char → List Char
  | '+' :: rest => rest
  | text => text

/-- The number that a text holds, if it holds one of 32 bits. -/
def number? (text : List Char) : Option Nat :=
  (Hex.read? (dropSign (dropMark (Text.dropEndWhile (· == ':') text)))).filter (· < wordBound)

/-- The number in a field, or the error that names the field and shows the text. -/
def number (field text : String) : Except DecodeError Nat :=
  match number? text.toList with
  | some value => .ok value
  | none => .error (.invalidHex field text)

end RemoteDebug.Decode
