/-!
# Hexadecimal numbers and bytes

Numbers travel as hexadecimal digits: addresses with at least six, registers with eight or four,
bytes with two. This module writes a number with a least number of digits in either case and
reads digits of either case back; a reader refuses the empty text and every other character.
-/

namespace RemoteDebug.Hex

/-! ## Writing -/

/-- The digits of a number in lower case, padded with zeros to a least width. -/
def digits (width value : Nat) : List Char :=
  (Nat.toDigits 16 value).leftpad width '0'

/-- A number in lower case digits, padded with zeros to a least width. -/
def lower (width value : Nat) : String :=
  String.ofList (digits width value)

/-- A number in upper case digits, padded with zeros to a least width. -/
def upper (width value : Nat) : String :=
  String.ofList ((digits width value).map Char.toUpper)

/-- A number with the mark `0x` before its digits. -/
def marked (value : Nat) : String :=
  "0x" ++ lower 1 value

/-- An integer as the marked 64-bit word that stands for it in two's complement. -/
def markedWord (value : Int) : String :=
  marked (value % (0x10000000000000000 : Nat)).toNat

/-! ## Reading -/

/-- The value of a digit of either case. -/
def digitValue? (c : Char) : Option Nat :=
  if '0' ≤ c ∧ c ≤ '9' then some (c.toNat - '0'.toNat)
  else if 'a' ≤ c ∧ c ≤ 'f' then some (c.toNat - 'a'.toNat + 10)
  else if 'A' ≤ c ∧ c ≤ 'F' then some (c.toNat - 'A'.toNat + 10)
  else none

/-- Whether a character is a digit. -/
def isDigit (c : Char) : Bool :=
  (digitValue? c).isSome

/-- The value of a text of digits behind digits of value `high`. -/
def readFrom? (high : Nat) : List Char → Option Nat
  | [] => some high
  | c :: rest =>
    match digitValue? c with
    | some low => readFrom? (16 * high + low) rest
    | none => none

/-- The value of a text that holds a digit and nothing but digits. -/
def read? (text : List Char) : Option Nat :=
  if text.isEmpty then none else readFrom? 0 text

/-- The bytes written by pairs of digits, behind bytes already read, newest first. -/
def bytesFrom? (newestFirst : List UInt8) : List Char → Option (List UInt8)
  | [] => some newestFirst.reverse
  | [_] => none
  | high :: low :: rest =>
    match digitValue? high, digitValue? low with
    | some h, some l => bytesFrom? (UInt8.ofNat (16 * h + l) :: newestFirst) rest
    | _, _ => none

/-- The bytes written by pairs of digits; an odd digit or any other character is refused. -/
def bytes? (text : List Char) : Option (List UInt8) :=
  bytesFrom? [] text

end RemoteDebug.Hex
