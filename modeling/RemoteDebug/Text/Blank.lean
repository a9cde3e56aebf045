/-!
# Blank characters

What separates words, on the wire as on the console, is the Unicode property White_Space: 25
characters in ten ranges. This module tests it and holds the operations on text that hang on it:
trimming, and cutting a text into its words. The operations work on lists of characters; the
versions on strings are their images, so that a law about lists is a law about strings.
-/

namespace RemoteDebug.Text

/-- Whether a character has the Unicode property White_Space. -/
def isBlank (c : Char) : Bool :=
  let code := c.toNat
  (9 ≤ code && code ≤ 13) || code == 32 || code == 0x85 || code == 0xA0 || code == 0x1680 ||
  (0x2000 ≤ code && code ≤ 0x200A) || code == 0x2028 || code == 0x2029 || code == 0x202F ||
  code == 0x205F || code == 0x3000

/-! ## Trimming -/

/-- A list without the longest run of elements at its end that satisfy a test. -/
def dropEndWhile {α : Type} (test : α → Bool) (items : List α) : List α :=
  (items.reverse.dropWhile test).reverse

/-- A text without the blanks at its start. -/
def trimStart (text : List Char) : List Char :=
  text.dropWhile isBlank

/-- A text without the blanks at its end. -/
def trimEnd (text : List Char) : List Char :=
  dropEndWhile isBlank text

/-- A text without the blanks at either end. -/
def trim (text : List Char) : List Char :=
  trimEnd (trimStart text)

/-! ## Words -/

/-- The maximal runs of characters that are not blank, in order. -/
def words (text : List Char) : List (List Char) :=
  (text.splitOnP isBlank).filter fun word => !word.isEmpty

/-- The text before the first character that satisfies a test and the text behind that character,
or none if there is no such character. -/
def splitAtFirst? (test : Char → Bool) (text : List Char) : Option (List Char × List Char) :=
  match text.dropWhile (fun c => !test c) with
  | [] => none
  | _ :: behind => some (text.takeWhile (fun c => !test c), behind)

/-! ## The same operations on strings -/

/-- A string without the blanks at its end. -/
def trimEndOf (text : String) : String :=
  String.ofList (trimEnd text.toList)

/-- A string without the blanks at either end. -/
def trimOf (text : String) : String :=
  String.ofList (trim text.toList)

/-- The words of a string. -/
def wordsOf (text : String) : List String :=
  (words text.toList).map String.ofList

/-- Whether a character ends a line on the wire. -/
def isLineEnd (c : Char) : Bool :=
  c == '\r' || c == '\n'

/-- A line without the line ends behind it. -/
def chompOf (line : String) : String :=
  String.ofList (dropEndWhile isLineEnd line.toList)

end RemoteDebug.Text
