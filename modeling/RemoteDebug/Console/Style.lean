/-!
# Coloured lines

A line of the console is a list of spans, each with a style or without one. It can be written with
the control sequences of a terminal or as bare text, and the two differ in these sequences only.
-/

namespace RemoteDebug.Console

/-- What a span is, which decides its colour. -/
inductive Style where
  | address
  | symbol
  | keyword
  | changed
  | flags
  | error
deriving DecidableEq, Repr

/-- The number of a style's colour in the palette of 256. -/
def Style.colour : Style → Nat
  | address => 12
  | symbol => 11
  | keyword => 13
  | changed => 1
  | flags => 2
  | error => 9

/-- A text between the sequences that set a style's colour and that set it back. -/
def Style.paint (style : Style) (text : String) : String :=
  "\x1b[38;5;" ++ toString style.colour ++ "m" ++ text ++ "\x1b[39m"

/-- A text between the sequences that set bold type and that set it back. -/
def embolden (text : String) : String :=
  "\x1b[1m" ++ text ++ "\x1b[0m"

/-- A piece of a line. -/
structure Span where
  text : String
  style : Option Style := none
  bold : Bool := false
deriving DecidableEq, Repr

namespace Span

/-- A span with control sequences. -/
def coloured (span : Span) : String :=
  let painted := match span.style with
    | some style => style.paint span.text
    | none => span.text
  if span.bold then embolden painted else painted

end Span

/-- A line of the console. -/
abbrev Line : Type :=
  List Span

namespace Line

/-- A line with control sequences. -/
def coloured (line : Line) : String :=
  String.join (line.map Span.coloured)

/-- A line without control sequences. -/
def bare (line : Line) : String :=
  String.join (line.map Span.text)

/-- A line without a style. -/
def plain (text : String) : Line :=
  [{ text }]

/-- A line in one style. -/
def styled (style : Style) (text : String) : Line :=
  [{ text, style := some style }]

end Line

end RemoteDebug.Console
