import RemoteDebug.Address.Window
import RemoteDebug.View

/-!
# Navigation

What is shown depends on a cursor and a move. The cursor is the first address of the screen and,
where the target has told them, the addresses of its second and its last line; the move says how
far to go and in which direction. Each view answers with the window to ask the target for.
Instructions differ in size, so the disassembly view goes forward by the addresses it was told and
backward by guesses, and asks for enough bytes to fill a screen with the longest instructions.
-/

namespace RemoteDebug

/-! ## Moves -/

/-- How far a move goes: not at all, two bytes, a line or a screen. -/
inductive Magnitude where
  | zero
  | small
  | medium
  | large
deriving DecidableEq, Repr

/-- Where a move goes. -/
inductive Direction where
  | forward
  | backward
deriving DecidableEq, Repr

/-- The opposite direction. -/
def Direction.inverse : Direction → Direction
  | forward => backward
  | backward => forward

/-- A move of the shown window. -/
structure Move where
  magnitude : Magnitude
  direction : Direction
deriving DecidableEq, Repr

namespace Move

/-- The move that stays where it is. -/
def stay : Move :=
  ⟨.zero, .forward⟩

/-- The move of the same magnitude in the opposite direction. -/
def inverse (move : Move) : Move :=
  { move with direction := move.direction.inverse }

/-- Whether a move stays where it is. -/
def isStay (move : Move) : Bool :=
  move.magnitude == .zero

end Move

/-! ## Cursors -/

/-- The position shown: the first address and, if known, where the second and the last line of the
screen begin. -/
structure Cursor where
  first : Nat
  second : Option Nat := none
  last : Option Nat := none
deriving DecidableEq, Repr

/-- The position of a window. -/
def Window.cursor (window : Window) : Cursor :=
  { first := window.first, second := window.second, last := some window.last }

/-! ## The window of a view -/

/-- The bytes in a row of the memory view. -/
def memoryRowWidth : Nat :=
  16

/-- The most bytes that an instruction takes with its arguments. -/
def instructionWidth : Nat :=
  6

namespace Magnitude

/-- The distance of a move in the memory view, where `screen` is the bytes of a screen. -/
def memoryOffset (screen : Int) : Magnitude → Int
  | zero => 0
  | small => 2
  | medium => memoryRowWidth
  | large => screen

/-- The distance of a move in the disassembly view, where `screen` is the bytes of a screen. -/
def disassemblyOffset (screen : Int) : Magnitude → Int
  | zero => 0
  | small => 2
  | medium => 4
  | large => screen

end Magnitude

/-- The window of the memory view: a screen of rows, of which the second row is known. -/
def memoryWindow (cursor : Cursor) (move : Move) (lines : Nat) : Except Error Window := do
  let screen : Int := (max lines 1 * memoryRowWidth : Nat)
  let offset := move.magnitude.memoryOffset screen
  let start := match move.direction with
    | .forward => cursor.first + offset
    | .backward => cursor.first - offset
  let window ← Window.clamped start (start + screen)
  return { window with second := some (min (window.first + memoryRowWidth) window.last) }

/-- Where a disassembly screen starts, and how many bytes it asks for. Going back by a screen, it
asks for no more than what comes before the second line shown now, so that the line shown first
becomes the last one. -/
def disassemblyRange (cursor : Cursor) (move : Move) (screen : Int) : Int × Int :=
  let offset := move.magnitude.disassemblyOffset screen
  match move.direction with
  | .backward =>
    let start := max (cursor.first - offset) 0
    match move.magnitude, cursor.second with
    | .large, some second => (start, if start < second then second - start else screen)
    | _, _ => (start, screen)
  | .forward =>
    match move.magnitude, cursor.second, cursor.last with
    | .medium, some second, _ => (second, screen)
    | .large, _, some last => (last, screen)
    | _, _, _ => (cursor.first + offset, screen)

/-- The window of the disassembly view. -/
def disassemblyWindow (cursor : Cursor) (move : Move) (lines : Nat) : Except Error Window :=
  let range := disassemblyRange cursor move (max lines 1 * instructionWidth : Nat)
  Window.clamped range.1 (range.1 + range.2)

/-- The window that a view asks the target for, or none for the view without addresses. -/
def View.window? (view : View) (cursor : Cursor) (move : Move) (lines : Nat) :
    Except Error (Option Window) :=
  match view with
  | .registers => .ok none
  | .memory => (memoryWindow cursor move lines).map some
  | .disassembly => (disassemblyWindow cursor move lines).map some

/-- The windows that a list of moves leads through, each move starting from the window before. A
view without addresses stays where it is. -/
def View.walk (view : View) (lines : Nat) (cursor : Cursor) :
    List Move → List (Except Error (Option Window))
  | [] => []
  | move :: rest =>
    let found := view.window? cursor move lines
    let next := match found with
      | .ok (some window) => window.cursor
      | _ => cursor
    found :: view.walk lines next rest

end RemoteDebug
