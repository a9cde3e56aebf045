import RemoteDebug.Console.Style
import RemoteDebug.Session.Basic

/-!
# What the views look like

Each view has a form of its own: registers stand four in a row, memory has a row for sixteen bytes,
and an instruction has a line, under its symbol if it has one. Memory and disassembly are cut at the
lines of the screen; an instruction and its symbol count as one.
-/

namespace RemoteDebug.Console

open RemoteDebug.Decode

/-- The registers in a row. -/
def registersPerRow : Nat :=
  4

/-- The digits of a register's value. -/
def registerWidth : Register → Nat
  | .sr => 4
  | _ => 8

/-- A register with its value, which stands out if it changed. -/
def registerCell (changed : List Register) (register : Register) (value : Nat) : Line :=
  let text := Hex.upper (registerWidth register) value
  [{ text := register.name, style := some .keyword }, { text := ": " },
   if changed.contains register then { text, style := some .changed, bold := true } else { text }]

/-- Cells cut into rows, with two blanks between the cells of a row. -/
def cellRows : List Line → List Line
  | [] => []
  | cell :: rest =>
    (Line.plain "  ").intercalate ((cell :: rest).take registersPerRow) ::
      cellRows ((cell :: rest).drop registersPerRow)
termination_by cells => cells.length
decreasing_by
  rw [List.length_drop, List.length_cons, registersPerRow]
  omega

/-- The lines of the register view. -/
def registerLines (report : RegisterReport) : List Line :=
  let cells := report.registers.toList.map fun (register, value) =>
    registerCell report.changed register value
  let flagLines := match report.flags with
    | some flags =>
      [[{ text := "SR flags", style := some .keyword }, { text := ": " },
        { text := flags, style := some .flags }]]
    | none => []
  cellRows cells ++ flagLines

/-- A row of the memory view. -/
def memoryLine (row : Nat × List UInt8) : Line :=
  [{ text := MemoryDump.rowAddress row, style := some .address },
   { text := " | " ++ MemoryDump.rowBytes row }]

/-- The lines of the memory view on a screen of so many. -/
def memoryLines (dump : MemoryDump) (limit : Nat) : List Line :=
  (dump.rows.take limit).map memoryLine

/-- Whether an instruction has a symbol that is shown. -/
def hasSymbol (instruction : Instruction) : Bool :=
  instruction.symbol != "" && instruction.symbol != "-"

/-- A line of the disassembly view. -/
def instructionLine (instruction : Instruction) : Line :=
  let line : Line :=
    [{ text := Hex.lower 6 instruction.address, style := some .address },
     { text := ": " ++ instruction.text }]
  if hasSymbol instruction then
    [{ text := instruction.symbol ++ ":", style := some .symbol }, { text := "\n" }] ++ line
  else line

/-- The lines of the disassembly view on a screen of so many. -/
def disassemblyLines (listing : Listing) (limit : Nat) : List Line :=
  (listing.instructions.take limit).map instructionLine

/-- What stands for a view whose block could not be read. -/
def errorLine (view : View) (cause : DecodeError) : Line :=
  [{ text := view.name, style := some .keyword }, { text := " " },
   { text := "malformed reply: " ++ cause.message, style := some .error }]

/-- The lines of a view on a screen of so many. -/
def viewLines (view : View) (shown : Shown) (limit : Nat) : List Line :=
  match shown with
  | .ok (.registers report) => registerLines report
  | .ok (.memory dump) => memoryLines dump limit
  | .ok (.disassembly listing) => disassemblyLines listing limit
  | .error cause => [errorLine view cause]

/-- The line above a view, which marks the one that has the focus. -/
def headline (session : Session) (view : View) : Line :=
  [{ text := if view = session.focus then "*" else " " },
   { text := view.name, style := some .keyword }]

/-- The lines of an active view, none if it showed nothing. -/
def viewSection (session : Session) (view : View) : List Line :=
  match session.shown.get view with
  | some shown => headline session view :: viewLines view shown session.settings.lines
  | none => []

/-- The line below the views: the window of the focused one, if it has one. -/
def windowLines (session : Session) : List Line :=
  match session.focus.isAddressed, session.currentWindow with
  | true, some window =>
    [[{ text := "window: " }, { text := window.text, style := some .address }]]
  | _, _ => []

/-- The lines of all active views. -/
def sessionLines (session : Session) : List Line :=
  session.views.toList.flatMap (viewSection session) ++ windowLines session

end RemoteDebug.Console
