import RemoteDebug.Decode.Disassembly
import RemoteDebug.Decode.Memory

/-!
# What a block shows

Each block of a reply is read by the decoder of its kind, on its own: an error in one does not
keep the others from being read. Status blocks belong to no view; they tell the program counter.
-/

namespace RemoteDebug.Decode

open RemoteDebug.Wire

/-- What a view shows. -/
inductive Content where
  | registers (report : RegisterReport)
  | memory (dump : MemoryDump)
  | disassembly (listing : Listing)
deriving DecidableEq, Repr

/-- The view that shows a content. -/
def Content.view : Content → View
  | registers _ => .registers
  | memory _ => .memory
  | disassembly _ => .disassembly

/-- The view that a block of some kind belongs to. -/
def viewOfKind? : BlockKind → Option View
  | .registers => some .registers
  | .memory => some .memory
  | .disassembly => some .disassembly
  | .status | .unknown _ => none

/-- Reads a block as what a view shows. Changes of registers are those since `previous`. -/
def content (view : View) (block : Block) (previous : Option Snapshot) :
    Except DecodeError Content :=
  match view with
  | .registers => (Decode.registers block previous).map .registers
  | .memory => (Decode.memory block).map .memory
  | .disassembly => (Decode.disassembly block).map .disassembly

/-- The view that a block belongs to and what the view shows; none for a block of no view. -/
def block? (block : Block) (previous : Option Snapshot) :
    Option (View × Except DecodeError Content) :=
  (viewOfKind? block.kind).map fun view => (view, content view block previous)

/-- What the token of the program counter starts with. -/
def programCounterStart : List Char :=
  ['P', 'C', ':']

/-- The text of the first token of the program counter in a status block. -/
def programCounterText? (block : Block) : Option (List Char) :=
  ((block.lines.flatMap fun line => Text.words line.toList).find?
    programCounterStart.isPrefixOf).map (·.drop programCounterStart.length)

/-- The program counter that a status block tells. -/
def programCounter (block : Block) : Except Error Nat := do
  unless block.kind == .status do throw (.decode (wrongKind "status" block))
  let some text := programCounterText? block | throw .noProgramCounter
  match number "PC" (String.ofList text) with
  | .ok address => return address
  | .error cause => throw (.decode cause)

end RemoteDebug.Decode
