import RemoteDebug.Decode.Registers

/-!
# Disassembly blocks

A disassembly block tells an address on its tag line and an instruction on each payload line that
is not blank: a symbol, the address of the instruction, and its text. The symbol and the address
are words; the text is the rest of the line and may be empty.
-/

namespace RemoteDebug.Decode

open RemoteDebug.Wire

/-- A disassembled instruction. -/
structure Instruction where
  address : Nat
  symbol : String
  text : String
deriving DecidableEq, Repr

/-- The instructions of a block and the address on its tag line. -/
structure Listing where
  address : Nat
  instructions : List Instruction
deriving DecidableEq, Repr

namespace Listing

/-- The address of the second instruction. -/
def secondAddress (listing : Listing) : Option Nat :=
  listing.instructions[1]?.map Instruction.address

/-- The address of the last instruction that is shown on a screen of so many lines. -/
def lastShownAddress (listing : Listing) (lines : Nat) : Option Nat :=
  (listing.instructions.take lines).getLast?.map Instruction.address

end Listing

/-- Reads the line of an instruction. -/
def instruction (line : String) : Except DecodeError Instruction := do
  let text := Text.trim line.toList
  match Text.splitAtFirst? Text.isBlank text with
  | none => throw (.malformedToken (String.ofList text))
  | some (symbol, rest) =>
    let rest := Text.trimStart rest
    let (shown, rawText) := (Text.splitAtFirst? Text.isBlank rest).getD (rest, [])
    let address ← number "instruction address" (String.ofList shown)
    return {
      address
      symbol := String.ofList symbol
      text := String.ofList (Text.trimStart rawText)
    }

/-- The payload lines of a disassembly block that are not blank. -/
def instructionLines (block : Block) : List String :=
  block.payload.filter fun line => !(Text.trim line.toList).isEmpty

/-- Reads a disassembly block. -/
def disassembly (block : Block) : Except DecodeError Listing := do
  unless block.kind == .disassembly do throw (wrongKind "disasm" block)
  let field :: _ := block.tagFields | throw (.missingField "address")
  let address ← number "address" field
  let instructions ← (instructionLines block).mapM instruction
  return { address, instructions }

end RemoteDebug.Decode
