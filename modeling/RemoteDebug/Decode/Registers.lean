import RemoteDebug.Decode.Number
import RemoteDebug.Register.Snapshot
import RemoteDebug.Wire.Block

/-!
# Register blocks

A register block is a sequence of tokens `NAME:VALUE` on its tag line and its payload lines; how
they are divided into lines does not matter. Either every token is read or the block is refused,
with the error of its first bad token.
-/

namespace RemoteDebug.Decode

open RemoteDebug.Wire

/-- A register block that was read: the registers, those of them that changed since the snapshot
before, and the flags of the status register. -/
structure RegisterReport where
  registers : Snapshot
  changed : List Register
  flags : Option String
deriving DecidableEq, Repr

/-- The error for a block of another kind than a decoder reads. -/
def wrongKind (expected : String) (block : Block) : DecodeError :=
  .unexpectedKind expected block.kind.keyword

/-- The tokens of a register block in order. -/
def registerTokens (block : Block) : List String :=
  block.tagFields ++ block.payload.flatMap Text.wordsOf

/-- The register and the value that a token names. -/
def registerEntry (token : String) : Except DecodeError (Register × Nat) := do
  match Text.splitAtFirst? (· == ':') token.toList with
  | none => throw (.malformedToken token)
  | some (name, text) =>
    match Register.ofName? (String.ofList (name.map Char.toUpper)) with
    | none => throw (.unknownRegister (String.ofList name))
    | some register =>
      let value ← number "register" (String.ofList text)
      if register.maxValue < value then throw (.valueOutOfRange "SR" value)
      return (register, value)

/-- The entries of tokens in order, or the error of the first bad one. -/
def registerEntries (tokens : List String) : Except DecodeError (List (Register × Nat)) :=
  tokens.mapM registerEntry

/-- The registers that changed since a snapshot; none did if there is no snapshot. -/
def changedSince? (registers : Snapshot) (previous : Option Snapshot) : List Register :=
  match previous with
  | some snapshot => registers.changedSince snapshot
  | none => []

/-- Reads a register block. -/
def registers (block : Block) (previous : Option Snapshot) : Except DecodeError RegisterReport := do
  unless block.kind == .registers do throw (wrongKind "registers" block)
  let entries ← registerEntries (registerTokens block)
  if entries.isEmpty then throw .emptyBlock
  let found := Snapshot.ofList entries
  return { registers := found, changed := changedSince? found previous, flags := found.statusFlags }

end RemoteDebug.Decode
