import RemoteDebug.Address.Navigation
import RemoteDebug.Decode.Registers

/-!
# Memory blocks

A memory block tells on its tag line whether the request succeeded, where the bytes start and how
many the target means to send; the digits of the bytes follow on the tag line and on the payload
lines, cut anywhere. The number of bytes is that of the digits, not the one that was announced.
-/

namespace RemoteDebug.Decode

open RemoteDebug.Wire

/-- Bytes of memory from a start address on. -/
structure MemoryDump where
  start : Nat
  bytes : List UInt8
deriving DecidableEq, Repr

namespace MemoryDump

/-- The number of bytes. -/
def size (dump : MemoryDump) : Nat :=
  dump.bytes.length

/-- The address behind the last byte. -/
def stop (dump : MemoryDump) : Nat :=
  dump.start + dump.size

/-- Bytes cut into rows, each with the address of its first byte. -/
def rowsFrom (address : Nat) : List UInt8 → List (Nat × List UInt8)
  | [] => []
  | byte :: rest =>
    (address, (byte :: rest).take memoryRowWidth) ::
      rowsFrom (address + memoryRowWidth) ((byte :: rest).drop memoryRowWidth)
termination_by bytes => bytes.length
decreasing_by
  rw [List.length_drop, List.length_cons, memoryRowWidth]
  omega

/-- The rows of a dump. -/
def rows (dump : MemoryDump) : List (Nat × List UInt8) :=
  rowsFrom dump.start dump.bytes

/-- The address of a row as it is shown. -/
def rowAddress (row : Nat × List UInt8) : String :=
  Hex.lower 6 row.1

/-- The bytes of a row as they are shown. -/
def rowBytes (row : Nat × List UInt8) : String :=
  " ".intercalate (row.2.map fun byte => Hex.lower 2 byte.toNat)

/-- A row as it is shown. -/
def rowText (row : Nat × List UInt8) : String :=
  rowAddress row ++ " | " ++ rowBytes row

end MemoryDump

/-- The status of a request that succeeded. -/
def memoryStatus : String :=
  "OK"

/-- The payload of a memory block: what follows the first fields of the tag line, and the payload
lines without the blanks around them. -/
def memoryPayload (fields : List String) (block : Block) : String :=
  String.join (fields ++ block.payload.map Text.trimOf)

/-- Reads a memory block. -/
def memory (block : Block) : Except DecodeError MemoryDump := do
  unless block.kind == .memory do throw (wrongKind "mem" block)
  let status :: fields := block.tagFields | throw (.missingField "status")
  unless status == memoryStatus do throw (.rejected status)
  let address :: fields := fields | throw (.missingField "address")
  let start ← number "address" address
  if maxAddress < start then throw (.valueOutOfRange "address" start)
  let size :: fields := fields | throw (.missingField "size")
  let _ ← number "size" size
  let payload := memoryPayload fields block
  let some bytes := Hex.bytes? payload.toList | throw (.invalidHex "payload" payload)
  if maxAddress + 1 < start + bytes.length then throw (.valueOutOfRange "size" bytes.length)
  return { start, bytes }

end RemoteDebug.Decode
