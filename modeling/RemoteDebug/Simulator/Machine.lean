import RemoteDebug.Channel.Basic
import RemoteDebug.Wire.Marker
import RemoteDebug.Wire.SyncToken

/-!
# A simulated target

This peer stands in for an emulator. It knows a program counter and one data register, answers
every request in the form that the decoders read, and can be told to misbehave: to answer with a
script, to add noise around its replies, to ignore a pause, to swallow the echo of a token, to
close behind one, or to refuse a line. Its memory holds at each address the low byte of the address.
-/

namespace RemoteDebug.Simulator

/-- A simulated target. -/
structure Machine where
  pc : Nat := 0
  d0 : Nat := 0
  stopsOnPause : Bool := true
  noisy : Bool := false
  labels : Bool := false
  sizes : List Nat := [2]
  script : List (String × List (List Item)) := []
deriving Repr

namespace Machine

/-- The numbers of a register are taken modulo this. -/
def wordSize : Nat :=
  0x100000000

/-- The largest range that is answered. -/
def rangeLimit : Nat :=
  0x10000

/-- Whether a character separates the words of a request. -/
def isSeparator (c : Char) : Bool :=
  c == ' ' || c == '\t' || c == '\n' || c == '\r' || c == '\x0c'

/-- The words of a request. -/
def requestWords (line : String) : List String :=
  ((line.toList.splitOnP isSeparator).filter fun word => !word.isEmpty).map String.ofList

/-- The number that a word of a request holds, its marks left out. -/
def argument? (word : String) : Option Nat :=
  let digits := match word.toList.dropWhile (· == '$') with
    | '+' :: rest => rest
    | text => text
  (Hex.read? digits).filter (· < wordSize)

/-- The address and the length in the words behind a request for a range. -/
def range? (arguments : List String) : Option (Nat × Nat) := do
  let address ← arguments[0]?.bind argument?
  let length ← arguments[1]?.bind argument?
  if rangeLimit < length then none else some (address, length)

/-- The line that closes a block. -/
def blockEnd : String :=
  "##"

/-- The block that answers a status request. -/
def statusReply (machine : Machine) : List String :=
  ["#status VBL:1 PC:" ++ Hex.lower 6 machine.pc, blockEnd]

/-- The block that answers a request for the registers. -/
def registersReply (machine : Machine) : List String :=
  ["#registers D0:" ++ Hex.upper 8 machine.d0 ++ " D1:00000000 A7:00010000 PC:" ++
    Hex.upper 8 machine.pc ++ " SR:2700", blockEnd]

/-- The digits of the bytes of a range. -/
def bytesText (address length : Nat) : String :=
  String.ofList <| (List.range length).flatMap fun i => Hex.digits 2 ((address + i) % 256)

/-- The block that answers a request for a range of memory. -/
def memoryReply (address length : Nat) : List String :=
  ["#mem OK " ++ Hex.lower 6 address ++ " " ++ Hex.lower 6 length ++ " " ++
    bytesText address length, blockEnd]

/-- The line of the instruction at an address. -/
def instructionLine (machine : Machine) (address : Nat) : String :=
  let symbol := if machine.labels && address % 8 == 0 then "L" ++ Hex.lower 6 address else "-"
  symbol ++ " $" ++ Hex.lower 6 address ++ "  4e71  nop"

/-- The lines of `count` instructions from an address on; `index` counts those before. -/
def instructionLines (machine : Machine) (address index : Nat) : Nat → List String
  | 0 => []
  | count + 1 =>
    let size := machine.sizes.getD (index % machine.sizes.length) 0
    machine.instructionLine address ::
      machine.instructionLines ((address + size) % wordSize) (index + 1) count

/-- The block that answers a request for the instructions of a range. -/
def disassemblyReply (machine : Machine) (address length : Nat) : List String :=
  ["#disasm " ++ Hex.lower 6 address] ++ machine.instructionLines address 0 (length / 6) ++
    [blockEnd]

/-- The machine after one instruction. -/
def advance (machine : Machine) : Machine :=
  { machine with
    pc := (machine.pc + machine.sizes.headD 0) % wordSize
    d0 := (machine.d0 + 1) % wordSize }

/-- The lines that answer a request, without the noise, and the machine behind it. -/
def answer (machine : Machine) (line : String) : List String × Machine :=
  let parts := requestWords line
  match parts.headD "" with
  | "status" => (machine.statusReply, machine)
  | "registers" => (machine.registersReply, machine)
  | "memory" =>
    match range? (parts.drop 1) with
    | some (address, length) => (memoryReply address length, machine)
    | none => (["bad arguments"], machine)
  | "disasm" =>
    match range? (parts.drop 1) with
    | some (address, length) => (machine.disassemblyReply address length, machine)
    | none => (["bad arguments"], machine)
  | "step" | "next" => ([Wire.stopMarker], machine.advance)
  | "break" => (if machine.stopsOnPause then [Wire.stopMarker] else [], machine)
  | "continue" | "echo" => ([], machine)
  | "load" => (["load: OK"], machine)
  | "save" => (["save: OK"], machine)
  | _ => (["unknown command: " ++ line], machine)

/-- The lines of an answer with the noise around them. -/
def withNoise (machine : Machine) (lines : List String) : List String :=
  if machine.noisy && !lines.isEmpty then
    ["noise before block"] ++ lines ++ ["noise after block", "#trace on", blockEnd]
  else lines

/-- Takes the next scripted reply to a word, if one is left. -/
def takeScripted (word : String) :
    List (String × List (List Item)) → Option (List Item × List (String × List (List Item)))
  | [] => none
  | (key, replies) :: rest =>
    if key = word then
      match replies with
      | reply :: later => some (reply, (key, later) :: rest)
      | [] => none
    else (takeScripted word rest).map fun (reply, script) => (reply, (key, replies) :: script)

/-- What the machine puts into the channel for a request, and the machine behind it. -/
def reply (machine : Machine) (line : String) : List Item × Machine :=
  match takeScripted ((requestWords line).headD "") machine.script with
  | some (items, script) => (items, { machine with script })
  | none =>
    let (lines, after) := machine.answer line
    ((machine.withNoise lines).map .line, after)

end Machine

/-- A simulated target behind a link that can fail. -/
structure Link where
  machine : Machine := {}
  /-- The text with which the next line is refused. -/
  refuses : Option String := none
  /-- Whether echoes of tokens are swallowed. -/
  muted : Bool := false
  /-- Whether the channel closes instead of an echo. -/
  closesOnEcho : Bool := false
deriving Repr

namespace Link

/-- What a request to echo a text starts with. -/
def echoRequest : List Char :=
  ['e', 'c', 'h', 'o', ' ']

/-- How the link takes a line. -/
def receive (link : Link) (line : String) : Reaction × Link :=
  match link.refuses with
  | some text => (.refused text, { link with refuses := none })
  | none =>
    let (items, machine) := link.machine.reply line
    let after := { link with machine }
    if echoRequest.isPrefixOf line.toList then
      if link.closesOnEcho then (.answered items true, after)
      else if link.muted then (.answered items false, after)
      else (.answered (items ++ [.line ("#" ++ line)]) false, after)
    else (.answered items false, after)

instance : Peer Link where
  receive := receive

end Link

end RemoteDebug.Simulator
