import RemoteDebug.Address.Navigation
import RemoteDebug.Wire.SyncToken

/-!
# Requests

Each request is one line: a word and its arguments. Addresses and lengths have at least six digits
and the mark `$`. A memory or disassembly request names the start of a window and its width.
-/

namespace RemoteDebug.Wire

/-- A request to the target. -/
inductive Request where
  /-- Asks where the target is. -/
  | status
  /-- Asks the target to stop. -/
  | pause
  /-- Lets a stopped target run. -/
  | resume
  /-- Asks for the registers. -/
  | registers
  /-- Asks for the bytes of a window. -/
  | memory (window : Window)
  /-- Asks for the instructions of a window. -/
  | disassembly (window : Window)
  /-- Executes one instruction. -/
  | stepInto
  /-- Executes one instruction, and a called subroutine to its end. -/
  | stepOver
  /-- Loads a file into memory. -/
  | load (path : String) (address : Nat)
  /-- Saves memory into a file. -/
  | save (path : String) (address length : Nat)
  /-- Asks for the echo of a token. -/
  | sync (token : SyncToken)
  /-- Any other text. -/
  | raw (text : String)
deriving DecidableEq, Repr

namespace Request

/-- An address or a length as it is sent. -/
def number (value : Nat) : String :=
  "$" ++ Hex.lower 6 value

/-- A window as it is sent: its start and its width. -/
def range (window : Window) : String :=
  number window.first ++ " " ++ number window.width

/-- The line of a request. -/
def line : Request → String
  | status => "status"
  | pause => "break"
  | resume => "continue"
  | registers => "registers"
  | memory window => "memory " ++ range window
  | disassembly window => "disasm " ++ range window
  | stepInto => "step"
  | stepOver => "next"
  | load path address => "load " ++ path ++ " " ++ number address
  | save path address length => "save " ++ path ++ " " ++ number address ++ " " ++ number length
  | sync token => "echo " ++ token.text
  | raw text => Text.trimEndOf text

end Request

/-- The request for a view: its window for a view that has one, else the registers. -/
def Request.ofView : View → Option Window → Request
  | .memory, some window => .memory window
  | .disassembly, some window => .disassembly window
  | _, _ => .registers

end RemoteDebug.Wire
