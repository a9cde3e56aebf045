import RemoteDebug.Address.Navigation
import RemoteDebug.Config.Basic

/-!
# Commands

What a user types is a command or is refused. A refusal has a cause of its own; a command that
fails in the session fails with the session's error.
-/

namespace RemoteDebug

/-- A command of the user. -/
inductive Command where
  /-- Gives the focus to a view. -/
  | focus (view : View)
  /-- Sets the active views. -/
  | views (views : List View)
  /-- Moves the focused view. -/
  | move (move : Move)
  /-- Shows an address. -/
  | goto (address : Nat)
  /-- Executes one instruction. -/
  | stepInto
  /-- Executes one instruction, and a called subroutine to its end. -/
  | stepOver
  /-- Stops a running target and resumes a stopped one. -/
  | toggle
  /-- Stops a running target. -/
  | pause
  /-- Resumes a stopped target. -/
  | resume
  /-- Shows the active views again. -/
  | refresh
  /-- Sets the lines of a screen. -/
  | lines (count : Nat)
  /-- Sets whether the program counter is followed. -/
  | follow (on : Bool)
  /-- Loads a file into memory, at the shown address if none is given. -/
  | load (path : String) (address : Option Nat)
  /-- Saves memory into a file. -/
  | save (path : String) (address length : Nat)
  /-- Sends a text as it is. -/
  | raw (text : String)
  /-- Explains a command, or lists all. -/
  | help (topic : Option String)
deriving DecidableEq, Repr

/-- Why a command was not carried out. -/
inductive CommandError where
  /-- Nothing was typed. -/
  | nothingTyped
  /-- What was typed is no command. -/
  | notUnderstood
  /-- The number of lines may not be set. -/
  | linesOutOfRange
  /-- No address is shown that a file could be loaded at. -/
  | noLoadAddress
  /-- The session failed. -/
  | failed (cause : Error)
deriving DecidableEq, Repr

namespace CommandError

/-- The wording of the reason why a command is malformed; none for a failure of the session. -/
def reason? : CommandError → Option String
  | nothingTyped => some "type help for list of commands"
  | notUnderstood => some "found no command that reads so"
  | linesOutOfRange => some ("lines must be in " ++ Config.linesRange)
  | noLoadAddress => some "no address to load at"
  | failed _ => none

/-- The wording of the error. -/
def message (error : CommandError) : String :=
  match error, error.reason? with
  | _, some reason => "malformed command: " ++ reason
  | failed cause, none => cause.message
  | _, none => ""

end CommandError

end RemoteDebug
