import RemoteDebug.Command.Basic
import RemoteDebug.Console.Rendering

/-!
# Consoles

A console carries out what a user types and tells what it did. What it tells is data: texts to be
printed and configurations to be saved, in order. An action of the console reads and changes the
console, carries on a dialogue, and may fail; what it told before it failed stays told.
-/

namespace RemoteDebug

/-- What a console tells. -/
inductive Console.Output where
  /-- A text to be printed, with a line end behind it. -/
  | print (text : String)
  /-- A configuration to be saved. -/
  | save (config : Config)
deriving DecidableEq, Repr

/-- How a console ends. -/
inductive Console.Ending where
  /-- The user is done. -/
  | finished
  /-- The session cannot go on. -/
  | fatal (message : String)
deriving DecidableEq, Repr

namespace Console.Ending

/-- What the program tells on its way out, if something failed. -/
def failure? : Console.Ending → Option String
  | .finished => none
  | .fatal message => some ("Error: " ++ message)

/-- The exit code of the program. -/
def exitCode : Console.Ending → Nat
  | .finished => 0
  | .fatal _ => 1

/-- How the program ends if the target cannot be reached. -/
def unreachable (address : String) : Console.Ending :=
  .fatal ("connect to " ++ address)

end Console.Ending

/-- A console: the session, what has been told so far, and the end if it has come. -/
structure Console where
  session : Session := {}
  outputs : List Console.Output := []
  ending : Option Console.Ending := none

namespace Console

/-- What greets the user. -/
def welcome : String :=
  "\nrdbctl greets, type help for list of commands\n"

/-- The configuration of the session. -/
def config (console : Console) : Config :=
  { lines := console.session.settings.lines, followPc := console.session.settings.followPc }

/-- The console that has told one thing more. -/
def tell (console : Console) (output : Output) : Console :=
  { console with outputs := console.outputs ++ [output] }

/-- The console that has come to its end; it saves the configuration as the last thing. -/
def finish (console : Console) (ending : Ending) : Console :=
  { console.tell (.save console.config) with ending := some ending }

/-- An action of a console. -/
abbrev Action : Type → Type :=
  ExceptT CommandError (StateT Console Dialogue)

namespace Action

/-- The action that is an operation on the session. -/
def perform {α : Type} (operation : Operation α) : Action α :=
  ExceptT.mk do
    let console ← get
    let (result, session) ← liftM (operation.run.run console.session)
    set { console with session }
    return result.mapError .failed

/-- Prints a text. -/
def print (text : String) : Action Unit :=
  modify fun console => console.tell (.print text)

/-- Prints lines. -/
def printAll (lines : List String) : Action Unit :=
  lines.forM print

/-- Asks for the configuration to be saved. -/
def saveConfig : Action Unit :=
  modify fun console => console.tell (.save console.config)

/-- Whether the target is stopped. -/
def isStopped : Action Bool :=
  return (← perform Operation.target).stopped

/-- Prints the active views. -/
def printViews : Action Unit := do
  printAll ((sessionLines (← get).session).map Line.coloured)

end Action

end Console

end RemoteDebug
