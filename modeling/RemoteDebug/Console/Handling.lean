import RemoteDebug.Command.Grammar
import RemoteDebug.Console.Basic
import RemoteDebug.Console.Help
import RemoteDebug.Console.Typing
import RemoteDebug.Session.Requests

/-!
# What a console does

A typed line is a command, a wish to leave, or nothing. An event of the target is told, and behind a
stop the views are shown again. A failure is told, too, and the console goes on unless it is fatal.
-/

namespace RemoteDebug.Console

open RemoteDebug.Console.Action

/-! ## Commands -/

/-- Refreshes the views and prints them. -/
def refreshViews (move : Move) : Action Unit := do
  perform (refresh none move)
  printViews

/-- Refreshes the views and prints them if the target is stopped. -/
def refreshIfStopped : Action Unit := do
  if ← isStopped then refreshViews .stay

/-- Executes one instruction and prints the views. -/
def stepAndShow (into : Bool) : Action Unit := do
  if ← isStopped then
    perform (step into)
    printViews
  else print Error.notStopped.message

/-- Lets a stopped target run, or asks a running one to stop. -/
def toggle : Action Unit := do
  let wasStopped ← isStopped
  perform pauseOrResume
  print (if wasStopped then "running" else "stopping...")

/-- Carries out a command. -/
def handle : Command → Action Unit
  | .focus view => do
    perform (setFocus view)
    refreshIfStopped
  | .views views => do
    perform (modify fun session => session.setActiveViews views)
    refreshIfStopped
  | .move move => refreshViews move
  | .goto address => do
    perform (RemoteDebug.goto address)
    printViews
  | .stepInto => stepAndShow true
  | .stepOver => stepAndShow false
  | .toggle => toggle
  | .pause => do if ← isStopped then print "already stopped" else toggle
  | .resume => do if ← isStopped then toggle else print "already running"
  | .refresh => refreshViews .stay
  | .lines count => do
    unless Config.allowsLines count do throw .linesOutOfRange
    perform (modify fun session => session.setLines count)
    saveConfig
    refreshIfStopped
  | .follow on => do
    perform (modify fun session => session.setFollowPc on)
    saveConfig
  | .load path address => do
    let shown := (← perform Operation.target).first
    let some address := address.or shown | throw .noLoadAddress
    printAll (← perform (loadMemory path address))
  | .save path address length => do
    printAll (← perform (saveMemory path address length))
  | .raw text => do printAll (← perform (askRaw text))
  | .help topic => print (help topic ++ "\n")

/-! ## Failures -/

/-- The console that has told a failure. -/
def report (console : Console) (text : String) : Console :=
  console.tell (.print (Style.error.paint text))

/-- What a console does with a failure. -/
def fail (console : Console) : CommandError → Console
  | .failed cause =>
    if cause.isFatal then
      let message := "fatal session error: " ++ cause.message
      ((console.report "shutdown").report message).finish (.fatal message)
    else console.report ("session error: " ++ cause.message)
  | malformed => console.report malformed.message

/-- Carries out an action, and tells its failure. -/
def carryOut (action : Action Unit) : StateT Console Dialogue Unit := do
  match ← action.run with
  | .ok () => return
  | .error cause => modify fun console => console.fail cause

/-! ## Lines and events -/

/-- What a typed line asks for: what it says, without the blanks around it. -/
def wishOf (line : String) : String :=
  Text.trimOf (Typing.entered line)

/-- Whether a user leaves with a typed line. -/
def isLeaving (line : String) : Bool :=
  wishOf line ∈ [Command.leaveShort, Command.leaveWord]

/-- What a console does with a typed line. -/
def type (line : String) : StateT Console Dialogue Unit := do
  let wish := wishOf line
  if isLeaving line then modify fun console => console.finish .finished
  else unless wish.isEmpty do
    carryOut do
      handle (← liftExcept (Command.parse wish))

/-- What a console does with an event. -/
def notice : Event → StateT Console Dialogue Unit
  | .stopped => carryOut do
    print "target stopped"
    refreshViews .stay
  | .watchFailed cause => modify fun console =>
    let message := "await stop: " ++ cause.message
    let told := console.report message
    if cause.isFatal then told.finish (.fatal message) else told

end RemoteDebug.Console
