import RemoteDebug.Session.Refresh

/-!
# What a user asks of a session

The operations that a user interface calls. Stopping a running target is not waited for: a watcher
is registered, and the stop is told as an event when it comes. Stepping and refreshing need a
stopped target. Requests that pass text on and give the reply back work at any time.
-/

namespace RemoteDebug

open RemoteDebug.Wire

namespace Session

/-! ## Settings -/

/-- The session with another number of lines, at least one. -/
def setLines (session : Session) (lines : Nat) : Session :=
  { session with settings := { session.settings with lines := max lines 1 } }

/-- The session that follows the program counter or does not. -/
def setFollowPc (session : Session) (followPc : Bool) : Session :=
  { session with settings := { session.settings with followPc } }

/-- The session with other active views, of which the focused one is always one. -/
def setActiveViews (session : Session) (views : List View) : Session :=
  { session with views := .ofList (session.focus :: views) }

end Session

/-- Gives the focus to a view, which becomes active. The addresses that continue the screen of the
view that had it are forgotten. -/
def setFocus (view : View) : Operation Unit := do
  if (← get).focus ≠ view then
    Operation.changeTarget TargetState.forgetContinuation
    modify fun session => { session with focus := view }
  modify fun session => { session with views := session.views.set view true }

/-! ## Running and stopping -/

/-- Forgets the position as far as it is to be forgotten, and the windows. -/
def clearPosition : Operation Unit := do
  let followPc := (← get).settings.followPc
  Operation.changeTarget fun target => target.clear followPc
  modify fun session => { session with windows := .const none }

/-- Lets a stopped target run, or asks a running one to stop, and registers a watcher. -/
def pauseOrResume : Operation Unit := do
  if (← Operation.target).stopped then
    Operation.post .resume
    Operation.changeTarget fun target => { target with stopped := false }
    clearPosition
    Operation.enter .running
  else
    Operation.post .pause
    Operation.enter .awaitingReply
  let _ ← Operation.perform (.beginWatch .done)

/-- Executes one instruction, waits for the stop and refreshes. -/
def stepOnce (request : Request) : Operation Unit := do
  Operation.enter .awaitingReply
  let limit := (← get).settings.replyLimit
  let _ ← Operation.attempt (.converse [request.line] .stop limit .done)
  clearPosition
  Operation.enter .stopped
  refresh none .stay

/-- Executes one instruction of a stopped target, into a called subroutine or over it; does nothing
if the target is running. -/
def step (into : Bool) : Operation Unit := do
  if (← Operation.target).stopped then
    Operation.keepingPhase (stepOnce (if into then .stepInto else .stepOver))

/-- Refreshes the active views from an address of the address space. -/
def goto (address : Nat) : Operation Unit := do
  if maxAddress < address then throw (.addressOutOfRange address)
  refresh (some address) .stay

/-! ## Requests that give the reply back -/

/-- Sends a request and gives the lines of its reply. -/
def ask (request : Request) : Operation (List String) :=
  return (← exchange [request]).lines

/-- Sends a text as it is. -/
def askRaw (text : String) : Operation (List String) :=
  ask (.raw text)

/-- Loads a file into memory. -/
def loadMemory (path : String) (address : Nat) : Operation (List String) :=
  ask (.load path address)

/-- Saves memory into a file. -/
def saveMemory (path : String) (address length : Nat) : Operation (List String) :=
  ask (.save path address length)

end RemoteDebug
