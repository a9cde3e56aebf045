import RemoteDebug.Decode.View
import RemoteDebug.Session.Dialogue
import RemoteDebug.Wire.Request

/-!
# Sessions

A session is what one user sees of the target: the views that are active, the one that has the
focus, the windows asked for last, and what the views showed. What it shares with the watcher, the
position and whether the target is stopped, is not part of it.

A session operation reads and changes the session, carries on a dialogue, and may fail; what it did
to the session before it failed stays done.
-/

namespace RemoteDebug

open RemoteDebug.Decode RemoteDebug.Wire

/-- How a session is set up. -/
structure Settings where
  /-- The lines of a screen. -/
  lines : Nat := 12
  /-- Whether the position follows the program counter each time the target stops. -/
  followPc : Bool := true
  /-- How long a reply is waited for. -/
  replyLimit : Duration := .ofMilliseconds 5000
  /-- How long the watcher pauses between two polls. -/
  pollPause : Duration := .ofMilliseconds 200
deriving DecidableEq, Repr

/-- What a session is doing. -/
inductive Phase where
  | idle
  | awaitingStatus
  | awaitingReply
  | stopped
  | running
deriving DecidableEq, Repr

/-- What a view showed last: a content, or the error of its block. -/
abbrev Shown : Type :=
  Except DecodeError Content

/-- The state of a session. -/
structure Session where
  settings : Settings := {}
  phase : Phase := .idle
  views : PerView Bool := .ofList [.registers]
  focus : View := .registers
  windows : PerView (Option Window) := .const none
  shown : PerView (Option Shown) := .const none
  snapshot : Option Snapshot := none

namespace Session

/-! ## Queries -/

/-- What the session reports to be doing. A stop that the watcher saw counts at once, but not
within a request. -/
def phaseSeen (session : Session) (target : TargetState) : Phase :=
  match session.phase with
  | .idle | .running | .awaitingReply => if target.stopped then .stopped else session.phase
  | .awaitingStatus | .stopped => session.phase

/-- The window that the focused view asked for last. -/
def currentWindow (session : Session) : Option Window :=
  session.windows.get session.focus

end Session

/-- The first address of the position as it is shown in an address entry. -/
def TargetState.addressEntry (target : TargetState) : Option String :=
  target.first.map (Hex.upper 6)

/-! ## Operations -/

/-- An operation on a session. -/
abbrev Operation : Type → Type :=
  ExceptT Error (StateT Session Dialogue)

namespace Operation

/-- The operation that is a dialogue. -/
def perform {α : Type} (dialogue : Dialogue α) : Operation α :=
  liftM dialogue

/-- The operation that is a dialogue which may fail. -/
def attempt {α : Type} (dialogue : Dialogue (Except Error α)) : Operation α :=
  ExceptT.mk (liftM dialogue)

/-- What is known of the target. -/
def target : Operation TargetState :=
  perform (.readTarget .done)

/-- Changes what is known of the target. -/
def changeTarget (change : TargetState → TargetState) : Operation Unit :=
  perform (.changeTarget change (.done ()))

/-- Sends a request that has no reply. -/
def post (request : Request) : Operation Unit :=
  attempt (.send [request.line] .done)

/-- Enters a phase. -/
def enter (phase : Phase) : Operation Unit :=
  modify fun session => { session with phase }

/-- Carries out an operation; if it fails, goes back to the phase from before it. -/
def keepingPhase {α : Type} (operation : Operation α) : Operation α := do
  let before := (← get).phase
  tryCatch operation fun cause => do
    enter before
    throw cause

/-- The outcome of an operation on a session in a world in which nobody else acts. -/
def runIn {α σ : Type} [Peer σ] (operation : Operation α) (session : Session) (world : World σ) :
    (Except Error α × Session) × World σ :=
  Dialogue.run (operation.run.run session) world

end Operation

end RemoteDebug
