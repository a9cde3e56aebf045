import RemoteDebug.Channel.Reading
import RemoteDebug.Session.Target

/-!
# Dialogues

A session operation is a dialogue with what lies outside the session: the channel, and what is
known of the target, which it shares with the watcher. Each step of a dialogue is atomic; the
watcher may act between two steps and not within one. Sending lines and awaiting the reply is one
step, since a reader holds the channel until it has its reply.

A dialogue is a value. `Dialogue.run` carries it out on a `World` in which nobody else acts; other
interpretations let the watcher act in between, or use a real connection.
-/

namespace RemoteDebug

open RemoteDebug.Wire

/-- What happened that the user has to be told of. -/
inductive Event where
  /-- The target, which had been running, is stopped. -/
  | stopped
  /-- The watcher gave up. -/
  | watchFailed (cause : Error)
deriving DecidableEq, Repr

/-- What lies outside a session: the channel, what is known of the target, whether a watcher is
active, how many tokens have been taken, and what has happened so far, in order. -/
structure World (σ : Type) where
  channel : Channel σ
  target : TargetState := {}
  watching : Bool := false
  tokensTaken : Nat := 0
  events : List Event := []

namespace World

variable {σ : Type}

/-- Takes the next token. The count has no bound; that a machine's starts over behind `2 ^ 64`
tokens is left out. -/
def takeToken (world : World σ) : SyncToken × World σ :=
  (⟨world.tokensTaken + 1⟩, { world with tokensTaken := world.tokensTaken + 1 })

/-- Marks the target as stopped, and tells whether it was running before: of several observers of
the same stop only one is told so. -/
def markStopped (world : World σ) : Bool × World σ :=
  (!world.target.stopped, { world with target := { world.target with stopped := true } })

/-- Records an event. -/
def announce (world : World σ) (event : Event) : World σ :=
  { world with events := world.events ++ [event] }

/-- Registers a watcher, unless there is one or the target is stopped; tells whether it did. -/
def beginWatch (world : World σ) : Bool × World σ :=
  if world.watching || world.target.stopped then (false, world)
  else (true, { world with watching := true })

/-- Ends the watcher's registration if the target is stopped; tells whether it is. -/
def endWatchIfStopped (world : World σ) : Bool × World σ :=
  (world.target.stopped, { world with watching := world.watching && !world.target.stopped })

/-- Ends the watcher's registration. -/
def endWatch (world : World σ) : World σ :=
  { world with watching := false }

end World

/-- A dialogue that ends in a value: its first step and how it goes on from the outcome. -/
inductive Dialogue (α : Type) : Type where
  /-- Ends. -/
  | done (result : α)
  /-- Takes a token that nobody has taken. -/
  | takeToken (next : SyncToken → Dialogue α)
  /-- Sends lines. -/
  | send (lines : List String) (next : Except Error Unit → Dialogue α)
  /-- Sends lines and takes the lines before the awaited one. -/
  | converse (lines : List String) (awaited : Awaited) (limit : Duration)
      (next : Except Error (List String) → Dialogue α)
  /-- Reads what is known of the target. -/
  | readTarget (next : TargetState → Dialogue α)
  /-- Changes what is known of the target. -/
  | changeTarget (change : TargetState → TargetState) (next : Dialogue α)
  /-- Marks the target as stopped and is told whether it was running. -/
  | markStopped (next : Bool → Dialogue α)
  /-- Tells that the target stopped. -/
  | announceStop (next : Dialogue α)
  /-- Registers a watcher and is told whether there is a new one. -/
  | beginWatch (next : Bool → Dialogue α)

namespace Dialogue

variable {α β : Type}

/-- The dialogue that goes on from the end of another. -/
def andThen : Dialogue α → (α → Dialogue β) → Dialogue β
  | done result, f => f result
  | takeToken next, f => .takeToken fun token => (next token).andThen f
  | send lines next, f => .send lines fun outcome => (next outcome).andThen f
  | converse lines awaited limit next, f =>
    .converse lines awaited limit fun outcome => (next outcome).andThen f
  | readTarget next, f => .readTarget fun target => (next target).andThen f
  | changeTarget change next, f => .changeTarget change (next.andThen f)
  | markStopped next, f => .markStopped fun was => (next was).andThen f
  | announceStop next, f => .announceStop (next.andThen f)
  | beginWatch next, f => .beginWatch fun started => (next started).andThen f

instance : Monad Dialogue where
  pure := done
  bind := andThen

/-- Carries out a dialogue in a world in which nobody else acts. -/
def run {σ : Type} [Peer σ] : Dialogue α → World σ → α × World σ
  | done result, world => (result, world)
  | takeToken next, world =>
    let (token, world) := world.takeToken
    (next token).run world
  | send lines next, world =>
    let (outcome, channel) := world.channel.sendAll lines
    (next outcome).run { world with channel }
  | converse lines awaited limit next, world =>
    let (outcome, channel) := world.channel.converse lines awaited limit
    (next outcome).run { world with channel }
  | readTarget next, world => (next world.target).run world
  | changeTarget change next, world => next.run { world with target := change world.target }
  | markStopped next, world =>
    let (was, world) := world.markStopped
    (next was).run world
  | announceStop next, world => next.run (world.announce .stopped)
  | beginWatch next, world =>
    let (started, world) := world.beginWatch
    (next started).run world

/-- Carrying out a dialogue that goes on from another carries out the one and then the other. -/
theorem run_andThen {σ : Type} [Peer σ] (dialogue : Dialogue α) (f : α → Dialogue β)
    (world : World σ) :
    (dialogue.andThen f).run world = (f (dialogue.run world).1).run (dialogue.run world).2 := by
  induction dialogue generalizing world with
  | done => rfl
  | takeToken next ih => exact ih _ _
  | send lines next ih => exact ih _ _
  | converse lines awaited limit next ih => exact ih _ _
  | readTarget next ih => exact ih _ _
  | changeTarget change next ih => exact ih _
  | markStopped next ih => exact ih _ _
  | announceStop next ih => exact ih _
  | beginWatch next ih => exact ih _ _

/-- Ending with the result of a dialogue changes nothing. -/
theorem andThen_done (dialogue : Dialogue α) : dialogue.andThen done = dialogue := by
  induction dialogue with
  | done => rfl
  | takeToken next ih => exact congrArg takeToken (funext ih)
  | send lines next ih => exact congrArg (send lines) (funext ih)
  | converse lines awaited limit next ih =>
    exact congrArg (converse lines awaited limit) (funext ih)
  | readTarget next ih => exact congrArg readTarget (funext ih)
  | changeTarget change next ih => exact congrArg (changeTarget change) ih
  | markStopped next ih => exact congrArg markStopped (funext ih)
  | announceStop next ih => exact congrArg announceStop ih
  | beginWatch next ih => exact congrArg beginWatch (funext ih)

/-- Going on is associative. -/
theorem andThen_assoc {γ : Type} (dialogue : Dialogue α) (f : α → Dialogue β)
    (g : β → Dialogue γ) :
    (dialogue.andThen f).andThen g = dialogue.andThen fun result => (f result).andThen g := by
  induction dialogue with
  | done => rfl
  | takeToken next ih => exact congrArg takeToken (funext ih)
  | send lines next ih => exact congrArg (send lines) (funext ih)
  | converse lines awaited limit next ih =>
    exact congrArg (converse lines awaited limit) (funext ih)
  | readTarget next ih => exact congrArg readTarget (funext ih)
  | changeTarget change next ih => exact congrArg (changeTarget change) ih
  | markStopped next ih => exact congrArg markStopped (funext ih)
  | announceStop next ih => exact congrArg announceStop ih
  | beginWatch next ih => exact congrArg beginWatch (funext ih)

end Dialogue

end RemoteDebug
