import RemoteDebug.Session.Dialogue
import RemoteDebug.Wire.Block

/-!
# The watcher

While the target runs, nobody awaits anything, and a watcher looks for the stop marker. It goes
round a loop of atomic steps: it ends if somebody has seen the stop, else it drains the channel and,
if a stop marker stood outside every block of what it drained, marks the target as stopped and
tells so. A poll that fails ends it, too, and is told.
-/

namespace RemoteDebug

open RemoteDebug.Wire

/-- Where a watcher is in its loop. -/
inductive WatchStage where
  /-- About to see whether the target is stopped. -/
  | checking
  /-- About to drain the channel. -/
  | polling
  /-- About to mark the target as stopped. -/
  | marking
  /-- About to tell that the target stopped. -/
  | announcing
  /-- About to end because a poll failed. -/
  | ending (cause : Error)
  /-- About to tell that a poll failed. -/
  | reporting (cause : Error)
  /-- Ended. -/
  | ended
deriving DecidableEq, Repr

namespace WatchStage

variable {σ : Type}

/-- Whether a stop marker stands outside every block of some lines, on their own. -/
def showsStop (lines : List String) : Bool :=
  (Splitter.pushAll {} lines).1.stopObserved

/-- What follows from what a poll gave: to mark the target if it shows a stop, to go round again if
it does not, and to end if the poll failed. -/
def behindPoll : Except Error (List String) → WatchStage
  | .ok lines => if showsStop lines then marking else checking
  | .error cause => ending cause

/-- One atomic step of a watcher. -/
def step : WatchStage → World σ → WatchStage × World σ
  | checking, world =>
    let (stopped, world) := world.endWatchIfStopped
    (if stopped then ended else polling, world)
  | polling, world =>
    let (result, channel) := world.channel.drain
    (behindPoll result, { world with channel })
  | marking, world =>
    let (was, world) := world.markStopped
    (if was then announcing else checking, world)
  | announcing, world => (checking, world.announce .stopped)
  | ending cause, world => (reporting cause, world.endWatch)
  | reporting cause, world => (ended, world.announce (.watchFailed cause))
  | ended, world => (ended, world)

/-- The steps that follow from a poll: up to so many, and none once the loop is back at its start or
has ended. -/
def followUp : Nat → WatchStage → World σ → WatchStage × World σ
  | 0, stage, world => (stage, world)
  | _ + 1, checking, world => (checking, world)
  | _ + 1, ended, world => (ended, world)
  | count + 1, stage, world =>
    let (next, world) := stage.step world
    next.followUp count world

end WatchStage

namespace World

variable {σ : Type}

/-- The world behind one round of the watcher: a poll and what follows from it, and the check that
ends the watcher if it saw the stop. -/
def watchOnce (world : World σ) : World σ :=
  (WatchStage.followUp 3 .polling world).2.endWatchIfStopped.2

/-- Whether a watcher has a reason to go round again: it has not ended, and there is something to
read, be it the end of a closed channel. -/
def watchGoesOn (world : World σ) : Bool :=
  world.watching && (world.channel.closed || !world.channel.queue.isEmpty)

/-- The world behind so many rounds of the watcher at most, and none without a reason. -/
def watchUpTo (world : World σ) : Nat → World σ
  | 0 => world
  | rounds + 1 =>
    let next := world.watchOnce
    if next.watchGoesOn then next.watchUpTo rounds else next

/-- The world behind an active watcher that goes round until it ends or nothing is left to read.
Each round takes an item if there is one, and a round at the end of a closed channel ends it. -/
def watch (world : World σ) : World σ :=
  if world.watching then world.watchUpTo (world.channel.queue.length + 1) else world

end World

end RemoteDebug
