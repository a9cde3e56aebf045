import RemoteDebug.Console.Handling
import RemoteDebug.Session.Watcher

/-!
# Runs of a console

A run joins a console with the world outside it. Each input is carried out, and then the events that
have come up are noticed in their order. Once the console has ended, nothing happens any more.
-/

namespace RemoteDebug.Console

/-- A console and the world outside it. -/
structure Run (σ : Type) where
  console : Console
  world : World σ

namespace Run

variable {σ : Type} [Peer σ]

/-- The run behind something that its console does; nothing if the console has ended. -/
def act (run : Run σ) (action : StateT Console Dialogue Unit) : Run σ :=
  if run.console.ending.isSome then run
  else
    let (((), console), world) := (action.run run.console).run run.world
    { console, world }

/-- The run behind the events that have come up, and behind the end of a watcher that is not needed
any more. -/
def settle (run : Run σ) : Run σ :=
  let calm := { run with world := { run.world with events := [] } }
  let noticed := run.world.events.foldl (fun run event => run.act (notice event)) calm
  { noticed with world := noticed.world.endWatchIfStopped.2 }

/-- The run behind a typed line. -/
def type (run : Run σ) (line : String) : Run σ :=
  (run.act (Console.type line)).settle

/-- The run behind an active watcher that goes round until it ends or nothing is left to read. -/
def watch (run : Run σ) : Run σ :=
  ({ run with world := run.world.watch } : Run σ).settle

/-- The run behind the end of the input. -/
def finish (run : Run σ) : Run σ :=
  run.act (modify fun console => console.finish .finished)

/-- The texts printed, in order. -/
def printed (run : Run σ) : List String :=
  run.console.outputs.filterMap fun
    | .print text => some text
    | .save _ => none

/-- The configuration saved last. -/
def saved? (run : Run σ) : Option Config :=
  (run.console.outputs.filterMap fun
    | .save config => some config
    | .print _ => none).getLast?

end Run

end RemoteDebug.Console
