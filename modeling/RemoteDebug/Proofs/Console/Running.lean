import RemoteDebug.Console.Handling
import RemoteDebug.Proofs.Session.Action

/-!
# Running an action of a console

`Console.Action.runIn` carries out an action of a console in a world in which nobody else acts. As
for the operations of a session there is one equation for sequencing and one for each primitive, so
that nothing above unfolds a monad.
-/

namespace RemoteDebug.Console.Action

open RemoteDebug.Wire

variable {α β σ : Type} [Peer σ]

/-- The outcome of an action of a console in a world in which nobody else acts. -/
def runIn (action : Action α) (console : Console) (world : World σ) :
    (Except CommandError α × Console) × World σ :=
  Dialogue.run (action.run.run console) world

theorem runIn_bind (action : Action α) (next : α → Action β) (console : Console)
    (world : World σ) :
    (action >>= next).runIn console world =
      match action.runIn console world with
      | ((.ok a, console'), world') => (next a).runIn console' world'
      | ((.error cause, console'), world') => ((.error cause, console'), world') := by
  show Dialogue.run (Dialogue.andThen (action.run.run console)
    fun outcome => (ExceptT.bindCont next outcome.1).run outcome.2) world = _
  rw [Dialogue.run_andThen]
  show Dialogue.run ((ExceptT.bindCont next (action.runIn console world).1.1).run
    (action.runIn console world).1.2) (action.runIn console world).2 = _
  rcases action.runIn console world with ⟨⟨_ | _, _⟩, _⟩ <;> rfl

/-- An operation on the session changes nothing else of the console. -/
theorem runIn_perform (operation : Operation α) (console : Console) (world : World σ) :
    (perform operation).runIn console world =
      (((operation.runIn console.session world).1.1.mapError .failed,
        { console with session := (operation.runIn console.session world).1.2 }),
        (operation.runIn console.session world).2) := by
  show Dialogue.run (Dialogue.andThen (Dialogue.andThen (operation.run.run console.session) _) _)
    world = _
  rw [Dialogue.run_andThen, Dialogue.run_andThen]
  rfl

theorem runIn_print (text : String) (console : Console) (world : World σ) :
    (print text).runIn console world = ((.ok (), console.tell (.print text)), world) := rfl

/-- Printing leaves the world alone. -/
theorem runIn_printAll (lines : List String) (console : Console) (world : World σ) :
    (printAll lines).runIn console world =
      ((.ok (), { console with outputs := console.outputs ++ lines.map Output.print }), world) := by
  unfold printAll
  induction lines generalizing console with
  | nil =>
    rw [List.map_nil, List.append_nil]
    rfl
  | cons line rest ih =>
    show (print line >>= fun _ => rest.forM print).runIn console world = _
    rw [runIn_bind, runIn_print]
    refine (ih _).trans ?_
    rw [tell, List.append_assoc]
    rfl

/-- A request whose reply is printed is an exchange. -/
theorem runIn_perform_ask (request : Request) (console : Console) (world : World σ) :
    ((perform (ask request) >>= printAll).runIn console world).2 =
      (world.exchange console.session.settings.replyLimit [request]).2 := by
  rw [runIn_bind, runIn_perform, runIn_ask]
  rcases world.exchange console.session.settings.replyLimit [request] with ⟨_ | reply, world'⟩
  · rfl
  · exact congrArg Prod.snd (runIn_printAll _ _ _)

end RemoteDebug.Console.Action
