import RemoteDebug.Session.Requests

/-!
# Running an operation

`Operation.runIn` carries out an operation in a world in which nobody else acts. What it does with
a composed operation is said here once, so that nothing above unfolds a monad: `runIn_bind` for
sequencing, one equation for each primitive, and `runIn_keepingPhase` for the guard that puts the
phase back.
-/

namespace RemoteDebug

open RemoteDebug.Wire

variable {α β σ : Type} [Peer σ]

namespace Operation

/-! ## Sequencing -/

@[simp] theorem runIn_pure (a : α) (session : Session) (world : World σ) :
    (pure a : Operation α).runIn session world = ((.ok a, session), world) := rfl

@[simp] theorem runIn_throw (cause : Error) (session : Session) (world : World σ) :
    (throw cause : Operation α).runIn session world = ((.error cause, session), world) := rfl

/-- An operation goes on from the session and the world in which another one succeeded, and ends
where another one failed. -/
theorem runIn_bind (operation : Operation α) (next : α → Operation β) (session : Session)
    (world : World σ) :
    (operation >>= next).runIn session world =
      match operation.runIn session world with
      | ((.ok a, session'), world') => (next a).runIn session' world'
      | ((.error cause, session'), world') => ((.error cause, session'), world') := by
  show Dialogue.run (Dialogue.andThen (operation.run.run session)
    fun outcome => (ExceptT.bindCont next outcome.1).run outcome.2) world = _
  rw [Dialogue.run_andThen]
  show Dialogue.run ((ExceptT.bindCont next (operation.runIn session world).1.1).run
    (operation.runIn session world).1.2) (operation.runIn session world).2 = _
  rcases operation.runIn session world with ⟨⟨_ | _, _⟩, _⟩ <;> rfl

/-! ## The session -/

@[simp] theorem runIn_get (session : Session) (world : World σ) :
    (get : Operation Session).runIn session world = ((.ok session, session), world) := rfl

@[simp] theorem runIn_modify (change : Session → Session) (session : Session) (world : World σ) :
    (modify change : Operation PUnit).runIn session world =
      ((.ok (), change session), world) := rfl

@[simp] theorem runIn_enter (phase : Phase) (session : Session) (world : World σ) :
    (enter phase).runIn session world = ((.ok (), { session with phase }), world) := rfl

@[simp] theorem runIn_liftExcept (outcome : Except Error α) (session : Session)
    (world : World σ) :
    (liftExcept outcome : Operation α).runIn session world = ((outcome, session), world) := by
  cases outcome <;> rfl

/-- A guarded operation does what it does, and a failure puts back the phase from before it. -/
theorem runIn_keepingPhase (operation : Operation α) (session : Session) (world : World σ) :
    operation.keepingPhase.runIn session world =
      match operation.runIn session world with
      | ((.ok a, session'), world') => ((.ok a, session'), world')
      | ((.error cause, session'), world') =>
        ((.error cause, { session' with phase := session.phase }), world') := by
  show Dialogue.run (Dialogue.andThen (operation.run.run session) _) world = _
  rw [Dialogue.run_andThen]
  show Dialogue.run _ (operation.runIn session world).2 = _
  unfold runIn
  rcases Dialogue.run (operation.run.run session) world with ⟨⟨_ | _, _⟩, _⟩ <;> rfl

/-! ## The world -/

/-- A dialogue leaves the session alone. -/
theorem runIn_perform (dialogue : Dialogue α) (session : Session) (world : World σ) :
    (perform dialogue).runIn session world =
      ((.ok (dialogue.run world).1, session), (dialogue.run world).2) := by
  show Dialogue.run (Dialogue.andThen (Dialogue.andThen dialogue _) _) world = _
  rw [Dialogue.run_andThen, Dialogue.run_andThen]
  rfl

/-- A dialogue that may fail leaves the session alone. -/
theorem runIn_attempt (dialogue : Dialogue (Except Error α)) (session : Session)
    (world : World σ) :
    (attempt dialogue).runIn session world =
      (((dialogue.run world).1, session), (dialogue.run world).2) := by
  show Dialogue.run (Dialogue.andThen dialogue _) world = _
  rw [Dialogue.run_andThen]
  rfl

@[simp] theorem runIn_target (session : Session) (world : World σ) :
    target.runIn session world = ((.ok world.target, session), world) := rfl

@[simp] theorem runIn_changeTarget (change : TargetState → TargetState) (session : Session)
    (world : World σ) :
    (changeTarget change).runIn session world =
      ((.ok (), session), { world with target := change world.target }) := rfl

@[simp] theorem runIn_post (request : Request) (session : Session) (world : World σ) :
    (post request).runIn session world =
      (((world.channel.sendAll [request.line]).1, session),
        { world with channel := (world.channel.sendAll [request.line]).2 }) := rfl

end Operation

end RemoteDebug
