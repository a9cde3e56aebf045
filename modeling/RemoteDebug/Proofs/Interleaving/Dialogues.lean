import RemoteDebug.Proofs.Session.Action

/-!
# Operations as dialogues

`Operation.runIn` says what an operation comes to while nobody else acts. Where others act in
between, the steps themselves matter, so here operations are written out as the dialogues that they
are. `dialogue_bind` sequences them. An exchange and a refresh have a form that takes what comes
next as an argument, `Dialogue.exchanging` and `Dialogue.refreshing`; what a refresh puts in place
at its end is a `Finding`.
-/

namespace RemoteDebug

open RemoteDebug.Wire

variable {α β : Type}

/-! ## Sequencing -/

namespace Operation

/-- The dialogue that an operation on a session is. -/
def dialogue (operation : Operation α) (session : Session) : Dialogue (Except Error α × Session) :=
  operation.run.run session

/-- How an operation goes on from the end of another one. -/
def goingOn (next : α → Operation β) :
    Except Error α × Session → Dialogue (Except Error β × Session)
  | (.ok a, session) => (next a).dialogue session
  | (.error cause, session) => .done (.error cause, session)

/-- How a guarded operation goes on from its end. -/
def puttingBack (phase : Phase) : Except Error α × Session → Dialogue (Except Error α × Session)
  | (.ok a, session) => .done (.ok a, session)
  | (.error cause, session) => .done (.error cause, { session with phase })

theorem dialogue_bind (operation : Operation α) (next : α → Operation β) (session : Session) :
    (operation >>= next).dialogue session =
      (operation.dialogue session).andThen (goingOn next) := by
  show Dialogue.andThen (operation.run.run session)
    (fun outcome => (ExceptT.bindCont next outcome.1).run outcome.2) = _
  unfold dialogue
  congr 1
  funext outcome
  rcases outcome with ⟨_ | _, _⟩ <;> rfl

theorem dialogue_keepingPhase (operation : Operation α) (session : Session) :
    operation.keepingPhase.dialogue session =
      (operation.dialogue session).andThen (puttingBack session.phase) := by
  show Dialogue.andThen (operation.run.run session) _ = _
  unfold dialogue
  congr 1
  funext outcome
  rcases outcome with ⟨_ | _, _⟩ <;> rfl

section

variable (session : Session)

@[simp] theorem dialogue_pure (a : α) :
    (pure a : Operation α).dialogue session = .done (.ok a, session) := rfl

@[simp] theorem dialogue_get :
    (get : Operation Session).dialogue session = .done (.ok session, session) := rfl

@[simp] theorem dialogue_modify (change : Session → Session) :
    (modify change : Operation PUnit).dialogue session = .done (.ok (), change session) := rfl

@[simp] theorem dialogue_enter (phase : Phase) :
    (enter phase).dialogue session = .done (.ok (), { session with phase }) := rfl

@[simp] theorem dialogue_liftExcept (outcome : Except Error α) :
    (liftExcept outcome : Operation α).dialogue session = .done (outcome, session) := by
  cases outcome <;> rfl

theorem dialogue_perform (dialogue : Dialogue α) :
    (perform dialogue).dialogue session = dialogue.andThen fun a => .done (.ok a, session) := by
  show Dialogue.andThen (Dialogue.andThen dialogue _) _ = _
  rw [Dialogue.andThen_assoc]
  rfl

theorem dialogue_attempt (dialogue : Dialogue (Except Error α)) :
    (attempt dialogue).dialogue session =
      dialogue.andThen fun outcome => .done (outcome, session) := rfl

@[simp] theorem dialogue_target :
    target.dialogue session = .readTarget fun target => .done (.ok target, session) := rfl

@[simp] theorem dialogue_changeTarget (change : TargetState → TargetState) :
    (changeTarget change).dialogue session = .changeTarget change (.done (.ok (), session)) := rfl

@[simp] theorem dialogue_post (request : Request) :
    (post request).dialogue session =
      .send [request.line] fun outcome => .done (outcome, session) := rfl

end

end Operation

open Operation

/-! ## Exchanges -/

namespace Dialogue

/-- Marks the target as stopped if a stop was seen, tells it if the target was running, and goes
on. -/
def noticing (seen : Bool) (next : Dialogue α) : Dialogue α :=
  if seen then .markStopped fun running => if running then .announceStop next else next else next

/-- An exchange, and how it goes on from the lines of its reply. -/
def exchanging (limit : Duration) (requests : List Request)
    (next : Except Error (List String) → Dialogue α) : Dialogue α :=
  .takeToken fun token =>
    .converse ((requests ++ [Request.sync token]).map Request.line) (.echo token) limit fun reply =>
      match reply with
      | .error cause => next (.error cause)
      | .ok lines => noticing (splitReply lines).stopObserved (next (.ok lines))

theorem noticing_andThen (seen : Bool) (next : Dialogue α) (f : α → Dialogue β) :
    (noticing seen next).andThen f = noticing seen (next.andThen f) := by
  unfold noticing
  cases seen with
  | false => rfl
  | true =>
    simp only [if_true, andThen]
    congr 1
    funext running
    cases running <;> rfl

theorem exchanging_andThen (limit : Duration) (requests : List Request)
    (next : Except Error (List String) → Dialogue α) (f : α → Dialogue β) :
    (exchanging limit requests next).andThen f =
      exchanging limit requests fun reply => (next reply).andThen f := by
  unfold exchanging
  simp only [andThen]
  congr 1
  funext token
  congr 1
  funext reply
  rcases reply with _ | lines
  · rfl
  · exact noticing_andThen _ _ _

end Dialogue

open Dialogue

theorem dialogue_observeStop (reply : Reply) (session : Session) :
    (observeStop reply).dialogue session =
      noticing reply.stopObserved (.done (.ok (), session)) := by
  unfold observeStop noticing
  cases reply.stopObserved with
  | false => rfl
  | true =>
    simp only [if_true, dialogue_bind, dialogue_perform, andThen]
    congr 1
    funext running
    cases running <;> rfl

theorem dialogue_exchange (requests : List Request) (session : Session) :
    (exchange requests).dialogue session =
      exchanging session.settings.replyLimit requests fun reply =>
        .done (reply.map splitReply, session) := by
  unfold exchange exchanging
  simp only [dialogue_bind, dialogue_perform, dialogue_attempt, dialogue_get, andThen, goingOn]
  congr 1
  funext token
  congr 1
  funext reply
  rcases reply with _ | lines
  · rfl
  · simp only [andThen, goingOn, dialogue_observeStop, noticing_andThen]
    rfl

theorem dialogue_ask (request : Request) (session : Session) :
    (ask request).dialogue session =
      exchanging session.settings.replyLimit [request] fun reply =>
        .done (reply.map fun lines => (splitReply lines).lines, session) := by
  unfold ask
  simp only [dialogue_bind, dialogue_exchange, exchanging_andThen, andThen]
  congr 1
  funext reply
  rcases reply with _ | lines <;> rfl

/-! ## Refreshes -/

/-- Where a refresh is going to look, and the windows that it is going to ask for, once it has the
status reply. -/
def Session.plan (session : Session) (target : TargetState) (status : List String)
    (address : Option Nat) (move : Move) : Except Error (Cursor × PerView (Option Window)) :=
  (anchor target ((splitReply status).block? .status) address).bind fun cursor =>
    (session.plannedWindows cursor move).map fun windows => (cursor, windows)

/-- What a refresh found: where it looked, the windows that it asked for, and what the views
showed. -/
structure Finding where
  cursor : Cursor
  windows : PerView (Option Window)
  shown : PerView (Option Shown)

/-- What a refresh found that had a plan and then took the reply of the views. -/
def Session.findingIn (session : Session) (plan : Cursor × PerView (Option Window))
    (views : List String) : Finding where
  cursor := plan.1
  windows := plan.2
  shown := session.shownIn (splitReply views).blocks

/-- The position that a session takes from what a refresh found. -/
def Finding.position (finding : Finding) (session : Session) : Cursor :=
  session.positionAfter finding.cursor finding.windows finding.shown

/-- The session behind a refresh. -/
def Session.withFinding (session : Session) (finding : Finding) : Session :=
  { session.withShown finding.windows finding.shown with phase := .stopped }

namespace Dialogue

/-- A refresh, and how it goes on from its result. -/
def refreshing (session : Session) (address : Option Nat) (move : Move)
    (next : Except Error Unit × Session → Dialogue α) : Dialogue α :=
  .readTarget fun target =>
    if target.stopped then
      .readTarget fun target =>
        exchanging session.settings.replyLimit [.status] fun reply =>
          match reply with
          | .error cause => next (.error cause, session)
          | .ok status =>
            match session.plan target status address move with
            | .error cause => next (.error cause, session)
            | .ok plan =>
              exchanging session.settings.replyLimit (session.viewRequests plan.2) fun reply =>
                match reply with
                | .error cause => next (.error cause, session)
                | .ok views =>
                  let finding := session.findingIn plan views
                  .changeTarget (fun target => target.moveTo (finding.position session))
                    (next (.ok (), session.withFinding finding))
    else next (.error .notStopped, session)

theorem refreshing_andThen (session : Session) (address : Option Nat) (move : Move)
    (next : Except Error Unit × Session → Dialogue α) (f : α → Dialogue β) :
    (refreshing session address move next).andThen f =
      refreshing session address move fun outcome => (next outcome).andThen f := by
  unfold refreshing
  simp only [andThen]
  congr 1
  funext target
  split
  · simp only [andThen, exchanging_andThen]
    congr 1
    funext target
    congr 1
    funext reply
    rcases reply with _ | status
    · rfl
    · dsimp only
      split
      · rfl
      · rw [exchanging_andThen]
        congr 1
        funext reply
        rcases reply with _ | views <;> rfl
  · rfl

end Dialogue

/-- A refresh cycle, which leaves the phase where it fails. -/
theorem dialogue_refreshCycle (address : Option Nat) (move : Move) (session : Session) :
    (refreshCycle address move).dialogue session =
      .readTarget fun target =>
        exchanging session.settings.replyLimit [.status] fun reply =>
          match reply with
          | .error cause => .done (.error cause, { session with phase := .awaitingStatus })
          | .ok status =>
            match session.plan target status address move with
            | .error cause => .done (.error cause, { session with phase := .awaitingStatus })
            | .ok plan =>
              exchanging session.settings.replyLimit (session.viewRequests plan.2) fun reply =>
                match reply with
                | .error cause => .done (.error cause, { session with phase := .awaitingReply })
                | .ok views =>
                  let finding := session.findingIn plan views
                  .changeTarget (fun target => target.moveTo (finding.position session))
                    (.done (.ok (), { session with phase := .awaitingReply }.withShown
                      finding.windows finding.shown)) := by
  unfold refreshCycle
  simp only [dialogue_bind, dialogue_target, andThen, goingOn, dialogue_enter, dialogue_exchange,
    exchanging_andThen]
  congr 1
  funext target
  congr 1
  funext reply
  rcases reply with _ | status
  · rfl
  simp only [Except.map, goingOn, dialogue_bind, dialogue_liftExcept, andThen, Session.plan]
  rcases anchor target ((splitReply status).block? .status) address with _ | cursor
  · rfl
  simp only [goingOn, dialogue_bind, dialogue_get, andThen, dialogue_liftExcept, Except.bind]
  -- neither the windows nor the requests depend on the phase, which the cycle has changed by now
  have hwindows : Session.plannedWindows { session with phase := .awaitingStatus } cursor move =
      session.plannedWindows cursor move := rfl
  rw [hwindows]
  rcases session.plannedWindows cursor move with _ | windows
  · rfl
  simp only [goingOn, dialogue_bind, dialogue_get, andThen, dialogue_enter, dialogue_exchange,
    exchanging_andThen]
  show exchanging session.settings.replyLimit (session.viewRequests windows) _ =
    exchanging session.settings.replyLimit (session.viewRequests windows) _
  congr 1
  funext reply
  rcases reply with _ | views <;> rfl

theorem dialogue_refresh (address : Option Nat) (move : Move) (session : Session) :
    (refresh address move).dialogue session = refreshing session address move .done := by
  unfold refresh refreshing
  simp only [dialogue_bind, dialogue_target, andThen, goingOn]
  congr 1
  funext target
  cases target.stopped with
  | false => rfl
  | true =>
    simp only [if_true]
    show ((refreshCycle address move).keepingPhase.dialogue session).andThen _ = _
    rw [dialogue_keepingPhase, dialogue_refreshCycle]
    simp only [andThen, exchanging_andThen]
    congr 1
    funext target
    congr 1
    funext reply
    rcases reply with _ | status
    · rfl
    -- the phase in which the cycle failed is put back, the phase in which it succeeded is replaced
    dsimp only
    rcases session.plan target status address move with _ | plan
    · rfl
    simp only [exchanging_andThen]
    congr 1
    funext reply
    rcases reply with _ | views <;> rfl

end RemoteDebug
