import RemoteDebug.Proofs.Interleaving.Dialogues

/-!
# The course of an action

Every action, written out step by step: `Action.course` is all that a session can do, and in which
order. `dialogue_operation` says that the operation of an action is its course, so what is said
about courses is said about the operations themselves.
-/

namespace RemoteDebug

open RemoteDebug.Wire Operation Dialogue

namespace Action

/-- The end of an action that succeeded without a reply to give. -/
def finished (session : Session) : Dialogue (Except Error (List String) × Session) :=
  .done (.ok [], session)

/-- The end of an action that failed. -/
def failed (session : Session) (cause : Error) : Dialogue (Except Error (List String) × Session) :=
  .done (.error cause, session)

/-- The end of an action that is a refresh. -/
def refreshed :
    Except Error Unit × Session → Dialogue (Except Error (List String) × Session)
  | (.ok _, session) => finished session
  | (.error cause, session) => failed session cause

/-- The course of an action that asks for one reply and gives its lines. -/
def courseOfAsking (session : Session) (request : Request) :
    Dialogue (Except Error (List String) × Session) :=
  exchanging session.settings.replyLimit [request] fun reply => .done (reply, session)

/-- The course of an action that lets a stopped target run, or asks a running one to stop. -/
def courseOfPauseOrResume (session : Session) : Dialogue (Except Error (List String) × Session) :=
  .readTarget fun target =>
    if target.stopped then
      .send [Request.resume.line] fun sent =>
        match sent with
        | .error cause => failed session cause
        | .ok _ =>
          .changeTarget (fun target => { target with stopped := false }) <|
          .changeTarget (fun target => target.clear session.settings.followPc) <|
          .beginWatch fun _ => finished { session with windows := .const none, phase := .running }
    else
      .send [Request.pause.line] fun sent =>
        match sent with
        | .error cause => failed session cause
        | .ok _ => .beginWatch fun _ => finished { session with phase := .awaitingReply }

/-- The course of a step. -/
def courseOfStep (session : Session) (into : Bool) :
    Dialogue (Except Error (List String) × Session) :=
  .readTarget fun target =>
    if target.stopped then
      .converse [(stepRequest into).line] .stop session.settings.replyLimit fun noise =>
        match noise with
        | .error cause => failed session cause
        | .ok _ =>
          .changeTarget (fun target => target.clear session.settings.followPc) <|
          refreshing { session with windows := .const none, phase := .stopped } none .stay
            fun outcome =>
              match outcome with
              | (.ok _, after) => finished after
              | (.error cause, after) => failed { after with phase := session.phase } cause
    else finished session

/-- The course of a change of focus. -/
def courseOfFocus (session : Session) (view : View) :
    Dialogue (Except Error (List String) × Session) :=
  if session.focus = view then finished { session with views := session.views.set view true }
  else
    .changeTarget TargetState.forgetContinuation <|
      finished { session with focus := view, views := session.views.set view true }

/-- The course of an action: its dialogue, step by step. -/
def course (session : Session) : Action → Dialogue (Except Error (List String) × Session)
  | .refresh move => refreshing session none move refreshed
  | .goto address =>
    if maxAddress < address then failed session (.addressOutOfRange address)
    else refreshing session (some address) .stay refreshed
  | .pauseOrResume => courseOfPauseOrResume session
  | .step into => courseOfStep session into
  | .askRaw text => courseOfAsking session (.raw text)
  | .loadMemory path address => courseOfAsking session (.load path address)
  | .saveMemory path address length => courseOfAsking session (.save path address length)
  | .setFocus view => courseOfFocus session view
  | .setActiveViews views => finished (session.setActiveViews views)
  | .setLines lines => finished (session.setLines lines)
  | .setFollowPc followPc => finished (session.setFollowPc followPc)

/-! ## Operations are courses -/

/-- An action whose result is thrown away ends as a refresh does. -/
theorem dialogue_discard_refreshed (operation : Operation Unit) (session : Session) :
    (do let _ ← operation; return ([] : List String) : Operation _).dialogue session =
      (operation.dialogue session).andThen refreshed := by
  rw [dialogue_bind]
  congr 1
  funext outcome
  rcases outcome with ⟨_ | _, _⟩ <;> rfl

theorem dialogue_clearPosition (session : Session) :
    clearPosition.dialogue session =
      .changeTarget (fun target => target.clear session.settings.followPc)
        (.done (.ok (), { session with windows := .const none })) := by
  unfold clearPosition
  simp [dialogue_bind, andThen, goingOn]

theorem dialogue_askLines (request : Request) (session : Session) :
    (ask request).dialogue session = courseOfAsking session request := by
  rw [dialogue_ask]
  unfold courseOfAsking
  congr 1
  funext reply
  rcases reply with _ | lines <;> rfl

theorem dialogue_pauseOrResume (session : Session) :
    pauseOrResume.operation.dialogue session = courseOfPauseOrResume session := by
  show (do let _ ← RemoteDebug.pauseOrResume; return ([] : List String) : Operation _).dialogue
    session = _
  rw [dialogue_discard_refreshed]
  unfold RemoteDebug.pauseOrResume courseOfPauseOrResume
  simp only [dialogue_bind, dialogue_target, andThen, goingOn]
  congr 1
  funext target
  cases target.stopped with
  | true =>
    simp only [if_true, dialogue_bind, dialogue_post, andThen]
    congr 1
    funext sent
    rcases sent with _ | _
    · rfl
    · simp only [goingOn, dialogue_bind, dialogue_clearPosition, dialogue_changeTarget,
        dialogue_enter, dialogue_perform, dialogue_pure, andThen]
      rfl
  | false =>
    simp only [if_false, dialogue_bind, dialogue_post, andThen, Bool.false_eq_true]
    congr 1
    funext sent
    rcases sent with _ | _ <;> rfl

theorem dialogue_step (into : Bool) (session : Session) :
    (step into).operation.dialogue session = courseOfStep session into := by
  show (do let _ ← RemoteDebug.step into; return ([] : List String) : Operation _).dialogue
    session = _
  rw [dialogue_discard_refreshed]
  unfold RemoteDebug.step courseOfStep
  simp only [dialogue_bind, dialogue_target, andThen, goingOn]
  congr 1
  funext target
  cases target.stopped with
  | false => rfl
  | true =>
    simp only [if_true, dialogue_keepingPhase]
    unfold stepOnce stepRequest
    simp only [dialogue_bind, dialogue_enter, dialogue_get, dialogue_attempt, andThen, goingOn]
    congr 1
    funext noise
    rcases noise with _ | _
    · rfl
    · simp only [goingOn, dialogue_bind, dialogue_clearPosition, dialogue_enter, dialogue_refresh,
        refreshing_andThen, andThen]
      congr 2
      funext outcome
      rcases outcome with ⟨_ | _, _⟩ <;> rfl

theorem dialogue_setFocus (view : View) (session : Session) :
    (setFocus view).operation.dialogue session = courseOfFocus session view := by
  show (do let _ ← RemoteDebug.setFocus view; return ([] : List String) : Operation _).dialogue
    session = _
  rw [dialogue_discard_refreshed]
  unfold RemoteDebug.setFocus courseOfFocus
  by_cases h : session.focus = view <;>
    simp [dialogue_bind, andThen, goingOn, refreshed, finished, h]

theorem dialogue_operation (action : Action) (session : Session) :
    action.operation.dialogue session = action.course session := by
  cases action with
  | refresh move =>
    show (do let _ ← RemoteDebug.refresh none move; return ([] : List String) :
      Operation _).dialogue session = _
    rw [dialogue_discard_refreshed, dialogue_refresh, refreshing_andThen]
    rfl
  | goto address =>
    show (do let _ ← RemoteDebug.goto address; return ([] : List String) :
      Operation _).dialogue session = _
    rw [dialogue_discard_refreshed]
    unfold RemoteDebug.goto course
    by_cases h : maxAddress < address
    · simp only [h, if_true]
      rfl
    · simp only [h, if_false]
      show ((RemoteDebug.refresh (some address) .stay).dialogue session).andThen _ = _
      rw [dialogue_refresh, refreshing_andThen]
      rfl
  | pauseOrResume => exact dialogue_pauseOrResume session
  | step into => exact dialogue_step into session
  | askRaw text => exact dialogue_askLines _ session
  | loadMemory path address => exact dialogue_askLines _ session
  | saveMemory path address length => exact dialogue_askLines _ session
  | setFocus view => exact dialogue_setFocus view session
  | setActiveViews views => rfl
  | setLines lines => rfl
  | setFollowPc followPc => rfl

end Action

end RemoteDebug
