import RemoteDebug.Proofs.Session.Exchange

/-!
# Actions

Everything that a user can do to a session is an action, so that a statement about every session
operation is a statement about every action. Each operation that uses the channel has its equation
here: what it comes to in a world in which nobody else acts, exit by exit.
-/

namespace RemoteDebug

open RemoteDebug.Wire Operation

/-- Something that a user does to a session. -/
inductive Action where
  | refresh (move : Move)
  | goto (address : Nat)
  | pauseOrResume
  | step (into : Bool)
  | askRaw (text : String)
  | loadMemory (path : String) (address : Nat)
  | saveMemory (path : String) (address length : Nat)
  | setFocus (view : View)
  | setActiveViews (views : List View)
  | setLines (lines : Nat)
  | setFollowPc (followPc : Bool)
deriving DecidableEq, Repr

/-- The operation that an action is; it gives the lines of the reply, of which most actions give
none. -/
def Action.operation : Action → Operation (List String)
  | refresh move => do RemoteDebug.refresh none move; return []
  | goto address => do RemoteDebug.goto address; return []
  | pauseOrResume => do RemoteDebug.pauseOrResume; return []
  | step into => do RemoteDebug.step into; return []
  | askRaw text => RemoteDebug.askRaw text
  | loadMemory path address => RemoteDebug.loadMemory path address
  | saveMemory path address length => RemoteDebug.saveMemory path address length
  | setFocus view => do RemoteDebug.setFocus view; return []
  | setActiveViews views => do modify (·.setActiveViews views); return []
  | setLines lines => do modify (·.setLines lines); return []
  | setFollowPc followPc => do modify (·.setFollowPc followPc); return []

variable {σ : Type} [Peer σ]

/-- What an operation leaves of a session and of what is known of the target, with the result of the
operation. -/
def outcome {α : Type} (operation : Operation α) (session : Session) (world : World σ) :
    (Except Error α × Session) × TargetState :=
  let final := operation.runIn session world
  (final.1, final.2.target)

/-! ## Refreshing -/

/-- A refresh of a stopped target is a cycle with a phase around it; a running target is left
alone. -/
theorem runIn_refresh (address : Option Nat) (move : Move) (session : Session) (world : World σ) :
    (refresh address move).runIn session world =
      if world.target.stopped then
        match (refreshCycle address move).runIn session world with
        | ((.ok _, session'), world') => ((.ok (), { session' with phase := .stopped }), world')
        | ((.error cause, session'), world') =>
          ((.error cause, { session' with phase := session.phase }), world')
      else ((.error .notStopped, session), world) := by
  unfold refresh
  cases h : world.target.stopped with
  | true =>
    simp only [runIn_bind, runIn_target, h, if_true, runIn_keepingPhase, runIn_enter]
    rcases (refreshCycle address move).runIn session world with ⟨⟨_ | _, _⟩, _⟩ <;> rfl
  | false =>
    simp [runIn_bind, h]

theorem runIn_goto (address : Nat) (session : Session) (world : World σ) :
    (goto address).runIn session world =
      if maxAddress < address then ((.error (.addressOutOfRange address), session), world)
      else (refresh (some address) .stay).runIn session world := by
  unfold goto
  by_cases h : maxAddress < address <;> simp [runIn_bind, h]

/-! ## Running and stopping -/

/-- The session and the world from which a target runs on, or goes on to be stepped. -/
theorem runIn_clearPosition (session : Session) (world : World σ) :
    clearPosition.runIn session world =
      ((.ok (), { session with windows := .const none }),
        { world with target := world.target.clear session.settings.followPc }) := by
  unfold clearPosition
  simp [runIn_bind]

/-- Letting a target run, or stopping it, is done once the request has been sent. -/
theorem runIn_pauseOrResume (session : Session) (world : World σ) :
    pauseOrResume.runIn session world =
      match world.channel.sendAll [(if world.target.stopped then Request.resume else .pause).line]
      with
      | (.error cause, channel) => ((.error cause, session), { world with channel })
      | (.ok (), channel) =>
        if world.target.stopped then
          ((.ok (), { session with windows := .const none, phase := .running }),
            World.beginWatch { world with
              channel
              target := { world.target with stopped := false }.clear session.settings.followPc }
              |>.2)
        else
          ((.ok (), { session with phase := .awaitingReply }),
            (World.beginWatch { world with channel }).2) := by
  unfold pauseOrResume
  cases h : world.target.stopped with
  | true =>
    rcases hsend : world.channel.sendAll [Request.resume.line] with ⟨_ | _, channel⟩ <;>
      simp [runIn_bind, runIn_perform, runIn_clearPosition, Dialogue.run, h, hsend]
  | false =>
    rcases hsend : world.channel.sendAll [Request.pause.line] with ⟨_ | _, channel⟩ <;>
      simp [runIn_bind, runIn_perform, Dialogue.run, h, hsend]

/-- The request that a step sends. -/
def stepRequest (into : Bool) : Request :=
  if into then .stepInto else .stepOver

/-- A step awaits the stop, forgets the position and refreshes; a running target is left alone. -/
theorem runIn_step (into : Bool) (session : Session) (world : World σ) :
    (step into).runIn session world =
      if world.target.stopped then
        match
          world.channel.converse [(stepRequest into).line] .stop session.settings.replyLimit
        with
        | (.error cause, channel) => ((.error cause, session), { world with channel })
        | (.ok _, channel) =>
          match (refresh none .stay).runIn
            { session with windows := .const none, phase := .stopped }
            { world with channel, target := world.target.clear session.settings.followPc }
          with
          | ((.ok _, session'), world') => ((.ok (), session'), world')
          | ((.error cause, session'), world') =>
            ((.error cause, { session' with phase := session.phase }), world')
      else ((.ok (), session), world) := by
  unfold step stepOnce
  cases h : world.target.stopped with
  | true =>
    have hread : (Dialogue.converse [(stepRequest into).line] .stop session.settings.replyLimit
          .done).run world =
        let outcome := world.channel.converse [(stepRequest into).line] .stop
          session.settings.replyLimit
        (outcome.1, { world with channel := outcome.2 }) := rfl
    unfold stepRequest at hread ⊢
    simp only [runIn_bind, runIn_target, h, if_true, runIn_keepingPhase, runIn_enter, runIn_get,
      runIn_attempt, hread, runIn_clearPosition]
    rcases world.channel.converse [(if into = true then Request.stepInto else .stepOver).line] .stop
      session.settings.replyLimit with ⟨_ | _, channel⟩
    · rfl
    · dsimp only
      rcases (refresh none .stay).runIn { session with windows := .const none, phase := .stopped }
        { world with channel, target := world.target.clear session.settings.followPc } with
        ⟨⟨_ | _, _⟩, _⟩ <;> rfl
  | false => simp [runIn_bind, h]

/-! ## Requests that give the reply back -/

theorem runIn_ask (request : Request) (session : Session) (world : World σ) :
    (ask request).runIn session world =
      (((world.exchange session.settings.replyLimit [request]).1.map Reply.lines, session),
        (world.exchange session.settings.replyLimit [request]).2) := by
  unfold ask
  rw [runIn_bind, runIn_exchange]
  rcases world.exchange session.settings.replyLimit [request] with ⟨_ | _, _⟩ <;> rfl

end RemoteDebug
