import RemoteDebug.Proofs.Session.Running

/-!
# Exchanges and refreshes as functions

An exchange reads and changes the world and leaves the session alone, so it is a function on
worlds, `World.exchange`. A refresh is two of them with a decision in between; `runIn_refresh` says
all that it can do, exit by exit. Everything said about requests further on starts from these
equations.
-/

namespace RemoteDebug

open RemoteDebug.Wire

variable {σ : Type}

namespace World

/-! ## What an exchange does to the world -/

/-- The world behind a reply in which a stop marker stood, or none. -/
def noticeStop (world : World σ) (seen : Bool) : World σ :=
  if seen && !world.target.stopped then world.markStopped.2.announce .stopped else world

/-- The token that the next exchange takes. -/
def nextToken (world : World σ) : SyncToken :=
  ⟨world.tokensTaken + 1⟩

/-- The lines that an exchange sends: its requests and the request to echo its token. -/
def exchangeLines (world : World σ) (requests : List Request) : List String :=
  (requests ++ [Request.sync world.nextToken]).map Request.line

/-- The world behind the sending and reading of an exchange. -/
def afterReading (world : World σ) (channel : Channel σ) : World σ :=
  { world with channel, tokensTaken := world.tokensTaken + 1 }

/-- The outcome of an exchange. -/
def exchange [Peer σ] (world : World σ) (limit : Duration) (requests : List Request) :
    Except Error Reply × World σ :=
  match world.channel.converse (world.exchangeLines requests) (.echo world.nextToken) limit with
  | (.error cause, channel) => (.error cause, world.afterReading channel)
  | (.ok lines, channel) =>
    (.ok (splitReply lines),
      (world.afterReading channel).noticeStop (splitReply lines).stopObserved)

theorem noticeStop_of_stopped (world : World σ) (seen : Bool) (h : world.target.stopped = true) :
    world.noticeStop seen = world := by
  simp [noticeStop, h]

/-- Noticing a stop changes no more of what is known of the target than whether it is stopped. -/
theorem noticeStop_target (world : World σ) (seen : Bool) :
    (world.noticeStop seen).target =
      { world.target with stopped := world.target.stopped || seen } := by
  unfold noticeStop
  split
  · rename_i h
    simp only [Bool.and_eq_true] at h
    simp [markStopped, announce, h.1]
  · rename_i h
    rcases world with ⟨channel, ⟨first, second, last, stopped⟩, watching, tokensTaken, events⟩
    cases stopped <;> cases seen <;> simp_all

@[simp] theorem noticeStop_channel (world : World σ) (seen : Bool) :
    (world.noticeStop seen).channel = world.channel := by
  unfold noticeStop
  split <;> rfl

@[simp] theorem noticeStop_tokensTaken (world : World σ) (seen : Bool) :
    (world.noticeStop seen).tokensTaken = world.tokensTaken := by
  unfold noticeStop
  split <;> rfl

@[simp] theorem afterReading_target (world : World σ) (channel : Channel σ) :
    (world.afterReading channel).target = world.target := rfl

variable [Peer σ]

/-- An exchange whose lines were not sent, or not answered, fails. -/
theorem exchange_of_error {world : World σ} {limit : Duration} {requests : List Request}
    {cause : Error} {channel : Channel σ}
    (h : world.channel.converse (world.exchangeLines requests) (.echo world.nextToken) limit =
      (.error cause, channel)) :
    world.exchange limit requests = (.error cause, world.afterReading channel) := by
  unfold exchange
  rw [h]

/-- An exchange that was answered splits what came before the echo. -/
theorem exchange_of_ok {world : World σ} {limit : Duration} {requests : List Request}
    {lines : List String} {channel : Channel σ}
    (h : world.channel.converse (world.exchangeLines requests) (.echo world.nextToken) limit =
      (.ok lines, channel)) :
    world.exchange limit requests = (.ok (splitReply lines),
      (world.afterReading channel).noticeStop (splitReply lines).stopObserved) := by
  unfold exchange
  rw [h]

/-- An exchange leaves alone what is known of a stopped target. -/
theorem exchange_target_of_stopped (world : World σ) (limit : Duration) (requests : List Request)
    (h : world.target.stopped = true) :
    (world.exchange limit requests).2.target = world.target := by
  rcases hc : world.channel.converse (world.exchangeLines requests) (.echo world.nextToken) limit
    with ⟨_ | _, channel⟩
  · rw [exchange_of_error hc]
    rfl
  · rw [exchange_of_ok hc, noticeStop_of_stopped (world.afterReading channel) _ h]
    rfl

/-- An exchange that fails leaves alone what is known of the target, stopped or not. -/
theorem exchange_target_of_error {world world' : World σ} {limit : Duration}
    {requests : List Request} {cause : Error}
    (h : world.exchange limit requests = (.error cause, world')) :
    world'.target = world.target := by
  rcases hc : world.channel.converse (world.exchangeLines requests) (.echo world.nextToken) limit
    with ⟨_ | _, channel⟩
  · rw [exchange_of_error hc] at h
    cases h
    rfl
  · rw [exchange_of_ok hc] at h
    cases h

end World

variable [Peer σ]

/-! ## Operations in terms of exchanges -/

open Operation

theorem runIn_observeStop (reply : Reply) (session : Session) (world : World σ) :
    (observeStop reply).runIn session world =
      ((.ok (), session), world.noticeStop reply.stopObserved) := by
  unfold observeStop
  cases reply.stopObserved with
  | false => rfl
  | true =>
    rcases world with ⟨channel, ⟨first, second, last, stopped⟩, watching, tokensTaken, events⟩
    cases stopped <;> rfl

/-- An exchange leaves the session alone. -/
theorem runIn_exchange (requests : List Request) (session : Session) (world : World σ) :
    (exchange requests).runIn session world =
      (((world.exchange session.settings.replyLimit requests).1, session),
        (world.exchange session.settings.replyLimit requests).2) := by
  -- the token is taken first, so the lines are sent in the world behind it
  have htoken : (Dialogue.takeToken .done).run world =
      (world.nextToken, { world with tokensTaken := world.tokensTaken + 1 }) := rfl
  have hread : (Dialogue.converse (world.exchangeLines requests) (.echo world.nextToken)
        session.settings.replyLimit .done).run { world with tokensTaken := world.tokensTaken + 1 } =
      let outcome := world.channel.converse (world.exchangeLines requests)
        (.echo world.nextToken) session.settings.replyLimit
      (outcome.1, world.afterReading outcome.2) := rfl
  unfold World.exchangeLines at hread
  unfold RemoteDebug.exchange
  simp only [runIn_bind, runIn_perform, runIn_attempt, runIn_get, htoken, hread]
  rcases hc : world.channel.converse (world.exchangeLines requests) (.echo world.nextToken)
    session.settings.replyLimit with ⟨_ | _, channel⟩
  · unfold World.exchangeLines at hc
    rw [World.exchange_of_error hc]
    simp only [hc]
  · unfold World.exchangeLines at hc
    rw [World.exchange_of_ok hc]
    simp only [hc, runIn_observeStop, runIn_pure]

/-- What a refresh does once it knows where to look: it asks for the views, and puts in place what
they show. `asked` is the session in which the views are asked for. -/
def lookAt (session : Session) (move : Move) (cursor : Cursor) (world : World σ) :
    (Except Error Unit × Session) × World σ :=
  match session.plannedWindows cursor move with
  | .error cause => ((.error cause, { session with phase := .awaitingStatus }), world)
  | .ok windows =>
    let asked := { session with phase := Phase.awaitingReply }
    match world.exchange session.settings.replyLimit (session.viewRequests windows) with
    | (.error cause, world) => ((.error cause, asked), world)
    | (.ok reply, world) =>
      let shown := session.shownIn reply.blocks
      ((.ok (), asked.withShown windows shown),
        { world with
          target := world.target.moveTo (session.positionAfter cursor windows shown) })

/-- All that the two exchanges of a refresh can come to. -/
theorem runIn_refreshCycle (address : Option Nat) (move : Move) (session : Session)
    (world : World σ) :
    (refreshCycle address move).runIn session world =
      match world.exchange session.settings.replyLimit [.status] with
      | (.error cause, world') =>
        ((.error cause, { session with phase := .awaitingStatus }), world')
      | (.ok status, world') =>
        match anchor world.target (status.block? .status) address with
        | .error cause => ((.error cause, { session with phase := .awaitingStatus }), world')
        | .ok cursor => lookAt session move cursor world' := by
  unfold refreshCycle
  simp only [runIn_bind, runIn_target, runIn_enter, runIn_exchange, runIn_liftExcept, runIn_get]
  rcases world.exchange session.settings.replyLimit [.status] with ⟨_ | status, world'⟩
  · rfl
  · dsimp only
    rcases anchor world.target (status.block? .status) address with _ | cursor
    · rfl
    · unfold lookAt
      -- the plan does not depend on the phase, which is what differs between the two sides
      have hplan : Session.plannedWindows { session with phase := .awaitingStatus } cursor move =
          session.plannedWindows cursor move := rfl
      simp only [hplan]
      rcases session.plannedWindows cursor move with _ | windows
      · rfl
      · have hasked : Session.viewRequests { session with phase := .awaitingReply } windows =
            session.viewRequests windows := rfl
        simp only [hasked]
        rcases world'.exchange session.settings.replyLimit (session.viewRequests windows) with
          ⟨_ | reply, world'⟩ <;> rfl

end RemoteDebug
