import RemoteDebug.Proofs.Channel.Taking
import RemoteDebug.Proofs.Session.Action
import RemoteDebug.Proofs.Wire.LineKinds
import RemoteDebug.Simulator.Machine

/-!
# Actions that fail

An action that fails leaves the session and what is known of the target as they were, at whichever
of its exits it fails (`failed_action_changes_nothing`). The one exception is a step whose stop
marker was received and whose refresh then failed: the target has moved, so the position is
forgotten, but nothing else is.

The argument goes up the operations. A refresh cycle changes no more than the phase before it puts
everything in place at once, which cannot fail (`refreshCycle_failure`); the guard around it puts
the phase back (`refresh_failure`); the other actions fail before they change anything.
-/

namespace RemoteDebug

open RemoteDebug.Wire Operation

variable {σ : Type} [Peer σ]

/-! ## Refreshes that fail -/

/-- Looking at the views changes no more than the phase if it fails. -/
theorem lookAt_failure {session session' : Session} {move : Move} {cursor : Cursor}
    {world world' : World σ} {cause : Error} (hstopped : world.target.stopped = true)
    (h : lookAt session move cursor world = ((.error cause, session'), world')) :
    (∃ phase, session' = { session with phase }) ∧ world'.target = world.target := by
  unfold lookAt at h
  rcases hplan : session.plannedWindows cursor move with _ | windows
  · simp only [hplan] at h
    cases h
    exact ⟨⟨_, rfl⟩, rfl⟩
  · simp only [hplan] at h
    have htarget := world.exchange_target_of_stopped session.settings.replyLimit
      (session.viewRequests windows) hstopped
    rcases hask : world.exchange session.settings.replyLimit (session.viewRequests windows) with
      ⟨_ | reply, world₁⟩
    · simp only [hask] at h htarget
      cases h
      exact ⟨⟨_, rfl⟩, htarget⟩
    · -- what is put in place behind the second reply cannot fail
      simp only [hask] at h
      cases h

/-- A refresh cycle changes no more than the phase if it fails. -/
theorem refreshCycle_failure {address : Option Nat} {move : Move} {session session' : Session}
    {world world' : World σ} {cause : Error} (hstopped : world.target.stopped = true)
    (h : (refreshCycle address move).runIn session world = ((.error cause, session'), world')) :
    (∃ phase, session' = { session with phase }) ∧ world'.target = world.target := by
  rw [runIn_refreshCycle] at h
  have htarget := world.exchange_target_of_stopped session.settings.replyLimit [.status] hstopped
  rcases hask : world.exchange session.settings.replyLimit [.status] with ⟨_ | status, world₁⟩
  · simp only [hask] at h htarget
    cases h
    exact ⟨⟨_, rfl⟩, htarget⟩
  · simp only [hask] at h htarget
    rcases hanchor : anchor world.target (status.block? .status) address with _ | cursor
    · simp only [hanchor] at h
      cases h
      exact ⟨⟨_, rfl⟩, htarget⟩
    · simp only [hanchor] at h
      have hlook := lookAt_failure (htarget ▸ hstopped) h
      exact ⟨hlook.1, hlook.2.trans htarget⟩

/-- A refresh that fails changes nothing. -/
theorem refresh_failure {address : Option Nat} {move : Move} {session session' : Session}
    {world world' : World σ} {cause : Error}
    (h : (refresh address move).runIn session world = ((.error cause, session'), world')) :
    session' = session ∧ world'.target = world.target := by
  rw [runIn_refresh] at h
  split at h
  · rename_i hstopped
    rcases hcycle : (refreshCycle address move).runIn session world with ⟨⟨_ | _, session₁⟩, world₁⟩
    · simp only [hcycle] at h
      cases h
      obtain ⟨⟨phase, rfl⟩, htarget⟩ := refreshCycle_failure hstopped hcycle
      -- the guard puts the phase back, which was all that had changed
      exact ⟨rfl, htarget⟩
    · simp only [hcycle] at h
      cases h
  · cases h
    exact ⟨rfl, rfl⟩

/-! ## Other actions that fail -/

theorem goto_failure {address : Nat} {session session' : Session} {world world' : World σ}
    {cause : Error}
    (h : (goto address).runIn session world = ((.error cause, session'), world')) :
    session' = session ∧ world'.target = world.target := by
  rw [runIn_goto] at h
  split at h
  · cases h
    exact ⟨rfl, rfl⟩
  · exact refresh_failure h

theorem pauseOrResume_failure {session session' : Session} {world world' : World σ} {cause : Error}
    (h : pauseOrResume.runIn session world = ((.error cause, session'), world')) :
    session' = session ∧ world'.target = world.target := by
  rw [runIn_pauseOrResume] at h
  rcases hsend : world.channel.sendAll
    [(if world.target.stopped then Request.resume else .pause).line] with ⟨_ | _, channel⟩
  · simp only [hsend] at h
    cases h
    exact ⟨rfl, rfl⟩
  · simp only [hsend] at h
    split at h <;> cases h

theorem ask_failure {request : Request} {session session' : Session} {world world' : World σ}
    {cause : Error}
    (h : (ask request).runIn session world = ((.error cause, session'), world')) :
    session' = session ∧ world'.target = world.target := by
  rw [runIn_ask] at h
  rcases hask : world.exchange session.settings.replyLimit [request] with ⟨_ | _, world₁⟩
  · simp only [hask] at h
    cases h
    exact ⟨rfl, World.exchange_target_of_error hask⟩
  · simp only [hask] at h
    cases h

/-! ## Steps that fail -/

/-- Whether an action is a step that received its stop marker: its request was sent, and a stop
marker is among the lines that it then took from the channel. -/
def Action.StopReceived (action : Action) (session : Session) (world : World σ) : Prop :=
  ∃ into sent, action = .step into ∧ world.target.stopped = true ∧
    world.channel.sendAll [(stepRequest into).line] = (.ok (), sent) ∧
    ∃ line ∈ linesTaken sent.queue (sent.await .stop session.settings.replyLimit).2.queue,
      isStopMarker line = true

omit [Peer σ] in
/-- A reader that waits for a stop has found it exactly if a stop marker is among the lines that it
took. -/
theorem await_stop_ok_iff (channel : Channel σ) (limit : Duration) :
    (∃ lines, (channel.await .stop limit).1 = .ok lines) ↔
      ∃ line ∈ linesTaken channel.queue (channel.await .stop limit).2.queue,
        isStopMarker line = true := by
  unfold Channel.await
  rcases hread : Channel.awaitItems .stop limit channel.queue with ⟨_ | lines, left⟩
  · obtain ⟨front, hqueue, hfront⟩ := Channel.awaitItems_of_error hread
    simp only [hqueue, linesTaken_append, reduceCtorEq, exists_false, false_iff, not_exists,
      not_and]
    intro line hline hmarker
    exact hfront line hline ((Awaited.sight_stop_eq_arrived_iff line).mpr hmarker)
  · obtain ⟨front, last, hqueue, hlast, -, -⟩ := Channel.awaitItems_of_ok hread
    have hsplit : channel.queue = (front ++ [.line last]) ++ left := by simp [hqueue]
    simp only [hsplit, linesTaken_append, linesOf_append]
    refine ⟨fun _ => ⟨last, ?_, (Awaited.sight_stop_eq_arrived_iff last).mp hlast⟩,
      fun _ => ⟨lines, rfl⟩⟩
    exact List.mem_append_right _ (List.mem_singleton.mpr rfl)

/-- A step of a stopped target received its stop marker exactly if its wait succeeded. -/
theorem stopReceived_step_iff {into : Bool} {session : Session} {world : World σ}
    (hstopped : world.target.stopped = true) :
    (Action.step into).StopReceived session world ↔
      ∃ lines channel, world.channel.converse [(stepRequest into).line] .stop
        session.settings.replyLimit = (.ok lines, channel) := by
  unfold Channel.converse
  constructor
  · rintro ⟨_, sent, heq, -, hsend, htaken⟩
    cases heq
    obtain ⟨lines, hlines⟩ := (await_stop_ok_iff sent session.settings.replyLimit).mpr htaken
    exact ⟨lines, _, by rw [hsend]; exact Prod.ext hlines rfl⟩
  · rintro ⟨lines, channel, hread⟩
    rcases hsend : world.channel.sendAll [(stepRequest into).line] with ⟨_ | _, sent⟩
    · simp [hsend] at hread
    · simp only [hsend] at hread
      exact ⟨into, sent, rfl, hstopped, hsend,
        (await_stop_ok_iff sent session.settings.replyLimit).mp ⟨lines, by rw [hread]⟩⟩

/-- A step that fails changes nothing before its stop marker, and forgets the position behind it. -/
theorem step_failure {into : Bool} {session session' : Session} {world world' : World σ}
    {cause : Error}
    (h : (step into).runIn session world = ((.error cause, session'), world')) :
    (¬ (Action.step into).StopReceived session world ∧
      session' = session ∧ world'.target = world.target) ∨
    ((Action.step into).StopReceived session world ∧
      session' = { session with windows := .const none } ∧
      world'.target = world.target.clear session.settings.followPc) := by
  rw [runIn_step] at h
  split at h
  · rename_i hstopped
    rw [stopReceived_step_iff hstopped]
    rcases hread : world.channel.converse [(stepRequest into).line] .stop
      session.settings.replyLimit with ⟨_ | lines, channel⟩
    · simp only [hread] at h
      cases h
      exact .inl ⟨by simp, rfl, rfl⟩
    · simp only [hread] at h
      rcases hrefresh : (refresh none .stay).runIn
        { session with windows := .const none, phase := .stopped }
        { world with channel, target := world.target.clear session.settings.followPc } with
        ⟨⟨_ | _, session₁⟩, world₁⟩
      · simp only [hrefresh] at h
        cases h
        obtain ⟨rfl, htarget⟩ := refresh_failure hrefresh
        -- the refresh left what the step had forgotten, and nothing but that
        exact .inr ⟨⟨lines, channel, rfl⟩, rfl, htarget⟩
      · simp only [hrefresh] at h
        cases h
  · cases h

/-! ## Every action that fails -/

/-- An operation whose result is thrown away fails where it fails. -/
theorem discard_failure {α : Type} {operation : Operation α} {session session' : Session}
    {world world' : World σ} {cause : Error}
    (h : (do let _ ← operation; return ([] : List String) : Operation _).runIn session world =
      ((.error cause, session'), world')) :
    operation.runIn session world = ((.error cause, session'), world') := by
  rw [runIn_bind] at h
  rcases hrun : operation.runIn session world with ⟨⟨_ | _, _⟩, _⟩
  · simp only [hrun] at h
    cases h
    rfl
  · simp only [hrun, runIn_pure] at h
    cases h

/-- Giving the focus to a view does not fail. -/
theorem setFocus_succeeds (view : View) (session : Session) (world : World σ) :
    ∃ session' world', (setFocus view).runIn session world = ((.ok (), session'), world') := by
  unfold setFocus
  by_cases h : session.focus = view <;> simp [runIn_bind, h]

/-- An action fails without a trace, unless it is a step that fails behind its stop marker. -/
theorem Action.failure_cases {action : Action} {session session' : Session}
    {world world' : World σ} {cause : Error}
    (h : action.operation.runIn session world = ((.error cause, session'), world')) :
    (¬ action.StopReceived session world ∧ session' = session ∧ world'.target = world.target) ∨
    (action.StopReceived session world ∧ session' = { session with windows := .const none } ∧
      world'.target = world.target.clear session.settings.followPc) := by
  cases action with
  | refresh move => exact .inl ⟨by simp [StopReceived], refresh_failure (discard_failure h)⟩
  | goto address => exact .inl ⟨by simp [StopReceived], goto_failure (discard_failure h)⟩
  | pauseOrResume =>
    exact .inl ⟨by simp [StopReceived], pauseOrResume_failure (discard_failure h)⟩
  | step into => exact step_failure (discard_failure h)
  | askRaw text => exact .inl ⟨by simp [StopReceived], ask_failure h⟩
  | loadMemory path address => exact .inl ⟨by simp [StopReceived], ask_failure h⟩
  | saveMemory path address length => exact .inl ⟨by simp [StopReceived], ask_failure h⟩
  | setFocus view =>
    obtain ⟨_, _, hfocus⟩ := setFocus_succeeds view session world
    rw [discard_failure h] at hfocus
    cases hfocus
  | setActiveViews views => cases discard_failure h
  | setLines lines => cases discard_failure h
  | setFollowPc followPc => cases discard_failure h

/-- An action that fails changes neither the session nor what is known of the target, nor with them
what the session reports to be doing; only a step that failed behind its stop marker has forgotten
the windows and the position, its first address as well if it follows the program counter. -/
theorem failed_action_changes_nothing {action : Action} {session session' : Session}
    {world world' : World σ} {cause : Error}
    (h : action.operation.runIn session world = ((.error cause, session'), world')) :
    (¬ action.StopReceived session world →
      session' = session ∧ world'.target = world.target) ∧
    (action.StopReceived session world →
      session' = { session with windows := .const none } ∧
      world'.target = {
        first := if session.settings.followPc then none else world.target.first
        second := none
        last := none
        stopped := world.target.stopped }) ∧
    session'.phaseSeen world'.target = session.phaseSeen world.target := by
  rcases Action.failure_cases h with ⟨hmissed, rfl, htarget⟩ | ⟨hreceived, rfl, htarget⟩
  · exact ⟨fun _ => ⟨rfl, htarget⟩, fun hreceived => absurd hreceived hmissed, by rw [htarget]⟩
  · refine ⟨fun hmissed => absurd hreceived hmissed, fun _ => ⟨rfl, htarget⟩, ?_⟩
    -- forgetting the position says nothing about whether the target is stopped
    rw [htarget]
    rfl

/-- A stopped target that answers all but the requests to echo a token. -/
def mutedWorld : World Simulator.Link where
  channel := { peer := { muted := true } }
  target := { first := some 0x1000, second := some 0x1002, last := some 0x1010, stopped := true }

/-- A step of a target that echoes no token fails behind its stop marker, and forgets the position
that the target had. -/
theorem failed_step_forgets_position :
    (Action.step true).StopReceived {} mutedWorld ∧
    ∃ session' world',
      (Action.step true).operation.runIn {} mutedWorld =
        ((.error (.noReply "sync-1" (.ofMilliseconds 5000)), session'), world') ∧
      session' = {} ∧ world'.target = { stopped := true } := by
  have hstop : (Action.step true).StopReceived {} mutedWorld :=
    ⟨true, _, rfl, rfl, rfl, "!break", by decide, by decide⟩
  have hrun : (Action.step true).operation.runIn {} mutedWorld =
      ((.error (.noReply "sync-1" (.ofMilliseconds 5000)), _), _) := rfl
  have hleft := (failed_action_changes_nothing hrun).2.1 hstop
  exact ⟨hstop, _, _, hrun, hleft.1, hleft.2⟩

end RemoteDebug
