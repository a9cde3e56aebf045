import RemoteDebug.Proofs.Interleaving.Promises

/-!
# Each stop is told once

The session and any number of watchers may see the same stop, and each of them tells it if it was
the one to mark the target. So every mark that changes something is told, or is about to be, and
nothing else is (`tellings_after`); and between two such marks somebody let the target go, which
only a resume does, once its request has been sent and it can no longer fail.
-/

namespace RemoteDebug

open RemoteDebug.Wire Dialogue

variable {α σ : Type}

/-! ## What a dialogue tells -/

namespace Dialogue

/-- Whether the next step tells a stop. -/
def tellsNext : Dialogue α → Bool
  | announceStop _ => true
  | _ => false

/-- Whether a dialogue tells a stop exactly where its own mark was the one that counted, and stops
the target in no other way. It `owes` the telling right behind such a mark. -/
def TellsMarks : Dialogue α → (owes : Bool) → Prop
  | done _, owes => owes = false
  | takeToken next, owes => owes = false ∧ ∀ token, (next token).TellsMarks false
  | send _ next, owes => owes = false ∧ ∀ sent, (next sent).TellsMarks false
  | converse _ _ _ next, owes => owes = false ∧ ∀ reply, (next reply).TellsMarks false
  | readTarget next, owes => owes = false ∧ ∀ target, (next target).TellsMarks false
  | changeTarget change next, owes =>
    owes = false ∧ (∀ target, (change target).stopped = true → target.stopped = true) ∧
      next.TellsMarks false
  | markStopped next, owes => owes = false ∧ ∀ running, (next running).TellsMarks running
  | announceStop next, owes => owes = true ∧ next.TellsMarks false
  | beginWatch next, owes => owes = false ∧ ∀ started, (next started).TellsMarks false

theorem TellsMarks.tellsNext {dialogue : Dialogue α} {owes : Bool}
    (h : dialogue.TellsMarks owes) : dialogue.tellsNext = owes := by
  cases dialogue with
  | done result => exact h.symm
  | _ => exact h.1.symm

theorem tellsMarks_done (result : α) : (done result).TellsMarks false := rfl

theorem tellsMarks_noticing {seen : Bool} {next : Dialogue α} (h : next.TellsMarks false) :
    (noticing seen next).TellsMarks false := by
  unfold noticing
  cases seen with
  | false => exact h
  | true =>
    refine ⟨rfl, fun running => ?_⟩
    cases running with
    | false => exact h
    | true => exact ⟨rfl, h⟩

theorem tellsMarks_exchanging {limit : Duration} {requests : List Request}
    {next : Except Error (List String) → Dialogue α} (h : ∀ reply, (next reply).TellsMarks false) :
    (exchanging limit requests next).TellsMarks false := by
  refine ⟨rfl, fun token => ⟨rfl, fun reply => ?_⟩⟩
  rcases reply with cause | lines
  · exact h _
  · exact tellsMarks_noticing (h _)

theorem tellsMarks_refreshing {session : Session} {address : Option Nat} {move : Move}
    {next : Except Error Unit × Session → Dialogue α}
    (h : ∀ outcome, (next outcome).TellsMarks false) :
    (refreshing session address move next).TellsMarks false := by
  refine ⟨rfl, fun target => ?_⟩
  dsimp only
  split
  · refine ⟨rfl, fun now => tellsMarks_exchanging fun status => ?_⟩
    rcases status with cause | status
    · exact h _
    · dsimp only
      rcases session.plan now status address move with cause | plan
      · exact h _
      · refine tellsMarks_exchanging fun views => ?_
        rcases views with cause | views
        · exact h _
        · exact ⟨rfl, fun _ stopped => stopped, h _⟩
  · exact h _

end Dialogue

theorem Action.tellsMarks_refreshed (outcome : Except Error Unit × Session) :
    (refreshed outcome).TellsMarks false := by
  rcases outcome with ⟨_ | _, _⟩ <;> rfl

theorem Action.tellsMarks_asking (session : Session) (request : Request) :
    (courseOfAsking session request).TellsMarks false :=
  tellsMarks_exchanging fun reply => tellsMarks_done (reply, session)

/-- Every action tells the stops that it marks, and no others. -/
theorem Action.tellsMarks_course (action : Action) (session : Session) :
    (action.course session).TellsMarks false := by
  cases action with
  | refresh move => exact tellsMarks_refreshing tellsMarks_refreshed
  | goto address =>
    simp only [course]
    split
    · exact tellsMarks_done _
    · exact tellsMarks_refreshing tellsMarks_refreshed
  | pauseOrResume =>
    refine ⟨rfl, fun target => ?_⟩
    dsimp only
    split
    · refine ⟨rfl, fun sent => ?_⟩
      rcases sent with cause | _
      · rfl
      · exact ⟨rfl, nofun, rfl, fun _ stopped => stopped, rfl, fun _ => rfl⟩
    · refine ⟨rfl, fun sent => ?_⟩
      rcases sent with cause | _
      · rfl
      · exact ⟨rfl, fun _ => rfl⟩
  | step into =>
    refine ⟨rfl, fun target => ?_⟩
    dsimp only
    split
    · refine ⟨rfl, fun noise => ?_⟩
      rcases noise with cause | _
      · rfl
      · refine ⟨rfl, fun _ stopped => stopped, tellsMarks_refreshing fun outcome => ?_⟩
        rcases outcome with ⟨_ | _, _⟩ <;> rfl
    · rfl
  | askRaw text => exact tellsMarks_asking session _
  | loadMemory path address => exact tellsMarks_asking session _
  | saveMemory path address length => exact tellsMarks_asking session _
  | setFocus view =>
    simp only [course, courseOfFocus]
    split
    · exact tellsMarks_done _
    · exact ⟨rfl, fun _ stopped => stopped, rfl⟩
  | setActiveViews views => rfl
  | setLines lines => rfl
  | setFollowPc followPc => rfl

/-! ## Stops and resumes -/

namespace TargetState

/-- Whether the target goes from running to stopped between two states. -/
def stopsInto (target next : TargetState) : Bool :=
  !target.stopped && next.stopped

theorem stopsInto_of_same {target next : TargetState} (h : next.stopped = target.stopped) :
    target.stopsInto next = false := by
  unfold stopsInto
  rw [h, Bool.not_and_self]

@[simp] theorem stopsInto_self (target : TargetState) : target.stopsInto target = false :=
  stopsInto_of_same rfl

theorem Onward.stopsInto_back {target now : TargetState} (h : target.Onward now) :
    now.stopsInto target = false := by
  rcases h with rfl | rfl
  · exact stopsInto_self _
  · rfl

end TargetState

open TargetState

/-- How often it was told that the target stopped. -/
def World.timesTold (world : World σ) : Nat :=
  world.events.count .stopped

/-- How often it was told that the target stopped, or is about to be told by somebody whose mark
was the one that counted. -/
def Scene.tellings (scene : Scene σ) : Nat :=
  scene.world.timesTold + (scene.task.any fun task => task.rest.tellsNext).toNat +
    scene.watchers.count .announcing

namespace Moment

variable [Peer σ]

/-- Whether a running target becomes marked as stopped. -/
def stops (moment : Moment σ) : Bool :=
  moment.before.world.target.stopsInto moment.after.world.target

/-- Whether a stopped target is let go. -/
def resumes (moment : Moment σ) : Bool :=
  moment.after.world.target.stopsInto moment.before.world.target

end Moment

/-! ## Every stop is told -/

/-- A step that neither tells anything nor touches the target keeps the count. -/
theorem World.timesTold_silent {world next : World σ} (hevents : next.events = world.events)
    (htarget : next.target = world.target) (owed : Nat) :
    next.timesTold + owed =
      world.timesTold + owed + (world.target.stopsInto next.target).toNat := by
  unfold timesTold
  rw [hevents, htarget, stopsInto_self, Bool.toNat_false, Nat.add_zero]

theorem Dialogue.TellsMarks.advance [Peer σ] {dialogue : Dialogue α} {owes : Bool}
    (h : dialogue.TellsMarks owes) (world : World σ) :
    ∃ owed, (dialogue.advance world).1.TellsMarks owed ∧
      (dialogue.advance world).2.timesTold + owed.toNat = world.timesTold + owes.toNat +
        (world.target.stopsInto (dialogue.advance world).2.target).toNat := by
  cases dialogue with
  | done result => exact ⟨owes, h, World.timesTold_silent rfl rfl _⟩
  | takeToken next =>
    obtain ⟨rfl, hnext⟩ := h
    exact ⟨false, hnext _, World.timesTold_silent rfl rfl _⟩
  | send lines next =>
    obtain ⟨rfl, hnext⟩ := h
    exact ⟨false, hnext _, World.timesTold_silent rfl rfl _⟩
  | converse lines awaited limit next =>
    obtain ⟨rfl, hnext⟩ := h
    exact ⟨false, hnext _, World.timesTold_silent rfl rfl _⟩
  | readTarget next =>
    obtain ⟨rfl, hnext⟩ := h
    exact ⟨false, hnext _, World.timesTold_silent rfl rfl _⟩
  | changeTarget change next =>
    obtain ⟨rfl, hchange, hnext⟩ := h
    refine ⟨false, hnext, ?_⟩
    have hstays : world.target.stopsInto (change world.target) = false := by
      have := hchange world.target
      unfold TargetState.stopsInto
      revert this
      cases world.target.stopped <;> cases (change world.target).stopped <;> simp
    show world.timesTold + _ = _ + (world.target.stopsInto (change world.target)).toNat
    rw [hstays, Bool.toNat_false]
  | markStopped next =>
    obtain ⟨rfl, hnext⟩ := h
    refine ⟨!world.target.stopped, hnext _, ?_⟩
    show world.timesTold + _ = world.timesTold + _ + (!world.target.stopped && true).toNat
    rw [Bool.and_true, Bool.toNat_false, Nat.add_zero]
  | announceStop next =>
    obtain ⟨rfl, hnext⟩ := h
    refine ⟨false, hnext, ?_⟩
    show (world.events ++ [Event.stopped]).count .stopped + _ =
      world.events.count .stopped + _ + (world.target.stopsInto world.target).toNat
    rw [stopsInto_self, List.count_append]
    rfl
  | beginWatch next =>
    obtain ⟨rfl, hnext⟩ := h
    have hevents : world.beginWatch.2.events = world.events := by
      unfold World.beginWatch
      split <;> rfl
    exact ⟨false, hnext _, World.timesTold_silent hevents world.beginWatch_target _⟩

theorem WatchStage.tellings_step (stage : WatchStage) (world : World σ) :
    (stage.step world).2.timesTold + ((stage.step world).1 == .announcing).toNat =
      world.timesTold + (stage == .announcing).toNat +
        (world.target.stopsInto (stage.step world).2.target).toNat := by
  cases stage with
  | checking =>
    show world.timesTold + ((if world.target.stopped then ended else polling) == announcing).toNat =
      world.timesTold + 0 + (world.target.stopsInto world.target).toNat
    rw [stopsInto_self]
    split <;> rfl
  | polling =>
    show world.timesTold + _ = world.timesTold + 0 + (world.target.stopsInto world.target).toNat
    rw [stopsInto_self]
    dsimp only [step]
    rcases world.channel.drain.1 with cause | lines
    · rfl
    · dsimp only [behindPoll]
      split <;> rfl
  | marking =>
    show world.timesTold + ((if !world.target.stopped then announcing else checking) ==
      announcing).toNat = world.timesTold + 0 + (!world.target.stopped && true).toNat
    cases world.target.stopped <;> rfl
  | announcing =>
    show (world.events ++ [Event.stopped]).count .stopped + 0 =
      world.events.count .stopped + 1 + (world.target.stopsInto world.target).toNat
    rw [stopsInto_self, List.count_append]
    rfl
  | ending cause =>
    show world.timesTold + 0 = world.timesTold + 0 + (world.target.stopsInto world.target).toNat
    rw [stopsInto_self]
    rfl
  | reporting cause =>
    show (world.events ++ [Event.watchFailed cause]).count .stopped + 0 =
      world.events.count .stopped + 0 + (world.target.stopsInto world.target).toNat
    rw [stopsInto_self, List.count_append]
    rfl
  | ended =>
    show world.timesTold + 0 = world.timesTold + 0 + (world.target.stopsInto world.target).toNat
    rw [stopsInto_self]
    rfl

/-- Replacing an entry changes a count by what the old entry and the new one count. -/
theorem countP_set_add {stages : List WatchStage} {index : Nat} {old : WatchStage}
    (h : stages[index]? = some old) (stage : WatchStage) (counts : WatchStage → Bool) :
    (stages.set index stage).countP counts + (counts old).toNat =
      stages.countP counts + (counts stage).toNat := by
  obtain ⟨hindex, rfl⟩ := List.getElem?_eq_some_iff.mp h
  have hle : (if counts stages[index] then 1 else 0) ≤ stages.countP counts :=
    List.boole_getElem_le_countP hindex
  rw [List.countP_set hindex]
  generalize counts stages[index] = wasCounted at hle ⊢
  cases wasCounted <;> cases counts stage <;>
    simp only [↓reduceIte, Bool.false_eq_true, Bool.toNat_true, Bool.toNat_false] at hle ⊢ <;>
    omega

theorem count_set_add {stages : List WatchStage} {index : Nat} {old : WatchStage}
    (h : stages[index]? = some old) (stage counted : WatchStage) :
    (stages.set index stage).count counted + (old == counted).toNat =
      stages.count counted + (stage == counted).toNat :=
  countP_set_add h stage (· == counted)

namespace Scene

variable [Peer σ]

/-- What is upheld for telling: the current action tells what it marks. -/
theorem tellsMarks_upheld : Upheld σ (fun _ _ => True)
    (fun _ task _ => task.rest.TellsMarks task.rest.tellsNext) where
  begins := by
    intro session target action _
    have hcourse := action.tellsMarks_course session
    rw [hcourse.tellsNext]
    exact hcourse
  advances := by
    intro session task world h
    obtain ⟨owed, howed, _⟩ := h.advance world
    show (task.rest.advance world).1.TellsMarks (task.rest.advance world).1.tellsNext
    rw [howed.tellsNext]
    exact howed
  ends := fun _ _ => trivial
  onward := fun _ _ => trivial
  onwardDuring := fun _ h => h

theorem tellings_carryOn {scene : Scene σ} {task : Task} (htask : scene.task = some task)
    (htells : task.rest.TellsMarks task.rest.tellsNext) (spawns : Bool) :
    (scene.carryOn task spawns).tellings = scene.tellings +
      (scene.world.target.stopsInto (scene.carryOn task spawns).world.target).toNat := by
  obtain ⟨owed, howed, hcount⟩ := htells.advance scene.world
  have htold : (scene.carryOn task spawns).world.timesTold =
      (task.rest.advance scene.world).2.timesTold := by
    unfold carryOn
    dsimp only
    split <;> rfl
  have hwatchers : (scene.carryOn task spawns).watchers.count .announcing =
      scene.watchers.count .announcing := by
    unfold carryOn
    dsimp only
    split
    · rw [List.count_append]
      rfl
    · rfl
  unfold tellings
  rw [htold, hwatchers, carryOn_target, htask]
  show _ + (task.rest.advance scene.world).1.tellsNext.toNat + _ =
    _ + task.rest.tellsNext.toNat + _ + _
  rw [howed.tellsNext]
  omega

/-- A turn adds a telling if it marks a running target as stopped, and else none. -/
theorem tellings_after {scene : Scene σ}
    (h : scene.Meets (fun _ _ => True) fun _ task _ => task.rest.TellsMarks task.rest.tellsNext)
    (turn : Turn) :
    (scene.after turn).tellings = scene.tellings + (Moment.mk scene turn).stops.toNat := by
  cases turn with
  | begin action =>
    show (scene.begin action).tellings =
      _ + (scene.world.target.stopsInto (scene.begin action).world.target).toNat
    unfold begin
    cases htask : scene.task with
    | some task =>
      dsimp only
      rw [stopsInto_self]
      rfl
    | none =>
      dsimp only
      rw [stopsInto_self, Action.dialogue_operation, tellings, tellings, htask]
      show _ + (action.course scene.session).tellsNext.toNat + _ = _ + 0 + _ + 0
      rw [(action.tellsMarks_course scene.session).tellsNext]
      rfl
  | proceed spawns =>
    show (scene.proceed spawns).tellings =
      _ + (scene.world.target.stopsInto (scene.proceed spawns).world.target).toNat
    unfold proceed
    cases htask : scene.task with
    | none =>
      dsimp only
      rw [stopsInto_self]
      rfl
    | some task =>
      have htells := h.of_task htask
      dsimp only
      cases hrest : task.rest.result? with
      | none => exact tellings_carryOn htask htells spawns
      | some outcome =>
        dsimp only
        -- a dialogue that is done owes nothing
        have hnext : task.rest.tellsNext = false := by
          cases hdone : task.rest <;> rw [hdone] at hrest <;> first | rfl | cases hrest
        rw [stopsInto_self, tellings, tellings, htask]
        show _ + 0 + _ = _ + task.rest.tellsNext.toNat + _ + 0
        rw [hnext]
        rfl
  | watch index =>
    show (scene.watch index).tellings =
      _ + (scene.world.target.stopsInto (scene.watch index).world.target).toNat
    unfold watch
    cases hstage : scene.watchers[index]? with
    | none =>
      dsimp only
      rw [stopsInto_self]
      rfl
    | some stage =>
      have hstep := stage.tellings_step scene.world
      have hset := count_set_add hstage (stage.step scene.world).1 .announcing
      dsimp only [tellings]
      omega
  | arrive items closes =>
    show _ = _ + (scene.world.target.stopsInto scene.world.target).toNat
    rw [stopsInto_self]
    rfl

end Scene

/-! ## Who lets the target go, and who stops it -/

namespace Dialogue

/-- Whether a dialogue lets no stopped target go and ends in a goal, whatever it is told. -/
def Settles (goal : α → Prop) : Dialogue α → Prop
  | done result => goal result
  | takeToken next => ∀ token, (next token).Settles goal
  | send _ next => ∀ sent, (next sent).Settles goal
  | converse _ _ _ next => ∀ reply, (next reply).Settles goal
  | readTarget next => ∀ target, (next target).Settles goal
  | changeTarget change next =>
    (∀ target, (change target).stopped = target.stopped) ∧ next.Settles goal
  | markStopped next => ∀ running, (next running).Settles goal
  | announceStop next => next.Settles goal
  | beginWatch next => ∀ started, (next started).Settles goal

/-- Whether a dialogue settles on a goal once it has let a stopped target go. -/
def SettlesOnceGone (goal : α → Prop) : Dialogue α → Prop
  | done _ => True
  | takeToken next => ∀ token, (next token).SettlesOnceGone goal
  | send _ next => ∀ sent, (next sent).SettlesOnceGone goal
  | converse _ _ _ next => ∀ reply, (next reply).SettlesOnceGone goal
  | readTarget next => ∀ target, (next target).SettlesOnceGone goal
  | changeTarget change next =>
    ((∀ target, (change target).stopped = target.stopped) ∨ next.Settles goal) ∧
      next.SettlesOnceGone goal
  | markStopped next => ∀ running, (next running).SettlesOnceGone goal
  | announceStop next => next.SettlesOnceGone goal
  | beginWatch next => ∀ started, (next started).SettlesOnceGone goal

theorem SettlesOnceGone.advance [Peer σ] {goal : α → Prop} {dialogue : Dialogue α}
    (h : dialogue.SettlesOnceGone goal) (world : World σ) :
    (dialogue.advance world).1.SettlesOnceGone goal := by
  cases dialogue with
  | done result => exact h
  | changeTarget change next => exact h.2
  | announceStop next => exact h
  | _ => exact h _

theorem SettlesOnceGone.settles [Peer σ] {goal : α → Prop} {dialogue : Dialogue α}
    (h : dialogue.SettlesOnceGone goal) {world : World σ}
    (hgone : (dialogue.advance world).2.target.stopsInto world.target = true) :
    (dialogue.advance world).1.Settles goal := by
  have hstays {next : TargetState} (hnext : world.target.Onward next)
      (hnextGone : next.stopsInto world.target = true) : False := by
    rw [hnext.stopsInto_back] at hnextGone
    cases hnextGone
  cases dialogue with
  | changeTarget change next =>
    rcases h.1 with hsame | hsettles
    · replace hgone : (change world.target).stopsInto world.target = true := hgone
      rw [stopsInto_of_same (hsame world.target).symm] at hgone
      cases hgone
    · exact hsettles
  | markStopped next => exact (hstays (.inr rfl) hgone).elim
  | beginWatch next => exact (hstays (.inl world.beginWatch_target) hgone).elim
  | _ => exact (hstays (.refl _) hgone).elim

end Dialogue

namespace Action

/-- Whether an action needs a stopped target. -/
def needsStopped : Action → Bool
  | .refresh _ | .goto _ | .step _ => true
  | _ => false

/-- Whether the result of an action is a success. -/
def Succeeds (outcome : Except Error (List String) × Session) : Prop :=
  outcome.1.isOk = true

/-- What every action promises: only pausing or resuming lets a stopped target go. -/
def holding (action : Action) : Promise (Except Error (List String) × Session) where
  changes _ target next := action = .pauseOrResume ∨ next.stopped = target.stopped

theorem settlesOnceGone_pauseOrResume (session : Session) :
    (pauseOrResume.course session).SettlesOnceGone Succeeds := by
  intro target
  dsimp only
  split
  · intro sent
    rcases sent with cause | _
    · trivial
    · have hgone : ∀ started : Bool, (finished { session with
          windows := .const none, phase := .running }).Settles Succeeds := fun _ => rfl
      exact ⟨.inr ⟨fun _ => rfl, hgone⟩, .inl fun _ => rfl, fun _ => trivial⟩
  · intro sent
    rcases sent with cause | _
    · trivial
    · exact fun _ => trivial

theorem keeps_holding_refreshed (action : Action) (outcome : Except Error Unit × Session)
    (replies : List (List String)) (target : TargetState) :
    (refreshed outcome).Keeps action.holding replies target := by
  rcases outcome with ⟨_ | _, _⟩ <;> exact fun _ _ => trivial

theorem keeps_holding_refreshing (action : Action) {session : Session} {address : Option Nat}
    {move : Move}
    {next : Except Error Unit × Session → Dialogue (Except Error (List String) × Session)}
    (hnext : ∀ outcome replies target, (next outcome).Keeps action.holding replies target)
    (replies : List (List String)) (target : TargetState) :
    (refreshing session address move next).Keeps action.holding replies target := by
  refine keeps_refreshing (fun _ _ => trivial) (fun cause now more _ => hnext _ _ _) ?_
  intro now status plan views _ _ _
  exact ⟨.inr rfl, hnext _ _ _⟩

theorem keeps_holding_asking (action : Action) (session : Session) (request : Request)
    (target : TargetState) :
    (courseOfAsking session request).Keeps action.holding [] target :=
  keeps_exchanging (fun _ _ => trivial) (fun _ _ _ => trivial) fun _ _ _ => trivial

theorem keeps_holding (action : Action) (session : Session) (target : TargetState) :
    (action.course session).Keeps action.holding [] target := by
  cases action with
  | refresh move => exact keeps_holding_refreshing _ (keeps_holding_refreshed _) [] target
  | goto address =>
    simp only [course]
    split
    · exact fun _ _ => trivial
    · exact keeps_holding_refreshing _ (keeps_holding_refreshed _) [] target
  | pauseOrResume =>
    intro now _
    dsimp only
    split
    · intro sent
      rcases sent with cause | _
      · exact fun _ _ => trivial
      · exact fun _ _ => ⟨.inl rfl, fun _ _ => ⟨.inl rfl, fun _ _ _ => trivial⟩⟩
    · intro sent
      rcases sent with cause | _
      · exact fun _ _ => trivial
      · exact fun _ _ _ => trivial
  | step into =>
    intro now _
    dsimp only
    split
    · intro noise
      rcases noise with cause | _
      · exact fun _ _ => trivial
      · refine fun later _ => ⟨.inr rfl, keeps_holding_refreshing _ ?_ _ _⟩
        intro outcome replies target
        rcases outcome with ⟨_ | _, _⟩ <;> exact fun _ _ => trivial
    · exact fun _ _ => trivial
  | askRaw text => exact keeps_holding_asking _ session _ target
  | loadMemory path address => exact keeps_holding_asking _ session _ target
  | saveMemory path address length => exact keeps_holding_asking _ session _ target
  | setFocus view =>
    simp only [course, courseOfFocus]
    split
    · exact fun _ _ => trivial
    · exact fun _ _ => ⟨.inr rfl, fun _ _ => trivial⟩
  | setActiveViews views => exact fun _ _ => trivial
  | setLines lines => exact fun _ _ => trivial
  | setFollowPc followPc => exact fun _ _ => trivial

end Action

namespace Scene

variable [Peer σ]

theorem holding_upheld : Upheld σ (fun _ _ => True)
    (fun _ task target => task.rest.Keeps task.action.holding task.replies target) :=
  upheld_of_keeps (fun _ _ => trivial) (fun action _ => action.keeps_holding _ _) fun _ => trivial

theorem settlesOnceGone_upheld : Upheld σ (fun _ _ => True)
    (fun _ task _ => task.action = .pauseOrResume → task.rest.SettlesOnceGone Action.Succeeds) where
  begins := by
    rintro session target action _ rfl
    exact Action.settlesOnceGone_pauseOrResume session
  advances := fun h haction => (h haction).advance _
  ends := fun _ _ => trivial
  onward := fun _ _ => trivial
  onwardDuring := fun _ h => h

/-- A target that is let go is let go by a step of the current action. -/
theorem proceeds_of_resumes {scene : Scene σ} {turn : Turn}
    (h : (Moment.mk scene turn).resumes = true) :
    ∃ task spawns, scene.task = some task ∧ turn = .proceed spawns ∧
      (task.rest.advance scene.world).2.target.stopsInto scene.world.target = true := by
  replace h : (scene.after turn).world.target.stopsInto scene.world.target = true := h
  cases turn with
  | begin action =>
    replace h : (scene.begin action).world.target.stopsInto scene.world.target = true := h
    rw [begin_world, stopsInto_self] at h
    cases h
  | proceed spawns =>
    replace h : (scene.proceed spawns).world.target.stopsInto scene.world.target = true := h
    unfold proceed at h
    cases htask : scene.task with
    | none =>
      rw [htask, stopsInto_self] at h
      cases h
    | some task =>
      rw [htask] at h
      dsimp only at h
      cases hrest : task.rest.result? with
      | some outcome =>
        rw [hrest, stopsInto_self] at h
        cases h
      | none =>
        rw [hrest] at h
        dsimp only at h
        rw [carryOn_target] at h
        exact ⟨task, spawns, rfl, rfl, h⟩
  | watch index =>
    replace h : (scene.watch index).world.target.stopsInto scene.world.target = true := h
    rw [(scene.watch_onward index).stopsInto_back] at h
    cases h
  | arrive items closes =>
    replace h : scene.world.target.stopsInto scene.world.target = true := h
    rw [stopsInto_self] at h
    cases h

theorem action_of_gone {scene : Scene σ} {task : Task} (htask : scene.task = some task)
    (hholding : scene.Meets (fun _ _ => True)
      fun _ task target => task.rest.Keeps task.action.holding task.replies target)
    (hgone : (task.rest.advance scene.world).2.target.stopsInto scene.world.target = true) :
    task.action = .pauseOrResume := by
  rcases (hholding.of_task htask).effect with ⟨-, haction | hsame⟩ | ⟨-, honward⟩
  · exact haction
  · rw [stopsInto_of_same hsame.symm] at hgone
    cases hgone
  · rw [honward.stopsInto_back] at hgone
    cases hgone

/-! ## Whole runs -/

/-- Every stop of a run adds a telling. -/
theorem tellings_play {scene : Scene σ}
    (h : scene.Meets (fun _ _ => True) fun _ task _ => task.rest.TellsMarks task.rest.tellsNext)
    (turns : List Turn) :
    (scene.play turns).tellings =
      scene.tellings + (scene.moments turns).countP Moment.stops := by
  induction turns generalizing scene with
  | nil => rfl
  | cons turn rest ih =>
    rw [play_cons, ih (h.after tellsMarks_upheld scene turn), tellings_after h, moments,
      List.countP_cons]
    cases (Moment.mk scene turn).stops with
    | true => exact Nat.add_right_comm _ _ _
    | false => simp

/-- Stops and resumes alternate: a target that stopped more often than it resumed is stopped. -/
theorem countP_stops (scene : Scene σ) (turns : List Turn) :
    (scene.moments turns).countP Moment.stops + scene.world.target.stopped.toNat =
      (scene.moments turns).countP Moment.resumes +
        (scene.play turns).world.target.stopped.toNat := by
  -- each turn adds to one side what it adds to the other: a stop, a resume, or nothing
  induction turns generalizing scene with
  | nil => rfl
  | cons turn rest ih =>
    have hrest := ih (scene.after turn)
    have hstops : (Moment.mk scene turn).stops =
      (!scene.world.target.stopped && (scene.after turn).world.target.stopped) := rfl
    have hresumes : (Moment.mk scene turn).resumes =
      (!(scene.after turn).world.target.stopped && scene.world.target.stopped) := rfl
    rw [moments, List.countP_cons, List.countP_cons, hstops, hresumes, play_cons]
    revert hrest
    cases scene.world.target.stopped <;> cases (scene.after turn).world.target.stopped <;>
      simp only [Bool.not_true, Bool.not_false, Bool.and_true, Bool.and_false, if_true,
        Bool.false_eq_true, if_false, Bool.toNat_true, Bool.toNat_false] <;>
      omega

/-- A stopped target that stops again was let go in between. -/
theorem exists_resume_of_stopped {scene : Scene σ} {turns : List Turn}
    (hstopped : scene.world.target.stopped = true)
    (hrunning : (scene.play turns).world.target.stopped = false) :
    ∃ moment ∈ scene.moments turns, moment.resumes = true := by
  have hcount := countP_stops scene turns
  rw [hstopped, hrunning] at hcount
  refine List.countP_pos_iff.mp ?_
  rw [Bool.toNat_true, Bool.toNat_false] at hcount
  omega

theorem task_after {scene : Scene σ} {task : Task} (htask : scene.task = some task) (turn : Turn) :
    (scene.after turn).task = none ∨
      ∃ next, (scene.after turn).task = some next ∧ next.action = task.action := by
  have hturn := scene.turnsInto_after turn
  generalize scene.after turn = next at hturn ⊢
  cases hturn with
  | begins action hidle => cases htask.symm.trans hidle
  | ends spawns => exact .inl rfl
  | goesOn spawns hother =>
    obtain rfl := Option.some.inj (htask.symm.trans hother)
    exact .inr ⟨_, rfl, rfl⟩
  | _ => exact .inr ⟨task, htask, rfl⟩

/-- While an action is carried out that is no resume, a stopped target does not stop again. -/
theorem stops_eq_false_of_busy {scene : Scene σ} {task : Task} (htask : scene.task = some task)
    (haction : task.action ≠ .pauseOrResume) (hstopped : scene.world.target.stopped = true)
    (hholding : scene.Meets (fun _ _ => True)
      fun _ task target => task.rest.Keeps task.action.holding task.replies target)
    {turns : List Turn}
    (hbusy : ∀ moment ∈ scene.moments turns, moment.before.task.isSome = true) :
    ∀ moment ∈ scene.moments turns, moment.stops = false := by
  induction turns generalizing scene task with
  | nil => exact fun moment hmoment => absurd hmoment List.not_mem_nil
  | cons turn rest ih =>
    have hstays : (scene.after turn).world.target.stopped = true := by
      cases hafter : (scene.after turn).world.target.stopped with
      | true => rfl
      | false =>
        have hgone : (Moment.mk scene turn).resumes = true := by
          show (!(scene.after turn).world.target.stopped && scene.world.target.stopped) = true
          rw [hafter, hstopped]
          rfl
        obtain ⟨other, _, hother, _, hother_gone⟩ := proceeds_of_resumes hgone
        have hresumes := action_of_gone hother hholding hother_gone
        rw [htask, Option.some.injEq] at hother
        rw [← hother] at hresumes
        exact absurd hresumes haction
    rw [moments, List.forall_mem_cons] at hbusy ⊢
    refine ⟨?_, ?_⟩
    · show (!scene.world.target.stopped && _) = false
      rw [hstopped]
      rfl
    · rcases task_after htask turn with hnone | ⟨next, hnext, hsame⟩
      · -- the action has ended, so no moment is left in which it is carried out
        obtain rfl := eq_nil_of_busy hnone hbusy.2
        exact fun moment hmoment => absurd hmoment List.not_mem_nil
      · have hother : next.action ≠ .pauseOrResume := by
          rw [hsame]
          exact haction
        exact ih hnext hother hstays (hholding.after holding_upheld scene turn) hbusy.2

end Scene

/-- Each stop is told once. In every run, it is told, or is about to be told, exactly as often that
the target stopped as a running target was marked; that is at most once more often than it was
resumed, and between two such marks it was resumed. Only pausing or resuming resumes it, by a step
behind which it is bound to succeed; and no mark counts while an action that needs a stopped
target goes on. -/
theorem each_stop_is_told_once [Peer σ] (settings : Settings) (channel : Channel σ)
    (tokensTaken : Nat) (turns : List Turn) :
    let start := Scene.opening settings channel tokensTaken
    let path := start.moments turns
    (start.play turns).tellings = path.countP Moment.stops ∧
    path.countP Moment.stops ≤ path.countP Moment.resumes + 1 ∧
    (∀ front first between second back, path = front ++ first :: (between ++ second :: back) →
      first.stops = true → second.stops = true → ∃ moment ∈ between, moment.resumes = true) ∧
    (∀ moment ∈ path, moment.resumes = true → ∃ task spawns, moment.before.task = some task ∧
      moment.turn = .proceed spawns ∧ task.action = .pauseOrResume ∧
      (task.rest.advance moment.before.world).1.Settles Action.Succeeds) ∧
    (∀ front action before during back,
      path = front ++ ⟨before, .begin action⟩ :: (during ++ back) →
      before.task = none → before.world.target.stopped = true → action.needsStopped = true →
      (∀ moment ∈ during, moment.before.task.isSome = true) →
      ∀ moment ∈ during, moment.stops = false) := by
  intro start path
  have hmeets {between during} (h : between start.session start.world.target) :
      start.Meets between during := h
  refine ⟨?_, ?_, ?_, ?_, ?_⟩
  · have htellings := Scene.tellings_play (hmeets trivial) turns
    rwa [show start.tellings = 0 from rfl, Nat.zero_add] at htellings
  · have hcount : path.countP Moment.stops + 0 =
        path.countP Moment.resumes + (start.play turns).world.target.stopped.toNat :=
      Scene.countP_stops start turns
    have hle := Bool.toNat_le (start.play turns).world.target.stopped
    omega
  · intro front first between second back hpath hfirst hsecond
    obtain ⟨early, late, _, _, _, hlate⟩ := Scene.exists_turns_of_moments hpath
    obtain ⟨middle, _, _, hbetween, hlast, _⟩ := Scene.exists_turns_of_moments hlate
    rw [← hbetween]
    -- the second mark found the target running, which the first one left stopped
    have hrunning : second.before.world.target.stopped = false := by
      simpa using (Bool.and_eq_true_iff.mp hsecond).1
    rw [hlast] at hrunning
    exact Scene.exists_resume_of_stopped (Bool.and_eq_true_iff.mp hfirst).2 hrunning
  · intro moment hmoment hresumes
    have hholding := Scene.meets_of_mem_moments Scene.holding_upheld (hmeets trivial) hmoment
    have hsettles :=
      Scene.meets_of_mem_moments Scene.settlesOnceGone_upheld (hmeets trivial) hmoment
    obtain ⟨task, spawns, htask, hturn, hgone⟩ := Scene.proceeds_of_resumes hresumes
    have haction := Scene.action_of_gone htask hholding hgone
    exact ⟨task, spawns, htask, hturn, haction, (hsettles.of_task htask haction).settles hgone⟩
  · intro front action before during back hpath hnone hstopped hneeds hbusy
    obtain ⟨early, late, _, _, hbefore, hlate⟩ := Scene.exists_turns_of_moments hpath
    obtain ⟨spent, _, _, hduring, _⟩ := Scene.exists_turns_of_append hlate
    rw [← hduring] at hbusy ⊢
    have hholding := Scene.meets_play Scene.holding_upheld (hmeets trivial) early
    rw [← hbefore] at hholding
    have htask : (Moment.mk before (.begin action)).after.task =
        some { action, rest := action.operation.dialogue before.session } := by
      show (before.begin action).task = _
      unfold Scene.begin
      rw [hnone]
    have hstill : (Moment.mk before (.begin action)).after.world.target.stopped = true := by
      show (before.begin action).world.target.stopped = true
      rw [Scene.begin_world]
      exact hstopped
    refine Scene.stops_eq_false_of_busy htask ?_ hstill
      (hholding.after Scene.holding_upheld before (.begin action)) hbusy
    rintro rfl
    cases hneeds

end RemoteDebug
