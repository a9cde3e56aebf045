import RemoteDebug.Proofs.Interleaving.Courses
import RemoteDebug.Session.Watcher

/-!
# A session among its watchers

`Operation.runIn` carries out an operation while nobody else acts. Here everybody acts: the user
begins actions, the session goes through their dialogues one atomic step at a time, each watcher
that was ever started goes through its loop, and lines arrive. A `Turn` says who acts next, so a list
of turns is a run and every list is one: a statement about all runs is a statement about all lists.

A step of a dialogue is a step of `Dialogue.run` (`run_advance`), so a run in which the session
alone takes turns is an uninterrupted one.
-/

namespace RemoteDebug

open RemoteDebug.Wire

variable {σ : Type} [Peer σ]

/-! ## Steps of a dialogue -/

namespace Dialogue

variable {α : Type}

/-- The result of a dialogue that has ended. -/
def result? : Dialogue α → Option α
  | done result => some result
  | _ => none

theorem eq_done_of_result {dialogue : Dialogue α} {result : α}
    (h : dialogue.result? = some result) : dialogue = .done result := by
  cases dialogue with
  | done other =>
    cases h
    rfl
  | _ => cases h

/-- One atomic step: how the dialogue goes on, and the world behind the step. -/
def advance : Dialogue α → World σ → Dialogue α × World σ
  | done result, world => (done result, world)
  | takeToken next, world => (next world.takeToken.1, world.takeToken.2)
  | send lines next, world =>
    let (outcome, channel) := world.channel.sendAll lines
    (next outcome, { world with channel })
  | converse lines awaited limit next, world =>
    let (outcome, channel) := world.channel.converse lines awaited limit
    (next outcome, { world with channel })
  | readTarget next, world => (next world.target, world)
  | changeTarget change next, world => (next, { world with target := change world.target })
  | markStopped next, world => (next world.markStopped.1, world.markStopped.2)
  | announceStop next, world => (next, world.announce .stopped)
  | beginWatch next, world => (next world.beginWatch.1, world.beginWatch.2)

/-- The reply that the next step takes from the channel, if it takes one. -/
def reply? : Dialogue α → World σ → Option (List String)
  | converse lines awaited limit _, world =>
    (world.channel.converse lines awaited limit).1.toOption
  | _, _ => none

/-- Whether the next step registers a new watcher. -/
def registers : Dialogue α → World σ → Bool
  | beginWatch _, world => world.beginWatch.1
  | _, _ => false

/-- Whether the next step changes what is known of the target. -/
def changesTarget : Dialogue α → Bool
  | changeTarget _ _ => true
  | _ => false

/-- Going through a dialogue step by step is carrying it out. -/
theorem run_advance (dialogue : Dialogue α) (world : World σ) :
    (dialogue.advance world).1.run (dialogue.advance world).2 = dialogue.run world := by
  cases dialogue <;> rfl

end Dialogue

/-! ## Scenes -/

/-- An action that a session is carrying out: what is left of its dialogue, and the replies that it
has taken so far. -/
structure Task where
  action : Action
  rest : Dialogue (Except Error (List String) × Session)
  replies : List (List String) := []

/-- A session with the action that it is carrying out, what lies outside it, and the watchers that
it has started. What the session was before the action counts until the action has ended. -/
structure Scene (σ : Type) where
  session : Session := {}
  world : World σ
  task : Option Task := none
  watchers : List WatchStage := []

/-- Who acts next. -/
inductive Turn where
  /-- The user begins an action; while another one is being carried out there is no user to. -/
  | begin (action : Action)
  /-- The session goes on by one step; `spawns` tells whether there is a thread for a watcher. -/
  | proceed (spawns : Bool)
  /-- A watcher goes on by one step. -/
  | watch (index : Nat)
  /-- Items arrive that nobody asked for; the channel may close behind them. -/
  | arrive (items : List Item) (closes : Bool)
deriving Repr

namespace Scene

/-- A new session on a channel. -/
def opening (settings : Settings) (channel : Channel σ) (tokensTaken : Nat) : Scene σ where
  session := { settings }
  world := { channel, tokensTaken }

/-- The scene behind the beginning of an action. -/
def begin (scene : Scene σ) (action : Action) : Scene σ :=
  match scene.task with
  | some _ => scene
  | none => { scene with task := some { action, rest := action.operation.dialogue scene.session } }

/-- The scene behind a step of a dialogue. A watcher that is registered but gets no thread is taken
off at once. -/
def carryOn (scene : Scene σ) (task : Task) (spawns : Bool) : Scene σ :=
  let (rest, world) := task.rest.advance scene.world
  let registered := task.rest.registers scene.world
  { scene with
    world := if registered && !spawns then world.endWatch else world
    task := some { task with
      rest
      replies := task.replies ++ (task.rest.reply? scene.world).toList }
    watchers := if registered && spawns then scene.watchers ++ [.checking] else scene.watchers }

/-- The scene behind a step of the session. -/
def proceed (scene : Scene σ) (spawns : Bool) : Scene σ :=
  match scene.task with
  | none => scene
  | some task =>
    match task.rest.result? with
    | some outcome => { scene with session := outcome.2, task := none }
    | none => scene.carryOn task spawns

/-- The scene behind a step of a watcher. -/
def watch (scene : Scene σ) (index : Nat) : Scene σ :=
  match scene.watchers[index]? with
  | none => scene
  | some stage =>
    let (next, world) := stage.step scene.world
    { scene with world, watchers := scene.watchers.set index next }

/-- The scene behind the arrival of items. -/
def arrive (scene : Scene σ) (items : List Item) (closes : Bool) : Scene σ :=
  { scene with
    world := { scene.world with
      channel := { scene.world.channel with
        queue := scene.world.channel.queue ++ items
        closed := scene.world.channel.closed || closes } } }

/-- The scene behind a turn. -/
def after (scene : Scene σ) : Turn → Scene σ
  | .begin action => scene.begin action
  | .proceed spawns => scene.proceed spawns
  | .watch index => scene.watch index
  | .arrive items closes => scene.arrive items closes

/-- The scene behind turns. -/
def play (scene : Scene σ) (turns : List Turn) : Scene σ :=
  turns.foldl after scene

end Scene

/-! ## Moments -/

/-- A turn and the scene that it is taken in. -/
structure Moment (σ : Type) where
  before : Scene σ
  turn : Turn

/-- The scene behind a moment. -/
def Moment.after (moment : Moment σ) : Scene σ :=
  moment.before.after moment.turn

/-- The action that ends at a moment, and its outcome. -/
def Moment.ending? (moment : Moment σ) : Option (Task × (Except Error (List String) × Session)) :=
  match moment.turn, moment.before.task with
  | .proceed _, some task => task.rest.result?.map fun outcome => (task, outcome)
  | _, _ => none

/-- The moments of a run. -/
def Scene.moments (scene : Scene σ) : List Turn → List (Moment σ)
  | [] => []
  | turn :: rest => ⟨scene, turn⟩ :: (scene.after turn).moments rest

theorem Moment.of_ending {moment : Moment σ} {task : Task}
    {outcome : Except Error (List String) × Session} (h : moment.ending? = some (task, outcome)) :
    moment.before.task = some task ∧ task.rest = .done outcome ∧
      moment.after = { moment.before with session := outcome.2, task := none } := by
  obtain ⟨before, turn⟩ := moment
  cases turn with
  | proceed spawns =>
    unfold ending? at h
    show _ ∧ _ ∧ before.proceed spawns = _
    unfold Scene.proceed
    cases hother : before.task with
    | none =>
      rw [hother] at h
      cases h
    | some other =>
      rw [hother] at h
      obtain ⟨result, hresult, hpair⟩ := Option.map_eq_some_iff.mp h
      cases hpair
      dsimp only
      rw [hresult]
      exact ⟨rfl, Dialogue.eq_done_of_result hresult, rfl⟩
  | begin action => cases h
  | watch index => cases h
  | arrive items closes => cases h

namespace Scene

omit [Peer σ] in
/-- An action that begins has its whole course before it. -/
theorem task_begin {scene : Scene σ} (hidle : scene.task = none) (action : Action) :
    (scene.begin action).task = some { action, rest := action.course scene.session } := by
  unfold begin
  rw [hidle]
  dsimp only
  rw [Action.dialogue_operation]

/-- What can happen at a turn, and the scene behind it. -/
inductive TurnsInto (scene : Scene σ) : Turn → Scene σ → Prop
  /-- There is no user to begin an action while one is being carried out. -/
  | busy {task : Task} (action : Action) :
    scene.task = some task → scene.TurnsInto (.begin action) scene
  | begins (action : Action) :
    scene.task = none → scene.TurnsInto (.begin action)
      { scene with task := some { action, rest := action.course scene.session } }
  /-- A session without an action has nothing to go on with. -/
  | idle (spawns : Bool) : scene.task = none → scene.TurnsInto (.proceed spawns) scene
  | ends {task : Task} {outcome : Except Error (List String) × Session} (spawns : Bool) :
    scene.task = some task → task.rest = .done outcome → scene.TurnsInto (.proceed spawns)
      { scene with session := outcome.2, task := none }
  | goesOn {task : Task} (spawns : Bool) :
    scene.task = some task → task.rest.result? = none →
      scene.TurnsInto (.proceed spawns) (scene.carryOn task spawns)
  /-- There is no watcher with this index. -/
  | absent (index : Nat) :
    scene.watchers[index]? = none → scene.TurnsInto (.watch index) scene
  | watches {stage : WatchStage} (index : Nat) :
    scene.watchers[index]? = some stage → scene.TurnsInto (.watch index)
      { scene with
        world := (stage.step scene.world).2
        watchers := scene.watchers.set index (stage.step scene.world).1 }
  | arrives (items : List Item) (closes : Bool) :
    scene.TurnsInto (.arrive items closes) (scene.arrive items closes)

/-- Nothing else happens at a turn. -/
theorem turnsInto_after (scene : Scene σ) (turn : Turn) :
    scene.TurnsInto turn (scene.after turn) := by
  cases turn with
  | begin action =>
    show scene.TurnsInto _ (scene.begin action)
    unfold begin
    cases htask : scene.task with
    | some task => exact .busy action htask
    | none =>
      dsimp only
      rw [Action.dialogue_operation]
      exact .begins action htask
  | proceed spawns =>
    show scene.TurnsInto _ (scene.proceed spawns)
    unfold proceed
    cases htask : scene.task with
    | none => exact .idle spawns htask
    | some task =>
      dsimp only
      cases hresult : task.rest.result? with
      | some outcome => exact .ends spawns htask (Dialogue.eq_done_of_result hresult)
      | none => exact .goesOn spawns htask hresult
  | watch index =>
    show scene.TurnsInto _ (scene.watch index)
    unfold watch
    cases hstage : scene.watchers[index]? with
    | none => exact .absent index hstage
    | some stage => exact .watches index hstage
  | arrive items closes => exact .arrives items closes

@[simp] theorem play_nil (scene : Scene σ) : scene.play [] = scene := rfl

@[simp] theorem play_cons (scene : Scene σ) (turn : Turn) (rest : List Turn) :
    scene.play (turn :: rest) = (scene.after turn).play rest := rfl

theorem play_append (scene : Scene σ) (front back : List Turn) :
    scene.play (front ++ back) = (scene.play front).play back :=
  List.foldl_append

theorem moments_append (scene : Scene σ) (front back : List Turn) :
    scene.moments (front ++ back) = scene.moments front ++ (scene.play front).moments back := by
  induction front generalizing scene with
  | nil => rfl
  | cons turn rest ih =>
    rw [List.cons_append, moments, moments, ih, List.cons_append, play_cons]

/-- Where no action is being carried out, there is no moment during one. -/
theorem eq_nil_of_busy {scene : Scene σ} (hidle : scene.task = none) {turns : List Turn}
    (hbusy : ∀ moment ∈ scene.moments turns, moment.before.task.isSome = true) : turns = [] := by
  cases turns with
  | nil => rfl
  | cons turn rest =>
    have hfirst := hbusy ⟨scene, turn⟩ List.mem_cons_self
    rw [hidle] at hfirst
    cases hfirst

theorem exists_turns_of_append {scene : Scene σ} {turns : List Turn} {front back : List (Moment σ)}
    (h : scene.moments turns = front ++ back) :
    ∃ early late, turns = early ++ late ∧ scene.moments early = front ∧
      (scene.play early).moments late = back := by
  induction front generalizing scene turns with
  | nil => exact ⟨[], turns, rfl, rfl, h⟩
  | cons first front ih =>
    cases turns with
    | nil => cases h
    | cons turn rest =>
      rw [moments, List.cons_append, List.cons.injEq] at h
      obtain ⟨rfl, hrest⟩ := h
      obtain ⟨early, late, rfl, hfront, hback⟩ := ih hrest
      exact ⟨turn :: early, late, rfl, by rw [moments, hfront], hback⟩

/-- A moment of a run stands between the moments before it and those behind it, and its scene is
the one that the former lead to. -/
theorem exists_turns_of_moments {scene : Scene σ} {turns : List Turn}
    {front back : List (Moment σ)} {moment : Moment σ}
    (h : scene.moments turns = front ++ moment :: back) :
    ∃ early late, turns = early ++ moment.turn :: late ∧ scene.moments early = front ∧
      moment.before = scene.play early ∧ moment.after.moments late = back := by
  obtain ⟨early, late, rfl, hfront, hback⟩ := exists_turns_of_append h
  cases late with
  | nil => cases hback
  | cons turn rest =>
    rw [moments, List.cons.injEq] at hback
    obtain ⟨rfl, hrest⟩ := hback
    exact ⟨early, rest, rfl, hfront, rfl, hrest⟩

/-- What holds at the start and is kept by every turn, in view of the moments so far, holds behind
every run. -/
theorem history_induction (holds : List (Moment σ) → Scene σ → Prop)
    (hturn : ∀ (history : List (Moment σ)) (scene : Scene σ) turn, holds history scene →
      holds (history ++ [⟨scene, turn⟩]) (scene.after turn))
    {scene : Scene σ} (hstart : holds [] scene) (turns : List Turn) :
    holds (scene.moments turns) (scene.play turns) := by
  have hgeneral (history : List (Moment σ)) (scene : Scene σ) (h : holds history scene) :
      holds (history ++ scene.moments turns) (scene.play turns) := by
    induction turns generalizing history scene with
    | nil =>
      rw [moments, List.append_nil]
      exact h
    | cons turn rest ih =>
      rw [moments, List.append_cons]
      exact ih _ _ (hturn history scene turn h)
  exact hgeneral [] scene hstart

theorem play_induction {holds : Scene σ → Prop} {scene : Scene σ} (hstart : holds scene)
    (hturn : ∀ (scene : Scene σ) turn, holds scene → holds (scene.after turn))
    (turns : List Turn) : holds (scene.play turns) :=
  history_induction (fun _ => holds) (fun _ => hturn) hstart turns

end Scene

end RemoteDebug
