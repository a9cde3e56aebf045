import RemoteDebug.Proofs.Interleaving.Stops

/-!
# How many watchers there are

A watcher is registered when it is started, and every pause or resume asks for a new one. It goes
round until it sees that the target is stopped or until one of its polls fails, and is taken off the
register in the same step in which it leaves the loop. So whatever the order of the turns, as many
watchers are in the loop as are registered, which is one or none (`IsRegistered.after`), and what
each of them has seen and told fits where it is (`Fits.after`).
-/

namespace RemoteDebug

open RemoteDebug.Wire Dialogue

variable {α σ : Type}

/-! ## Watchers in the loop -/

/-- Whether a watcher is in its loop. -/
def WatchStage.isLive : WatchStage → Bool
  | checking | polling | marking | announcing | ending _ => true
  | reporting _ | ended => false

/-- How many watchers are in their loop. -/
def Scene.live (scene : Scene σ) : Nat :=
  scene.watchers.countP WatchStage.isLive

/-- Whether as many watchers are in their loop as are registered. -/
def Scene.IsRegistered (scene : Scene σ) : Prop :=
  scene.live = scene.world.watching.toNat

namespace WatchStage

theorem isLive_step_polling (world : World σ) : (polling.step world).1.isLive = true := by
  dsimp only [step]
  rcases world.channel.drain.1 with cause | lines
  · rfl
  · dsimp only [behindPoll]
    split <;> rfl

theorem isLive_step_marking (world : World σ) : (marking.step world).1.isLive = true := by
  dsimp only [step]
  split <;> rfl

/-- A watcher in its loop stays there exactly if it stays registered; one that has left it changes
nothing. -/
theorem step_live (stage : WatchStage) {world : World σ}
    (h : stage.isLive = true → world.watching = true) :
    (stage.step world).2.watching.toNat + stage.isLive.toNat =
      world.watching.toNat + (stage.step world).1.isLive.toNat := by
  cases stage with
  | checking =>
    show (world.watching && !world.target.stopped).toNat + 1 =
      _ + (if world.target.stopped then ended else polling).isLive.toNat
    rw [h rfl]
    cases world.target.stopped <;> rfl
  | polling =>
    rw [isLive_step_polling]
    rfl
  | marking =>
    rw [isLive_step_marking]
    rfl
  | announcing => rfl
  | ending cause =>
    show 0 + 1 = world.watching.toNat + 0
    rw [h rfl]
    rfl
  | reporting cause => rfl
  | ended => rfl

end WatchStage

/-- A step of the session registers a watcher where none is registered, or leaves the register
alone. -/
theorem Dialogue.watching_advance [Peer σ] (dialogue : Dialogue α) (world : World σ) :
    if dialogue.registers world then
      world.watching = false ∧ (dialogue.advance world).2.watching = true
    else (dialogue.advance world).2.watching = world.watching := by
  cases dialogue with
  | beginWatch next =>
    show if world.beginWatch.1 then _ ∧ world.beginWatch.2.watching = true
      else world.beginWatch.2.watching = world.watching
    unfold World.beginWatch
    split
    · rfl
    · rename_i hfree
      rw [Bool.or_eq_true, not_or] at hfree
      exact ⟨by simpa using hfree.1, rfl⟩
  | _ => rfl

namespace Scene

variable [Peer σ] {scene : Scene σ}

/-- Behind a step of the session as many watchers are in their loop as are registered. -/
theorem IsRegistered.carryOn (h : scene.IsRegistered) (task : Task) (spawns : Bool) :
    (scene.carryOn task spawns).IsRegistered := by
  unfold IsRegistered live at h ⊢
  have hadvance := task.rest.watching_advance scene.world
  unfold Scene.carryOn
  cases hregisters : task.rest.registers scene.world with
  | false =>
    rw [hregisters, if_neg Bool.false_ne_true] at hadvance
    exact h.trans (congrArg Bool.toNat hadvance.symm)
  | true =>
    rw [hregisters, if_pos rfl] at hadvance
    obtain ⟨hfree, hwatching⟩ := hadvance
    rw [hfree] at h
    cases spawns with
    | false => exact h
    | true =>
      show (scene.watchers ++ [WatchStage.checking]).countP WatchStage.isLive = _
      rw [List.countP_append, h]
      exact congrArg Bool.toNat hwatching.symm

omit [Peer σ] in
/-- Behind a step of a watcher as many watchers are in their loop as are registered. -/
theorem IsRegistered.watched (h : scene.IsRegistered) {index : Nat} {stage : WatchStage}
    (hstage : scene.watchers[index]? = some stage) :
    IsRegistered { scene with
      world := (stage.step scene.world).2
      watchers := scene.watchers.set index (stage.step scene.world).1 } := by
  unfold IsRegistered live at h ⊢
  have hcount := countP_set_add hstage (stage.step scene.world).1 WatchStage.isLive
  have hlive : stage.isLive = true → scene.world.watching = true := by
    intro hlive
    have hpos : 0 < scene.watchers.countP WatchStage.isLive :=
      List.countP_pos_iff.mpr ⟨stage, List.mem_of_getElem? hstage, hlive⟩
    cases hwatching : scene.world.watching with
    | true => rfl
    | false =>
      rw [h, hwatching] at hpos
      exact absurd hpos (Nat.lt_irrefl 0)
  have hstep := stage.step_live hlive
  show (scene.watchers.set index (stage.step scene.world).1).countP WatchStage.isLive =
    (stage.step scene.world).2.watching.toNat
  omega

/-- Behind every turn as many watchers are in their loop as are registered. -/
theorem IsRegistered.after (h : scene.IsRegistered) (turn : Turn) :
    (scene.after turn).IsRegistered := by
  have hturn := scene.turnsInto_after turn
  generalize scene.after turn = next at hturn ⊢
  cases hturn with
  | goesOn spawns => exact h.carryOn _ spawns
  | watches index hstage => exact h.watched hstage
  | _ => exact h

omit [Peer σ] in
theorem watching_or_stopped_of_beginWatch (world : World σ) :
    world.beginWatch.2.watching = true ∨ world.beginWatch.2.target.stopped = true := by
  unfold World.beginWatch
  split
  · rename_i hrefused
    exact (Bool.or_eq_true _ _).mp hrefused
  · exact .inl rfl

/-- Where the session asks for a watcher and there is a thread for it, there is one in its loop, or
the target is stopped. -/
theorem live_of_beginWatch {task : Task}
    {next : Bool → Dialogue (Except Error (List String) × Session)} (h : scene.IsRegistered)
    (htask : scene.task = some task) (hrest : task.rest = .beginWatch next) :
    (scene.proceed true).live = 1 ∨ (scene.proceed true).world.target.stopped = true := by
  have hworld : (scene.proceed true).world = scene.world.beginWatch.2 := by
    obtain ⟨action, rest, replies⟩ := task
    obtain rfl : rest = .beginWatch next := hrest
    unfold proceed
    rw [htask]
    show (if _ && false then _ else scene.world.beginWatch.2) = _
    rw [Bool.and_false]
    rfl
  have hafter : (scene.proceed true).live = (scene.proceed true).world.watching.toNat :=
    h.after (.proceed true)
  rw [hworld] at hafter ⊢
  refine (watching_or_stopped_of_beginWatch scene.world).imp (fun hwatching => ?_) id
  rw [hafter, hwatching]
  rfl

end Scene

/-! ## Steps of a watcher -/

/-- Where the watcher is that goes on at a moment, if it is the one with this index. -/
def Moment.stageOf? (moment : Moment σ) (index : Nat) : Option WatchStage :=
  match moment.turn with
  | .watch acting => if acting = index then moment.before.watchers[index]? else none
  | _ => none

namespace Scene

variable [Peer σ]

/-- A step of the session leaves the watchers where they are, and may start one. -/
theorem watcher_carryOn (scene : Scene σ) (task : Task) (spawns : Bool) (index : Nat) :
    (scene.carryOn task spawns).watchers[index]? = scene.watchers[index]? ∨
      scene.watchers[index]? = none ∧
        (scene.carryOn task spawns).watchers[index]? = some .checking := by
  unfold carryOn
  dsimp only
  split
  · rcases Nat.lt_trichotomy index scene.watchers.length with hindex | rfl | hindex
    · exact .inl (List.getElem?_append_left hindex)
    · exact .inr ⟨List.getElem?_eq_none (Nat.le_refl _), List.getElem?_concat_length⟩
    · refine .inl ?_
      rw [List.getElem?_eq_none (Nat.le_of_lt hindex), List.getElem?_eq_none]
      rwa [List.length_append, List.length_singleton]
  · exact .inl rfl

/-- A turn is a step of a watcher, or leaves it where it is, or starts it. -/
theorem watcher_after (scene : Scene σ) (turn : Turn) (index : Nat) :
    (∃ stage, (Moment.mk scene turn).stageOf? index = some stage ∧ turn = .watch index ∧
      scene.watchers[index]? = some stage ∧
      (scene.after turn).watchers[index]? = some (stage.step scene.world).1) ∨
    (Moment.mk scene turn).stageOf? index = none ∧
      ((scene.after turn).watchers[index]? = scene.watchers[index]? ∨
        scene.watchers[index]? = none ∧ (scene.after turn).watchers[index]? = some .checking) := by
  have hturn := scene.turnsInto_after turn
  generalize scene.after turn = next at hturn ⊢
  cases hturn with
  | goesOn spawns => exact .inr ⟨rfl, scene.watcher_carryOn _ spawns index⟩
  | absent acting hnone =>
    refine .inr ⟨?_, .inl rfl⟩
    show (if acting = index then scene.watchers[index]? else none) = none
    split
    · rename_i hacting
      rw [← hacting, hnone]
    · rfl
  | watches acting hstage =>
    by_cases hacting : acting = index
    · subst hacting
      have hindex := (List.getElem?_eq_some_iff.mp hstage).1
      exact .inl ⟨_, (if_pos rfl).trans hstage, rfl, hstage, List.getElem?_set_self hindex⟩
    · exact .inr ⟨if_neg hacting, .inl (List.getElem?_set_ne hacting)⟩
  | _ => exact .inr ⟨rfl, .inl rfl⟩

end Scene

/-! ## Leaving the loop -/

theorem WatchStage.leaves_of_step {stage : WatchStage} {world : World σ}
    (h : stage.isLive = true) :
    (stage.step world).1.isLive = true ∨
      (stage = .checking ∧ world.target.stopped = true ∧ (stage.step world).1 = .ended) ∨
      ∃ cause, stage = .ending cause ∧ (stage.step world).1 = .reporting cause := by
  cases stage with
  | checking =>
    show (if world.target.stopped then ended else polling).isLive = true ∨
      (_ ∧ _ ∧ (if world.target.stopped then ended else polling) = _) ∨ _
    cases world.target.stopped with
    | true => exact .inr (.inl ⟨rfl, rfl, rfl⟩)
    | false => exact .inl rfl
  | polling => exact .inl (isLive_step_polling world)
  | marking => exact .inl (isLive_step_marking world)
  | announcing => exact .inl rfl
  | ending cause => exact .inr (.inr ⟨cause, rfl, rfl⟩)
  | reporting cause => cases h
  | ended => cases h

/-- A watcher leaves its loop by a step of its own, as it sees that the target is stopped or behind
a poll that failed, and in no other way. -/
theorem Scene.leaves_of_after [Peer σ] {scene : Scene σ} {index : Nat} {stage : WatchStage}
    (hstage : scene.watchers[index]? = some stage) (hlive : stage.isLive = true) (turn : Turn) :
    ∃ next, (scene.after turn).watchers[index]? = some next ∧
      (next.isLive = true ∨ turn = .watch index ∧
        (stage = .checking ∧ scene.world.target.stopped = true ∧ next = .ended ∨
          ∃ cause, stage = .ending cause ∧ next = .reporting cause)) := by
  rcases scene.watcher_after turn index with ⟨acting, -, rfl, hacting, hnext⟩ |
    ⟨-, hsame | ⟨hnone, -⟩⟩
  · obtain rfl := Option.some.inj (hstage.symm.trans hacting)
    exact ⟨_, hnext, (WatchStage.leaves_of_step hlive).imp_right fun hleaves => ⟨rfl, hleaves⟩⟩
  · exact ⟨stage, hsame.trans hstage, .inl hlive⟩
  · cases hstage.symm.trans hnone

/-! ## What a watcher has done -/

namespace WatchStage

/-- The error with which the next step of a watcher fails to poll. -/
def failure? : WatchStage → World σ → Option Error
  | polling, world =>
    match world.channel.drain.1 with
    | .ok _ => none
    | .error cause => some cause
  | _, _ => none

/-- The error that the next step of a watcher tells. -/
def report? : WatchStage → Option Error
  | reporting cause => some cause
  | _ => none

/-- Whether the next step of a watcher sees that the target is stopped. -/
def seesStop : WatchStage → World σ → Bool
  | checking, world => world.target.stopped
  | _, _ => false

end WatchStage

/-- What a watcher has done: the errors with which its polls failed, those that it told, and how
often it saw that the target was stopped. -/
structure Career where
  failures : List Error := []
  reports : List Error := []
  sights : Nat := 0

namespace Career

/-- What a watcher has done behind a step. -/
def behind (career : Career) (stage : WatchStage) (world : World σ) : Career where
  failures := career.failures ++ (stage.failure? world).toList
  reports := career.reports ++ stage.report?.toList
  sights := career.sights + (stage.seesStop world).toNat

/-- Whether what a watcher has done fits where it is. In its loop it has done nothing of note, up to
the poll that makes it leave; at its end it has told the one error with which it failed, or has seen
that the target was stopped. Who has not been started has done nothing. -/
def Fits (career : Career) : Option WatchStage → Prop
  | some (.ending cause) | some (.reporting cause) =>
    career.failures = [cause] ∧ career.reports = [] ∧ career.sights = 0
  | some .ended =>
    career.reports = career.failures ∧ career.failures.length + career.sights = 1
  | _ => career.failures = [] ∧ career.reports = [] ∧ career.sights = 0

theorem Fits.step {career : Career} {stage : WatchStage} (h : career.Fits (some stage))
    (world : World σ) : (career.behind stage world).Fits (some (stage.step world).1) := by
  obtain ⟨failures, reports, sights⟩ := career
  cases stage with
  | checking =>
    obtain ⟨rfl, rfl, rfl⟩ := h
    show Fits ⟨[], [], 0 + world.target.stopped.toNat⟩
      (some (if world.target.stopped then .ended else .polling))
    cases world.target.stopped with
    | true => exact ⟨rfl, rfl⟩
    | false => exact ⟨rfl, rfl, rfl⟩
  | polling =>
    obtain ⟨rfl, rfl, rfl⟩ := h
    unfold behind
    dsimp only [WatchStage.step, WatchStage.failure?]
    rcases world.channel.drain.1 with cause | lines
    · exact ⟨rfl, rfl, rfl⟩
    · dsimp only [WatchStage.behindPoll]
      split <;> exact ⟨rfl, rfl, rfl⟩
  | marking =>
    obtain ⟨rfl, rfl, rfl⟩ := h
    show Fits ⟨[], [], 0⟩ (some (if !world.target.stopped then .announcing else .checking))
    split <;> exact ⟨rfl, rfl, rfl⟩
  | announcing =>
    obtain ⟨rfl, rfl, rfl⟩ := h
    exact ⟨rfl, rfl, rfl⟩
  | ending cause =>
    obtain ⟨rfl, rfl, rfl⟩ := h
    exact ⟨rfl, rfl, rfl⟩
  | reporting cause =>
    obtain ⟨rfl, rfl, rfl⟩ := h
    exact ⟨rfl, rfl⟩
  | ended =>
    obtain ⟨hreports, hcount⟩ := h
    exact ⟨by simpa [behind, WatchStage.report?, WatchStage.failure?] using hreports,
      by simpa [behind, WatchStage.failure?, WatchStage.seesStop] using hcount⟩

end Career

/-- What a watcher has done along some moments. -/
def careerAlong (moments : List (Moment σ)) (index : Nat) : Career :=
  moments.foldl (fun career moment =>
    (moment.stageOf? index).elim career (career.behind · moment.before.world)) {}

theorem careerAlong_concat (moments : List (Moment σ)) (moment : Moment σ) (index : Nat) :
    careerAlong (moments ++ [moment]) index =
      (moment.stageOf? index).elim (careerAlong moments index)
        ((careerAlong moments index).behind · moment.before.world) := by
  rw [careerAlong, List.foldl_append]
  rfl

/-- Along a run, what each watcher has done fits where it is. -/
theorem Scene.fits_after [Peer σ] {scene : Scene σ} {history : List (Moment σ)} {index : Nat}
    (h : (careerAlong history index).Fits scene.watchers[index]?) (turn : Turn) :
    (careerAlong (history ++ [⟨scene, turn⟩]) index).Fits (scene.after turn).watchers[index]? := by
  rw [careerAlong_concat]
  rcases scene.watcher_after turn index with ⟨stage, hstage, -, hbefore, hnext⟩ |
    ⟨hstage, hsame | ⟨hnone, hstarted⟩⟩
  · rw [hstage, hnext]
    rw [hbefore] at h
    exact h.step scene.world
  · rw [hstage, hsame]
    exact h
  · -- who has just been started has done as little as before
    rw [hstage, hstarted]
    rw [hnone] at h
    exact h

/-! ## What the user is told of failures -/

/-- The error of an event that tells that a watcher gave up. -/
def Event.cause? : Event → Option Error
  | .stopped => none
  | .watchFailed cause => some cause

/-- The errors that the user has been told of, in order. -/
def World.causesTold (world : World σ) : List Error :=
  world.events.filterMap Event.cause?

/-- The error that a watcher tells at a moment. -/
def Moment.report? (moment : Moment σ) : Option Error :=
  match moment.turn with
  | .watch index => moment.before.watchers[index]?.bind WatchStage.report?
  | _ => none

theorem WatchStage.causesTold_step (stage : WatchStage) (world : World σ) :
    (stage.step world).2.causesTold = world.causesTold ++ stage.report?.toList := by
  cases stage with
  | announcing => exact List.filterMap_append
  | reporting cause => exact List.filterMap_append
  | _ => exact (List.append_nil _).symm

theorem Dialogue.causesTold_advance [Peer σ] (dialogue : Dialogue α) (world : World σ) :
    (dialogue.advance world).2.causesTold = world.causesTold := by
  cases dialogue with
  | announceStop next => exact List.filterMap_append.trans (List.append_nil _)
  | beginWatch next =>
    show world.beginWatch.2.causesTold = world.causesTold
    unfold World.beginWatch
    split <;> rfl
  | _ => rfl

/-- The user is told at a moment what a watcher tells there, and of no other failure. -/
theorem Moment.causesTold_after [Peer σ] (moment : Moment σ) :
    moment.after.world.causesTold = moment.before.world.causesTold ++ moment.report?.toList := by
  obtain ⟨before, turn⟩ := moment
  show (before.after turn).world.causesTold = _
  have hturn := before.turnsInto_after turn
  generalize before.after turn = next at hturn ⊢
  cases hturn with
  | @goesOn task spawns =>
    show (before.carryOn task spawns).world.causesTold = before.world.causesTold ++ []
    rw [List.append_nil, ← task.rest.causesTold_advance before.world]
    unfold Scene.carryOn
    dsimp only
    split <;> rfl
  | absent index hnone =>
    show _ = _ ++ (before.watchers[index]?.bind WatchStage.report?).toList
    rw [hnone]
    exact (List.append_nil _).symm
  | @watches stage index hstage =>
    show _ = _ ++ (before.watchers[index]?.bind WatchStage.report?).toList
    rw [hstage]
    exact stage.causesTold_step before.world
  | _ => exact (List.append_nil _).symm

/-! ## Whole runs -/

/-- Whether the session asks for a watcher at a moment. -/
def Moment.asksForWatcher (moment : Moment σ) : Prop :=
  ∃ task next, moment.before.task = some task ∧ task.rest = .beginWatch next

/-- There is one polling watcher at most, and it ends only for a reason. Along every run at most one
watcher is in its loop, and one is registered exactly while one is. A watcher leaves its loop only
as it sees that the target is stopped or behind a poll that failed; at its end it has done one or
the other once, and has told the error with which it failed and no other. The user is told what the
watchers tell. And wherever the session asks for a watcher, and there is a thread for it, there is
one in its loop right behind, or the target is stopped. -/
theorem one_watcher_ends_for_reason [Peer σ] (settings : Settings) (channel : Channel σ)
    (tokensTaken : Nat) (turns : List Turn) :
    let start := Scene.opening settings channel tokensTaken
    let path := start.moments turns
    let scene := start.play turns
    (scene.live ≤ 1 ∧ (scene.world.watching = true ↔ scene.live = 1)) ∧
    (∀ moment ∈ path, ∀ index stage, moment.before.watchers[index]? = some stage →
      stage.isLive = true → ∃ next, moment.after.watchers[index]? = some next ∧
        (next.isLive = true ∨ moment.turn = .watch index ∧
          (stage = .checking ∧ moment.before.world.target.stopped = true ∧ next = .ended ∨
            ∃ cause, stage = .ending cause ∧ next = .reporting cause))) ∧
    (∀ index, (careerAlong path index).Fits scene.watchers[index]?) ∧
    scene.world.causesTold = path.filterMap Moment.report? ∧
    ∀ moment ∈ path, moment.turn = .proceed true → moment.asksForWatcher →
      moment.after.live = 1 ∨ moment.after.world.target.stopped = true := by
  intro start path scene
  have hregistered : ∀ early, (start.play early).IsRegistered :=
    Scene.play_induction rfl fun _ turn h => h.after turn
  refine ⟨?_, ?_, ?_, ?_, ?_⟩
  · have hlive : scene.live = scene.world.watching.toNat := hregistered turns
    rw [hlive]
    cases scene.world.watching <;> simp
  · exact fun moment _ index stage hstage hlive => Scene.leaves_of_after hstage hlive moment.turn
  · intro index
    have hopening : (careerAlong ([] : List (Moment σ)) index).Fits start.watchers[index]? :=
      ⟨rfl, rfl, rfl⟩
    exact Scene.history_induction
      (fun history scene => (careerAlong history index).Fits scene.watchers[index]?)
      (fun _ _ turn h => Scene.fits_after h turn) hopening turns
  · refine Scene.history_induction
      (fun history scene => scene.world.causesTold = history.filterMap Moment.report?)
      (fun history scene turn h => ?_) rfl turns
    rw [List.filterMap_append, ← h]
    exact (Moment.causesTold_after ⟨scene, turn⟩).trans (by
      cases hreport : (Moment.mk scene turn).report? <;> simp [hreport])
  · rintro moment hmoment hturn ⟨task, next, htask, hrest⟩
    obtain ⟨front, back, hpath⟩ := List.append_of_mem hmoment
    obtain ⟨early, _, -, -, hbefore, -⟩ := Scene.exists_turns_of_moments hpath
    have hbefore : moment.before.IsRegistered := hbefore ▸ hregistered early
    unfold Moment.after
    rw [hturn]
    exact Scene.live_of_beginWatch hbefore htask hrest

end RemoteDebug
