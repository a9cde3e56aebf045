import RemoteDebug.Proofs.Interleaving.Scene

/-!
# What a dialogue promises

While a session goes through a dialogue, the watchers may mark the target as stopped at any time, and
can do nothing else to what is known of it. A `Promise` says what a dialogue does under that
interference: how it changes what is known of the target, when it marks it, and what holds at its
end. `Dialogue.Keeps` is the promise seen from any point within; a step keeps it (`Keeps.advance`),
and so does a mark that somebody else makes (`Keeps.onward`).

The rules for `Dialogue.exchanging` and `Dialogue.refreshing` are the only ones that look into
them.
-/

namespace RemoteDebug

open RemoteDebug.Wire Dialogue

variable {α σ : Type}

/-! ## Interference -/

namespace TargetState

/-- The state with the target marked as stopped. -/
def marked (target : TargetState) : TargetState :=
  { target with stopped := true }

/-- What watchers can make of a state: they leave it alone, or mark the target as stopped. -/
def Onward (target now : TargetState) : Prop :=
  now = target ∨ now = target.marked

theorem Onward.refl (target : TargetState) : target.Onward target :=
  .inl rfl

theorem onward_marked (target : TargetState) : target.Onward target.marked :=
  .inr rfl

theorem Onward.trans {target now later : TargetState} (h : target.Onward now)
    (hlater : now.Onward later) : target.Onward later := by
  rcases h with rfl | rfl
  · exact hlater
  · rcases hlater with rfl | rfl
    · exact .inr rfl
    · exact .inr rfl

theorem marked_of_stopped {target : TargetState} (h : target.stopped = true) :
    target.marked = target := by
  rcases target with ⟨first, second, last, stopped⟩
  cases h
  rfl

/-- Nothing happens any more to a target that is stopped. -/
theorem Onward.eq_of_stopped {target now : TargetState} (h : target.Onward now)
    (hstopped : target.stopped = true) : now = target := by
  rcases h with rfl | rfl
  · rfl
  · exact marked_of_stopped hstopped

theorem Onward.stopped {target now : TargetState} (h : target.Onward now)
    (hstopped : target.stopped = true) : now.stopped = true := by
  rw [h.eq_of_stopped hstopped]
  exact hstopped

/-- Whatever happens, the position stays. -/
theorem Onward.position {target now : TargetState} (h : target.Onward now) :
    now.first = target.first ∧ now.second = target.second ∧ now.last = target.last := by
  rcases h with rfl | rfl <;> exact ⟨rfl, rfl, rfl⟩

end TargetState

theorem World.beginWatch_target (world : World σ) :
    world.beginWatch.2.target = world.target := by
  unfold beginWatch
  split <;> rfl

/-! ## Promises -/

/-- What a dialogue promises, given the replies that it has taken: of every change that it makes to
what is known of the target, of what is known when it marks the target, and of its end. -/
structure Promise (α : Type) where
  changes : List (List String) → TargetState → TargetState → Prop
  marks : TargetState → Prop := fun _ => True
  ends : α → List (List String) → TargetState → Prop := fun _ _ _ => True

namespace Dialogue

/-- Whether a dialogue keeps a promise from here on, whatever it is told and whatever the watchers
do. -/
def Keeps (promise : Promise α) : Dialogue α → List (List String) → TargetState → Prop
  | done result, replies, target => ∀ now, target.Onward now → promise.ends result replies now
  | takeToken next, replies, target => ∀ token, (next token).Keeps promise replies target
  | send _ next, replies, target => ∀ sent, (next sent).Keeps promise replies target
  | converse _ _ _ next, replies, target =>
    ∀ reply, (next reply).Keeps promise (replies ++ reply.toOption.toList) target
  | readTarget next, replies, target =>
    ∀ now, target.Onward now → (next now).Keeps promise replies now
  | changeTarget change next, replies, target =>
    ∀ now, target.Onward now →
      promise.changes replies now (change now) ∧ next.Keeps promise replies (change now)
  | markStopped next, replies, target =>
    ∀ now, target.Onward now →
      promise.marks now ∧ (next !now.stopped).Keeps promise replies now.marked
  | announceStop next, replies, target => next.Keeps promise replies target
  | beginWatch next, replies, target => ∀ started, (next started).Keeps promise replies target

variable {promise : Promise α} {replies : List (List String)} {target : TargetState}

theorem Keeps.onward {dialogue : Dialogue α} {now : TargetState}
    (h : dialogue.Keeps promise replies target) (hnow : target.Onward now) :
    dialogue.Keeps promise replies now := by
  induction dialogue generalizing replies with
  | done result => exact fun later hlater => h later (hnow.trans hlater)
  | takeToken next ih => exact fun token => ih token (h token)
  | send lines next ih => exact fun sent => ih sent (h sent)
  | converse lines awaited limit next ih => exact fun reply => ih reply (h reply)
  | readTarget next ih => exact fun later hlater => h later (hnow.trans hlater)
  | changeTarget change next ih => exact fun later hlater => h later (hnow.trans hlater)
  | markStopped next ih => exact fun later hlater => h later (hnow.trans hlater)
  | announceStop next ih => exact ih h
  | beginWatch next ih => exact fun started => ih started (h started)

theorem Keeps.advance [Peer σ] {dialogue : Dialogue α} {world : World σ}
    (h : dialogue.Keeps promise replies world.target) :
    (dialogue.advance world).1.Keeps promise (replies ++ (dialogue.reply? world).toList)
      (dialogue.advance world).2.target := by
  -- only one kind of step takes a reply
  have hsame : replies ++ (none : Option (List String)).toList = replies := List.append_nil replies
  cases dialogue with
  | converse lines awaited limit next =>
    exact h (world.channel.converse lines awaited limit).1
  | done result => exact hsame.symm ▸ h
  | takeToken next => exact hsame.symm ▸ h world.takeToken.1
  | send lines next => exact hsame.symm ▸ h (world.channel.sendAll lines).1
  | readTarget next => exact hsame.symm ▸ h world.target (.refl _)
  | changeTarget change next => exact hsame.symm ▸ (h world.target (.refl _)).2
  | markStopped next => exact hsame.symm ▸ (h world.target (.refl _)).2
  | announceStop next => exact hsame.symm ▸ h
  | beginWatch next =>
    show (next world.beginWatch.1).Keeps promise (replies ++ none.toList) world.beginWatch.2.target
    rw [world.beginWatch_target, hsame]
    exact h world.beginWatch.1

/-- What a step does to what is known of the target: it makes a change as promised, or leaves it
alone or marks it. -/
theorem Keeps.effect [Peer σ] {dialogue : Dialogue α} {world : World σ}
    (h : dialogue.Keeps promise replies world.target) :
    dialogue.changesTarget = true ∧
        promise.changes replies world.target (dialogue.advance world).2.target ∨
      dialogue.changesTarget = false ∧
        world.target.Onward (dialogue.advance world).2.target := by
  cases dialogue with
  | changeTarget change next => exact .inl ⟨rfl, (h world.target (.refl _)).1⟩
  | markStopped next => exact .inr ⟨rfl, .inr rfl⟩
  | beginWatch next => exact .inr ⟨rfl, .inl world.beginWatch_target⟩
  | _ => exact .inr ⟨rfl, .refl _⟩

/-! ## The rules -/

theorem keeps_noticing {seen : Bool} {next : Dialogue α}
    (hmarks : ∀ now, target.Onward now → promise.marks now)
    (hnext : next.Keeps promise replies target) :
    (noticing seen next).Keeps promise replies target := by
  unfold noticing
  cases seen with
  | false => exact hnext
  | true =>
    intro now hnow
    refine ⟨hmarks now hnow, ?_⟩
    -- behind a mark the target is known to be stopped, whether or not this mark counted
    have hmarked := hnext.onward (hnow.trans now.onward_marked)
    cases now.stopped with
    | true => exact hmarked
    | false => exact hmarked

theorem keeps_exchanging {limit : Duration} {requests : List Request}
    {next : Except Error (List String) → Dialogue α}
    (hmarks : ∀ now, target.Onward now → promise.marks now)
    (hfails : ∀ cause, (next (.error cause)).Keeps promise replies target)
    (hreply : ∀ lines, (next (.ok lines)).Keeps promise (replies ++ [lines]) target) :
    (exchanging limit requests next).Keeps promise replies target := by
  intro token reply
  rcases reply with cause | lines
  · simpa [Except.toOption] using hfails cause
  · exact keeps_noticing hmarks (hreply lines)

/-- A refresh keeps a promise if its failures do, and what it puts in place does. The target is
stopped all along, so what it read at the beginning still holds at the end. -/
theorem keeps_refreshing {session : Session} {address : Option Nat} {move : Move}
    {next : Except Error Unit × Session → Dialogue α}
    (hmarks : ∀ now, now.stopped = true → promise.marks now)
    (hfails : ∀ cause now more, target.Onward now →
      (next (.error cause, session)).Keeps promise (replies ++ more) now)
    (hfinds : ∀ now status plan views, target.Onward now → now.stopped = true →
      session.plan now status address move = .ok plan →
      let finding := session.findingIn plan views
      promise.changes (replies ++ [status, views]) now (now.moveTo (finding.position session)) ∧
      (next (.ok (), session.withFinding finding)).Keeps promise (replies ++ [status, views])
        (now.moveTo (finding.position session))) :
    (refreshing session address move next).Keeps promise replies target := by
  intro now hnow
  have hquiet (cause) := by simpa using hfails cause now [] hnow
  dsimp only
  cases hstopped : now.stopped with
  | false => exact hquiet _
  | true =>
    rw [if_pos rfl]
    -- a stopped target stays as it is, whatever the watchers do
    have hstay : ∀ later, now.Onward later → later = now :=
      fun later hlater => hlater.eq_of_stopped hstopped
    have hmarksNow : ∀ later, now.Onward later → promise.marks later := by
      intro later hlater
      rw [hstay later hlater]
      exact hmarks now hstopped
    intro later hlater
    obtain rfl := hstay later hlater
    refine keeps_exchanging hmarksNow (fun cause => hquiet cause) fun status => ?_
    dsimp only
    cases hplan : session.plan later status address move with
    | error cause => exact hfails cause later [status] hnow
    | ok plan =>
      refine keeps_exchanging hmarksNow (fun cause => hfails cause later [status] hnow)
        fun views => ?_
      have hfound := hfinds later status plan views hnow hstopped hplan
      rw [List.append_assoc, List.singleton_append]
      intro last hlast
      rw [hstay last hlast]
      exact hfound

end Dialogue

/-! ## Whole runs -/

/-- The task behind a step of its dialogue. -/
def Task.advanced [Peer σ] (task : Task) (world : World σ) : Task :=
  { task with
    rest := (task.rest.advance world).1
    replies := task.replies ++ (task.rest.reply? world).toList }

/-- What a session carries along: `between` holds while it carries out no action, `during` while it
does. The beginning of an action and its steps lead from the one to the other, and neither can be
spoiled by watchers. -/
structure Carried (σ : Type) [Peer σ] (between : Session → TargetState → Prop)
    (during : Session → Task → TargetState → Prop) : Prop where
  begins : ∀ {session target} action, between session target →
    during session { action, rest := action.course session } target
  advances : ∀ {session task} {world : World σ}, during session task world.target →
    during session (task.advanced world) (task.rest.advance world).2.target
  onward : ∀ {session target now}, target.Onward now → between session target →
    between session now
  onwardDuring : ∀ {session task target now}, target.Onward now → during session task target →
    during session task now

/-- What a session upholds: the end of an action leads back to where it began. -/
structure Upheld (σ : Type) [Peer σ] (between : Session → TargetState → Prop)
    (during : Session → Task → TargetState → Prop) : Prop extends Carried σ between during where
  ends : ∀ {session task target outcome}, during session task target →
    task.rest = .done outcome → between outcome.2 target

/-- What actions promise is upheld, if the promise of an action can be given at its beginning and
what it says of its end leads back to there. -/
theorem upheld_of_keeps [Peer σ] {between : Session → TargetState → Prop}
    {promise : Session → Action → Promise (Except Error (List String) × Session)}
    (honward : ∀ {session target now}, target.Onward now → between session target →
      between session now)
    (hkeeps : ∀ {session target} (action : Action), between session target →
      (action.course session).Keeps (promise session action) [] target)
    (hends : ∀ {session action outcome replies target},
      (promise session action).ends outcome replies target → between outcome.2 target) :
    Upheld σ between fun session task target =>
      task.rest.Keeps (promise session task.action) task.replies target where
  begins := hkeeps
  advances := Keeps.advance
  ends := by
    intro session task target outcome h hdone
    rw [hdone] at h
    exact hends (h target (.refl target))
  onward := honward
  onwardDuring := fun hnow h => h.onward hnow

theorem WatchStage.step_onward (stage : WatchStage) (world : World σ) :
    world.target.Onward (stage.step world).2.target := by
  cases stage with
  | marking => exact .inr rfl
  | _ => exact .inl rfl

namespace Scene

variable {between : Session → TargetState → Prop} {during : Session → Task → TargetState → Prop}

/-- Whether a scene is as it is upheld. -/
def Meets (between : Session → TargetState → Prop) (during : Session → Task → TargetState → Prop)
    (scene : Scene σ) : Prop :=
  match scene.task with
  | none => between scene.session scene.world.target
  | some task => during scene.session task scene.world.target

theorem Meets.of_task {scene : Scene σ} {task : Task} (h : scene.Meets between during)
    (htask : scene.task = some task) : during scene.session task scene.world.target := by
  unfold Meets at h
  rw [htask] at h
  exact h

theorem begin_world (scene : Scene σ) (action : Action) :
    (scene.begin action).world = scene.world := by
  unfold begin
  split <;> rfl

theorem watch_onward (scene : Scene σ) (index : Nat) :
    scene.world.target.Onward (scene.watch index).world.target := by
  unfold watch
  cases scene.watchers[index]? with
  | none => exact .refl _
  | some stage => exact stage.step_onward scene.world

variable [Peer σ]

/-- The watchers cannot spoil what is carried along. -/
theorem Meets.onward {scene next : Scene σ} (h : scene.Meets between during)
    (carried : Carried σ between during) (hsession : next.session = scene.session)
    (htask : next.task = scene.task) (honward : scene.world.target.Onward next.world.target) :
    next.Meets between during := by
  unfold Meets at h ⊢
  rw [hsession, htask]
  cases hnow : scene.task with
  | none =>
    rw [hnow] at h
    exact carried.onward honward h
  | some task =>
    rw [hnow] at h
    exact carried.onwardDuring honward h

theorem carryOn_target (scene : Scene σ) (task : Task) (spawns : Bool) :
    (scene.carryOn task spawns).world.target = (task.rest.advance scene.world).2.target := by
  unfold carryOn
  dsimp only
  split <;> rfl

/-- A step of the session that does not end its action carries on. -/
theorem Meets.proceed {scene : Scene σ} (h : scene.Meets between during)
    (carried : Carried σ between during) (spawns : Bool)
    (hgoing : (Moment.mk scene (.proceed spawns)).ending? = none) :
    (scene.proceed spawns).Meets between during := by
  unfold Moment.ending? at hgoing
  unfold Scene.proceed
  cases htask : scene.task with
  | none => exact h
  | some task =>
    rw [htask] at hgoing
    dsimp only
    rw [Option.map_eq_none_iff.mp hgoing]
    show during scene.session (task.advanced scene.world) (scene.carryOn task spawns).world.target
    rw [carryOn_target]
    exact carried.advances (h.of_task htask)

/-- A turn that ends no action carries on. -/
theorem Meets.after_of_going {scene : Scene σ} (h : scene.Meets between during)
    (carried : Carried σ between during) (turn : Turn)
    (hgoing : (Moment.mk scene turn).ending? = none) :
    (scene.after turn).Meets between during := by
  cases turn with
  | begin action =>
    show (scene.begin action).Meets between during
    unfold begin
    cases htask : scene.task with
    | some task => exact h
    | none =>
      unfold Meets at h ⊢
      rw [htask] at h
      dsimp only
      rw [Action.dialogue_operation]
      exact carried.begins action h
  | proceed spawns => exact h.proceed carried spawns hgoing
  | watch index =>
    show (scene.watch index).Meets between during
    unfold watch
    cases scene.watchers[index]? with
    | none => exact h
    | some stage =>
      have honward := stage.step_onward scene.world
      exact h.onward carried rfl rfl honward
  | arrive items closes => exact h.onward carried rfl rfl (.refl _)

/-- Every turn leads from what is upheld to what is upheld. -/
theorem Meets.after (upheld : Upheld σ between during) (scene : Scene σ) (turn : Turn)
    (h : scene.Meets between during) : (scene.after turn).Meets between during := by
  -- only the end of an action leads back to where the next one can begin
  cases hending : (Moment.mk scene turn).ending? with
  | none => exact h.after_of_going upheld.toCarried turn hending
  | some ending =>
    obtain ⟨htask, hdone, hafter⟩ := Moment.of_ending hending
    have hduring := h.of_task htask
    replace hafter : scene.after turn = _ := hafter
    rw [hafter]
    exact upheld.ends hduring hdone

/-- What is upheld holds behind every run. -/
theorem meets_play (upheld : Upheld σ between during) {scene : Scene σ}
    (h : scene.Meets between during) (turns : List Turn) :
    (scene.play turns).Meets between during :=
  play_induction h (Meets.after upheld) turns

/-- What is upheld holds at every moment of a run. -/
theorem meets_of_mem_moments (upheld : Upheld σ between during) {scene : Scene σ}
    (h : scene.Meets between during) {turns : List Turn} {moment : Moment σ}
    (hmoment : moment ∈ scene.moments turns) : moment.before.Meets between during := by
  obtain ⟨front, back, hpath⟩ := List.append_of_mem hmoment
  obtain ⟨early, _, _, _, hbefore, _⟩ := exists_turns_of_moments hpath
  rw [hbefore]
  exact meets_play upheld h early

end Scene

end RemoteDebug
