import RemoteDebug.Proofs.Interleaving.Promises

/-!
# What a session reports to be doing

A session keeps a phase of its own and shares with the watchers whether the target is stopped, and
what it reports combines the two. Between two actions they agree (`Session.AgreesWith`): the phase
of a request is never left behind, and the phase of a stopped target only where the target is
stopped. So a session reports to be stopped exactly if the target is (`state_agrees_with_target`).
An action that needs a stopped target looks for that first, and does nothing if it is not stopped.
-/

namespace RemoteDebug

open RemoteDebug.Wire Dialogue

variable {σ : Type}

/-! ## Phases and the target -/

/-- Whether the phase of a session fits what is known of the target, as it does between actions. -/
structure Session.AgreesWith (session : Session) (target : TargetState) : Prop where
  settled : session.phase ≠ .awaitingStatus
  stopped : session.phase = .stopped → target.stopped = true

namespace Session

variable {session : Session} {target : TargetState}

/-- A session that agrees with the target reports to be stopped exactly if the target is. -/
theorem AgreesWith.phaseSeen (h : session.AgreesWith target) :
    (session.phaseSeen target = .stopped ↔ target.stopped = true) ∧
      session.phaseSeen target ≠ .awaitingStatus := by
  obtain ⟨hsettled, hstopped⟩ := h
  unfold Session.phaseSeen
  cases hphase : session.phase with
  | awaitingStatus => exact absurd hphase hsettled
  | stopped => exact ⟨⟨fun _ => hstopped hphase, fun _ => rfl⟩, nofun⟩
  | _ => cases target.stopped <;> simp

/-- A target that is stopped stays so for a session, and one that runs may stop. -/
theorem AgreesWith.of_imp {now : TargetState} (h : session.AgreesWith target)
    (hnow : target.stopped = true → now.stopped = true) : session.AgreesWith now :=
  ⟨h.settled, fun hphase => hnow (h.stopped hphase)⟩

theorem AgreesWith.onward {now : TargetState} (h : session.AgreesWith target)
    (hnow : target.Onward now) : session.AgreesWith now :=
  h.of_imp hnow.stopped

/-- Only the phase of a session counts. -/
theorem AgreesWith.of_same {other : Session} (h : session.AgreesWith target)
    (hphase : other.phase = session.phase) : other.AgreesWith target := by
  constructor <;> rw [hphase]
  · exact h.settled
  · exact h.stopped

end Session

/-! ## Actions -/

namespace Action

/-- What an action promises of the phase: at its end it agrees with the target. -/
def agreeing : Promise (Except Error (List String) × Session) where
  changes _ _ _ := True
  ends outcome _ target := outcome.2.AgreesWith target

variable {session : Session} {target : TargetState} {replies : List (List String)}

theorem keeps_agreeing_done {outcome : Except Error (List String) × Session}
    (h : outcome.2.AgreesWith target) : (done outcome).Keeps agreeing replies target :=
  fun _ hnow => h.onward hnow

theorem keeps_agreeing_refreshing {address : Option Nat} {move : Move}
    {next : Except Error Unit × Session → Dialogue (Except Error (List String) × Session)}
    (h : session.AgreesWith target)
    (hnext : ∀ result after more now, (target.stopped = true → now.stopped = true) →
      after.AgreesWith now → (next (result, after)).Keeps agreeing more now) :
    (refreshing session address move next).Keeps agreeing replies target := by
  refine keeps_refreshing (fun _ _ => trivial) ?_ ?_
  · intro cause now more hnow
    exact hnext _ _ _ _ hnow.stopped (h.onward hnow)
  · intro now status plan views _ hstopped _
    exact ⟨trivial, hnext _ _ _ _ (fun _ => hstopped) ⟨nofun, fun _ => hstopped⟩⟩

theorem keeps_agreeing_refreshed {result : Except Error Unit} {after : Session}
    (h : after.AgreesWith target) : (refreshed (result, after)).Keeps agreeing replies target := by
  cases result <;> exact keeps_agreeing_done h

theorem keeps_agreeing_asking (request : Request) (h : session.AgreesWith target) :
    (courseOfAsking session request).Keeps agreeing [] target :=
  keeps_exchanging (fun _ _ => trivial) (fun _ => keeps_agreeing_done h)
    fun _ => keeps_agreeing_done h

theorem keeps_agreeing (action : Action) (h : session.AgreesWith target) :
    (action.course session).Keeps agreeing [] target := by
  cases action with
  | refresh move =>
    exact keeps_agreeing_refreshing h fun _ _ _ _ _ hafter => keeps_agreeing_refreshed hafter
  | goto address =>
    simp only [course]
    split
    · exact keeps_agreeing_done h
    · exact keeps_agreeing_refreshing h fun _ _ _ _ _ hafter => keeps_agreeing_refreshed hafter
  | pauseOrResume =>
    intro now hnow
    dsimp only
    split
    · intro sent
      rcases sent with cause | _
      · exact keeps_agreeing_done (h.onward hnow)
      · exact fun gone _ => ⟨trivial, fun cleared _ => ⟨trivial, fun started =>
          keeps_agreeing_done ⟨nofun, nofun⟩⟩⟩
    · intro sent
      rcases sent with cause | _
      · exact keeps_agreeing_done (h.onward hnow)
      · exact fun started => keeps_agreeing_done ⟨nofun, nofun⟩
  | step into =>
    intro now hnow
    dsimp only
    split
    · rename_i hstopped
      intro noise
      rcases noise with cause | noise
      · exact keeps_agreeing_done (h.onward hnow)
      · -- the target counts as stopped all along, whatever phase is put back
        refine fun halted hhalted => ⟨trivial, ?_⟩
        have hcleared : (halted.clear session.settings.followPc).stopped = true :=
          hhalted.stopped hstopped
        refine keeps_agreeing_refreshing ⟨nofun, fun _ => hcleared⟩ ?_
        intro result after more later hlater hafter
        cases result with
        | ok _ => exact keeps_agreeing_done hafter
        | error cause => exact keeps_agreeing_done ⟨h.settled, fun _ => hlater hcleared⟩
    · exact keeps_agreeing_done (h.onward hnow)
  | askRaw text => exact keeps_agreeing_asking _ h
  | loadMemory path address => exact keeps_agreeing_asking _ h
  | saveMemory path address length => exact keeps_agreeing_asking _ h
  | setFocus view =>
    simp only [course, courseOfFocus]
    split
    · exact keeps_agreeing_done (h.of_same rfl)
    · intro now hnow
      have hnow : session.AgreesWith now.forgetContinuation := (h.onward hnow).of_imp id
      exact ⟨trivial, keeps_agreeing_done (hnow.of_same rfl)⟩
  | setActiveViews views => exact keeps_agreeing_done (h.of_same rfl)
  | setLines lines => exact keeps_agreeing_done (h.of_same rfl)
  | setFollowPc followPc => exact keeps_agreeing_done (h.of_same rfl)

/-! ## Actions that need a stopped target -/

/-- The result of an action that finds the target running, if it needs a stopped one. -/
def refusal? : Action → Option (Except Error (List String))
  | .refresh _ => some (.error .notStopped)
  | .goto address => if maxAddress < address then none else some (.error .notStopped)
  | .step _ => some (.ok [])
  | _ => none

theorem refreshing_of_running (session : Session) (address : Option Nat) (move : Move)
    (next : Except Error Unit × Session → Dialogue (Except Error (List String) × Session)) :
    ∃ look, refreshing session address move next = .readTarget look ∧
      ∀ target, target.stopped = false → look target = next (.error .notStopped, session) := by
  refine ⟨_, rfl, fun target hrunning => ?_⟩
  dsimp only
  rw [hrunning]
  rfl

/-- An action that needs a stopped target looks for that first, and ends if it is not stopped. -/
theorem course_of_refusal {action : Action} {result : Except Error (List String)}
    (h : action.refusal? = some result) (session : Session) :
    ∃ look, action.course session = .readTarget look ∧
      ∀ target, target.stopped = false → look target = .done (result, session) := by
  cases action with
  | refresh move =>
    cases h
    exact refreshing_of_running session none move refreshed
  | goto address =>
    simp only [refusal?] at h
    split at h
    · cases h
    · rename_i hinside
      cases h
      rw [course, if_neg hinside]
      exact refreshing_of_running session (some address) .stay refreshed
  | step into =>
    cases h
    refine ⟨_, rfl, fun target hrunning => ?_⟩
    rw [hrunning]
    rfl
  | _ => cases h

/-- Where nobody else acts, such an action does nothing if the target is running. -/
theorem runIn_of_refusal [Peer σ] {action : Action} {result : Except Error (List String)}
    (h : action.refusal? = some result) (session : Session) {world : World σ}
    (hrunning : world.target.stopped = false) :
    action.operation.runIn session world = ((result, session), world) := by
  obtain ⟨look, hcourse, hlook⟩ := course_of_refusal h session
  show (action.operation.dialogue session).run world = _
  rw [dialogue_operation, hcourse, Dialogue.run, hlook world.target hrunning, Dialogue.run]

end Action

/-! ## Runs -/

/-- Whether a turn is a step of the session. -/
def Turn.proceeds : Turn → Bool
  | .proceed _ => true
  | _ => false

namespace Scene

variable [Peer σ] {scene : Scene σ} {task : Task}

/-- What a session carries along between actions and during them: its phase agrees with the target,
or is going to. -/
theorem agreeing_upheld :
    Upheld σ Session.AgreesWith fun _ task target =>
      task.rest.Keeps Action.agreeing task.replies target :=
  upheld_of_keeps (fun hnow h => h.onward hnow) (fun action h => action.keeps_agreeing h) fun h => h

/-- An action that has begun waits while others act. -/
theorem task_after_of_waiting (htask : scene.task = some task) {turn : Turn}
    (h : turn.proceeds = false) : (scene.after turn).task = some task := by
  have hturn := scene.turnsInto_after turn
  generalize scene.after turn = next at hturn ⊢
  cases hturn with
  | begins action hidle => cases htask.symm.trans hidle
  | ends spawns => cases h
  | goesOn spawns => cases h
  | _ => exact htask

theorem task_play_of_waiting (htask : scene.task = some task) {turns : List Turn}
    (h : ∀ moment ∈ scene.moments turns, moment.turn.proceeds = false) :
    (scene.play turns).task = some task := by
  induction turns generalizing scene with
  | nil => exact htask
  | cons turn rest ih =>
    rw [moments, List.forall_mem_cons] at h
    exact ih (task_after_of_waiting htask h.1) h.2

/-- An action that needs a stopped target and finds it running has its result behind that step,
which changes nothing else. -/
theorem refused_of_proceed {session : Session} {result : Except Error (List String)}
    (htask : scene.task = some task) (hfirst : task.rest = task.action.course session)
    (hrefusal : task.action.refusal? = some result)
    (hrunning : scene.world.target.stopped = false) (spawns : Bool) :
    (scene.proceed spawns).world = scene.world ∧ ∃ next, (scene.proceed spawns).task = some next ∧
      next.rest = .done (result, session) := by
  obtain ⟨look, hcourse, hlook⟩ := Action.course_of_refusal hrefusal session
  obtain ⟨action, rest, replies⟩ := task
  obtain rfl : rest = .readTarget look := hfirst.trans hcourse
  unfold proceed
  rw [htask]
  exact ⟨rfl, _, rfl, hlook scene.world.target hrunning⟩

/-- A session ends an action by its next step once the result is there. -/
theorem ending_of_done {outcome : Except Error (List String) × Session}
    (htask : scene.task = some task) (hdone : task.rest = .done outcome) (spawns : Bool) :
    (Moment.mk scene (.proceed spawns)).ending? = some (task, outcome) ∧
      (scene.proceed spawns).world = scene.world := by
  unfold Moment.ending? proceed
  rw [htask]
  dsimp only
  rw [hdone]
  exact ⟨rfl, rfl⟩

end Scene

/-- The state that a session reports never disagrees with the target. Behind every run, whenever no
action is being carried out, a session reports to be stopped exactly if the target is, and not to
await the status. An action that needs a stopped target does nothing if the target is running at its
first step: it ends as it began, and whatever others do meanwhile makes no difference. -/
theorem state_agrees_with_target [Peer σ] (settings : Settings) (channel : Channel σ)
    (tokensTaken : Nat) (turns : List Turn) :
    let start := Scene.opening settings channel tokensTaken
    let scene := start.play turns
    (scene.task = none →
      (scene.session.phaseSeen scene.world.target = .stopped ↔ scene.world.target.stopped = true) ∧
      scene.session.phaseSeen scene.world.target ≠ .awaitingStatus ∧
      ∀ (action : Action) result, action.refusal? = some result →
        scene.world.target.stopped = false →
        action.operation.runIn scene.session scene.world =
          ((result, scene.session), scene.world)) ∧
    ∀ front before action result waiting check idle last back,
      start.moments turns =
        front ++ ⟨before, .begin action⟩ :: (waiting ++ check :: (idle ++ last :: back)) →
      before.task = none → action.refusal? = some result →
      (∀ moment ∈ waiting ++ idle, moment.turn.proceeds = false) →
      check.turn.proceeds = true → last.turn.proceeds = true →
      check.before.world.target.stopped = false →
      check.after.world = check.before.world ∧ last.after.world = last.before.world ∧
        ∃ task, last.ending? = some (task, result, before.session) := by
  intro start scene
  refine ⟨fun hidle => ?_, ?_⟩
  · have hopening : start.Meets Session.AgreesWith
        fun _ task target => task.rest.Keeps Action.agreeing task.replies target :=
      ⟨nofun, nofun⟩
    have hmeets := Scene.meets_play Scene.agreeing_upheld hopening turns
    unfold Scene.Meets at hmeets
    rw [hidle] at hmeets
    exact ⟨hmeets.phaseSeen.1, hmeets.phaseSeen.2, fun action result hrefusal hrunning =>
      Action.runIn_of_refusal hrefusal _ hrunning⟩
  · intro front before action result waiting check idle last back hpath hnone hrefusal hwaiting
      hcheck hlast hrunning
    obtain ⟨_, later, -, -, -, hlater⟩ := Scene.exists_turns_of_moments hpath
    obtain ⟨_, rest, -, rfl, hbefore, hrest⟩ := Scene.exists_turns_of_moments hlater
    obtain ⟨_, _, -, rfl, hend, -⟩ := Scene.exists_turns_of_moments hrest
    rw [List.forall_mem_append] at hwaiting
    have htask : (Moment.mk before (.begin action)).after.task =
        some { action, rest := action.course before.session } :=
      Scene.task_begin hnone action
    have hwaited := Scene.task_play_of_waiting htask hwaiting.1
    rw [← hbefore] at hwaited
    obtain ⟨found, turn⟩ := check
    obtain ⟨final, turn'⟩ := last
    cases turn with
    | proceed spawns =>
      obtain ⟨hworld, next, hnext, hdone⟩ :=
        Scene.refused_of_proceed hwaited rfl hrefusal hrunning spawns
      have hstill := Scene.task_play_of_waiting hnext hwaiting.2
      cases turn' with
      | proceed spawns' =>
        replace hend : final = (found.proceed spawns).play _ := hend
        rw [← hend] at hstill
        obtain ⟨hending, hfinal⟩ := Scene.ending_of_done hstill hdone spawns'
        exact ⟨hworld, hfinal, next, hending⟩
      | _ => cases hlast
    | _ => cases hcheck

end RemoteDebug
