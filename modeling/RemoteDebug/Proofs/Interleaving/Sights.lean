import RemoteDebug.Proofs.Interleaving.Stops
import RemoteDebug.Proofs.Watcher.Round

/-!
# What readers have seen

Whoever marks the target as stopped does so on what it read before: the session on the reply that it
has just taken, a watcher on what it drained at its last poll. In between others act, and the target
may be let go. A `Ledger` keeps the books along a run: it follows which of the queued items were
there when the target was last let go, and what each reader has seen from before and since. The
books balance (`Ledger.Fits`): every mark stands on a sight that shows a stop.
-/

namespace RemoteDebug

open RemoteDebug.Wire Dialogue

variable {α σ : Type}

/-! ## Marks stand on replies -/

namespace Dialogue

/-- Whether a dialogue marks the target only right behind a reply that shows a stop, and stops it in
no other way; `seen` tells whether such a reply has just been taken. -/
def MarksSeen : Dialogue α → (seen : Prop) → Prop
  | done _, _ => True
  | takeToken next, _ => ∀ token, (next token).MarksSeen False
  | send _ next, _ => ∀ sent, (next sent).MarksSeen False
  | converse _ _ _ next, _ =>
    (∀ cause, (next (.error cause)).MarksSeen False) ∧
      ∀ lines, (next (.ok lines)).MarksSeen (stopsFrom false lines = true)
  | readTarget next, _ => ∀ target, (next target).MarksSeen False
  | changeTarget change next, _ =>
    (∀ target, (change target).stopped = true → target.stopped = true) ∧ next.MarksSeen False
  | markStopped next, seen => seen ∧ ∀ running, (next running).MarksSeen False
  | announceStop next, _ => next.MarksSeen False
  | beginWatch next, _ => ∀ started, (next started).MarksSeen False

theorem MarksSeen.mono {dialogue : Dialogue α} {seen other : Prop} (h : dialogue.MarksSeen seen)
    (hle : seen → other) : dialogue.MarksSeen other := by
  cases dialogue with
  | markStopped next => exact ⟨hle h.1, h.2⟩
  | _ => exact h

theorem MarksSeen.of_false {dialogue : Dialogue α} (h : dialogue.MarksSeen False) {seen : Prop} :
    dialogue.MarksSeen seen :=
  h.mono False.elim

theorem marksSeen_noticing {seen : Bool} {next : Dialogue α} (h : next.MarksSeen False) :
    (noticing seen next).MarksSeen (seen = true) := by
  unfold noticing
  cases seen with
  | false => exact h.of_false
  | true =>
    refine ⟨rfl, fun running => ?_⟩
    cases running <;> exact h

theorem marksSeen_exchanging {limit : Duration} {requests : List Request}
    {next : Except Error (List String) → Dialogue α} (h : ∀ reply, (next reply).MarksSeen False) :
    (exchanging limit requests next).MarksSeen False := by
  refine fun token => ⟨fun cause => h _, fun lines => ?_⟩
  rw [← splitReply_stopObserved]
  exact marksSeen_noticing (h _)

theorem marksSeen_refreshing {session : Session} {address : Option Nat} {move : Move}
    {next : Except Error Unit × Session → Dialogue α}
    (h : ∀ outcome, (next outcome).MarksSeen False) :
    (refreshing session address move next).MarksSeen False := by
  intro target
  dsimp only
  split
  · refine fun now => marksSeen_exchanging fun status => ?_
    rcases status with cause | status
    · exact h _
    · dsimp only
      rcases session.plan now status address move with cause | plan
      · exact h _
      · refine marksSeen_exchanging fun views => ?_
        rcases views with cause | views
        · exact h _
        · exact ⟨fun _ stopped => stopped, h _⟩
  · exact h _

theorem MarksSeen.of_stopsInto [Peer σ] {dialogue : Dialogue α} {seen : Prop}
    (h : dialogue.MarksSeen seen) {world : World σ}
    (hstops : world.target.stopsInto (dialogue.advance world).2.target = true) : seen := by
  have hstays {next : TargetState} (hsame : next.stopped = true → world.target.stopped = true)
      (hstops : world.target.stopsInto next = true) : False := by
    simp only [TargetState.stopsInto, Bool.and_eq_true, Bool.not_eq_true'] at hstops
    rw [hsame hstops.2] at hstops
    cases hstops.1
  cases dialogue with
  | markStopped next => exact h.1
  | changeTarget change next => exact (hstays (h.1 world.target) hstops).elim
  | beginWatch next =>
    refine (hstays (fun hstopped => ?_) hstops).elim
    rw [← world.beginWatch_target]
    exact hstopped
  | _ => exact (hstays id hstops).elim

end Dialogue

theorem Action.marksSeen_refreshed (outcome : Except Error Unit × Session) :
    (refreshed outcome).MarksSeen False := by
  rcases outcome with ⟨_ | _, _⟩ <;> trivial

theorem Action.marksSeen_asking (session : Session) (request : Request) :
    (courseOfAsking session request).MarksSeen False :=
  marksSeen_exchanging fun _ => trivial

theorem Action.marksSeen_course (action : Action) (session : Session) :
    (action.course session).MarksSeen False := by
  cases action with
  | refresh move => exact marksSeen_refreshing marksSeen_refreshed
  | goto address =>
    simp only [course]
    split
    · trivial
    · exact marksSeen_refreshing marksSeen_refreshed
  | pauseOrResume =>
    intro target
    dsimp only
    split
    · intro sent
      rcases sent with cause | _
      · trivial
      · exact ⟨fun _ stopped => (by cases stopped), fun _ stopped => stopped, fun _ => trivial⟩
    · intro sent
      rcases sent with cause | _
      · trivial
      · exact fun _ => trivial
  | step into =>
    intro target
    dsimp only
    split
    · refine ⟨fun cause => trivial, fun noise => MarksSeen.of_false ?_⟩
      refine ⟨fun _ stopped => stopped, marksSeen_refreshing fun outcome => ?_⟩
      rcases outcome with ⟨_ | _, _⟩ <;> trivial
    · trivial
  | askRaw text => exact marksSeen_asking session _
  | loadMemory path address => exact marksSeen_asking session _
  | saveMemory path address length => exact marksSeen_asking session _
  | setFocus view =>
    simp only [course, courseOfFocus]
    split
    · trivial
    · exact ⟨fun _ stopped => stopped, trivial⟩
  | setActiveViews views => trivial
  | setLines lines => trivial
  | setFollowPc followPc => trivial

/-! ## Sights -/

/-- The lines that a reader has seen: those that were there when the target was last let go, and
those that came since. -/
structure Sight where
  old : List String := []
  new : List String := []

namespace Sight

/-- The lines of a sight, in the order in which they were read. -/
def lines (sight : Sight) : List String :=
  sight.old ++ sight.new

/-- Whether a sight shows a stop. -/
def shows (sight : Sight) : Bool :=
  stopsFrom false sight.lines

/-- Whether a stop marker that came since stands outside every block. -/
def ShowsNew (sight : Sight) : Prop :=
  ∃ front marker back, sight.new = front ++ marker :: back ∧ isStopMarker marker = true ∧
    insideAfterAll false (sight.old ++ front) = false

/-- What a sight is once the target is let go again. -/
def aged (sight : Sight) : Sight where
  old := sight.lines

/-- The sight without the stop markers from before. -/
def withoutOldMarkers (sight : Sight) : Sight :=
  { sight with old := sight.old.filter fun line => !isStopMarker line }

/-- What a reader sees that took some items, the first of which are old, and keeps some of their
lines. -/
def ofItems (keeps : String → Bool) (leftover : Nat) (items : List Item) : Sight where
  old := (linesOf (items.take leftover)).filter keeps
  new := (linesOf (items.drop leftover)).filter keeps

theorem showsNew_iff (sight : Sight) :
    sight.ShowsNew ↔ stopsFrom (insideAfterAll false sight.old) sight.new = true := by
  rw [stopsFrom_iff]
  simp only [ShowsNew, insideAfterAll_append]

instance (sight : Sight) : Decidable sight.ShowsNew :=
  decidable_of_iff _ sight.showsNew_iff.symm

/-- A sight shows a stop if a marker from before does, or one that came since. -/
theorem shows_iff (sight : Sight) :
    sight.shows = true ↔ stopsFrom false sight.old = true ∨ sight.ShowsNew := by
  rw [showsNew_iff, shows, lines, stopsFrom_append, Bool.or_eq_true]

@[simp] theorem shows_aged (sight : Sight) : sight.aged.shows = sight.shows := by
  simp [shows, aged, lines]

@[simp] theorem lines_ofItems (keeps : String → Bool) (leftover : Nat) (items : List Item) :
    (ofItems keeps leftover items).lines = (linesOf items).filter keeps := by
  rw [lines, ofItems, ← List.filter_append, ← linesOf_append, List.take_append_drop]

/-- A stop is owed to a marker that came since exactly if the markers from before could be left
out. -/
theorem showsNew_iff_withoutOldMarkers (sight : Sight) :
    sight.ShowsNew ↔ sight.withoutOldMarkers.shows = true := by
  have hnone : stopsFrom false sight.withoutOldMarkers.old = false := by
    refine stopsFrom_of_no_marker (fun line hline => ?_) false
    simpa using (List.mem_filter.mp hline).2
  rw [shows_iff, hnone, showsNew_iff, showsNew_iff]
  simp [withoutOldMarkers, insideAfterAll_filter_markers]

theorem showsNew_of_no_old_marker {sight : Sight} (h : sight.shows = true)
    (hnone : ∀ line ∈ sight.old, isStopMarker line = false) : sight.ShowsNew := by
  rcases sight.shows_iff.mp h with hold | hnew
  · rw [stopsFrom_of_no_marker hnone] at hold
    cases hold
  · exact hnew

end Sight

/-! ## The books of a run -/

section

variable [Peer σ]

/-- Whether a step sends the request that lets the target go. -/
def Dialogue.sendsResume : Dialogue α → World σ → Bool
  | send lines _, world =>
    lines == [Request.resume.line] && (world.channel.sendAll lines).1.isOk
  | _, _ => false

/-- The items that a step takes off the queue. -/
def Dialogue.taken : Dialogue α → World σ → List Item
  | converse lines awaited limit _, world =>
    itemsTaken (world.channel.sendAll lines).2.queue
      (world.channel.converse lines awaited limit).2.queue
  | _, _ => []

/-- The items that a step of a watcher takes off the queue. -/
def WatchStage.taken : WatchStage → World σ → List Item
  | polling, world => itemsTaken world.channel.queue world.channel.drain.2.queue
  | _, _ => []

/-- Whether the request that lets the target go is sent at a moment. -/
def Moment.sendsResume (moment : Moment σ) : Bool :=
  match moment.turn, moment.before.task with
  | .proceed _, some task => task.rest.sendsResume moment.before.world
  | _, _ => false

/-- The items that are taken off the queue at a moment. -/
def Moment.taken (moment : Moment σ) : List Item :=
  match moment.turn with
  | .proceed _ => moment.before.task.elim [] fun task => task.rest.taken moment.before.world
  | .watch index =>
    moment.before.watchers[index]?.elim [] fun stage => stage.taken moment.before.world
  | _ => []

end

/-- What is kept of a run: how many items at the front of the queue were there when the target was
last let go, and what the session saw in the reply that it took last, and each watcher at its last
poll. -/
structure Ledger where
  leftover : Nat := 0
  session : Sight := {}
  watchers : Nat → Sight := fun _ => {}

namespace Ledger

variable [Peer σ]

/-- The ledger behind a resume: all that is queued and all that was seen is old. -/
def aged (ledger : Ledger) (queued : Nat) : Ledger where
  leftover := queued
  session := ledger.session.aged
  watchers index := (ledger.watchers index).aged

/-- The ledger behind a step of the session. A read that fails shows nothing. -/
def behindStep (ledger : Ledger) (dialogue : Dialogue α) (world : World σ) : Ledger :=
  match dialogue with
  | .send _ _ =>
    if dialogue.sendsResume world then ledger.aged world.channel.queue.length else ledger
  | .converse lines awaited limit _ =>
    let taken := dialogue.taken world
    { ledger with
      leftover := ledger.leftover - taken.length
      session := match (world.channel.converse lines awaited limit).1 with
        | .ok _ => .ofItems (awaited.sight · = .ordinary) ledger.leftover taken
        | .error _ => {} }
  | _ => ledger

/-- The ledger behind a step of a watcher. -/
def behindWatch (ledger : Ledger) (index : Nat) (stage : WatchStage) (world : World σ) : Ledger :=
  match stage with
  | .polling =>
    let taken := stage.taken world
    { ledger with
      leftover := ledger.leftover - taken.length
      watchers := Function.update ledger.watchers index <|
        match world.channel.drain.1 with
        | .ok _ => .ofItems (fun _ => true) ledger.leftover taken
        | .error _ => {} }
  | _ => ledger

/-- The ledger behind a moment. -/
def behind (ledger : Ledger) (moment : Moment σ) : Ledger :=
  match moment.turn with
  | .proceed _ =>
    moment.before.task.elim ledger fun task => ledger.behindStep task.rest moment.before.world
  | .watch index =>
    moment.before.watchers[index]?.elim ledger fun stage =>
      ledger.behindWatch index stage moment.before.world
  | .begin _ | .arrive _ _ => ledger

/-- The ledger of a run. -/
def ofMoments (moments : List (Moment σ)) : Ledger :=
  moments.foldl behind {}

/-- What the one has seen who acts at a moment. -/
def sightAt (ledger : Ledger) (moment : Moment σ) : Sight :=
  match moment.turn with
  | .watch index => ledger.watchers index
  | _ => ledger.session

/-- Whether what is marked along a run stands on sights of some kind: the session marks only on the
reply that it took last, and a watcher that is about to mark on what it drained last. -/
structure Fits (p : Sight → Prop) (ledger : Ledger) (scene : Scene σ) : Prop where
  session : ∀ task, scene.task = some task → task.rest.MarksSeen (p ledger.session)
  watchers : ∀ index : Nat, scene.watchers[index]? = some .marking → p (ledger.watchers index)

end Ledger

/-! ## What a step takes -/

section

variable [Peer σ]

theorem Dialogue.exists_added (dialogue : Dialogue α) (world : World σ) :
    ∃ added, world.channel.queue ++ added =
      dialogue.taken world ++ (dialogue.advance world).2.channel.queue := by
  cases dialogue with
  | send lines next =>
    obtain ⟨added, hadded⟩ := world.channel.exists_added_of_sendAll lines
    exact ⟨added, hadded.symm⟩
  | converse lines awaited limit next =>
    obtain ⟨added, hadded⟩ := world.channel.exists_added_of_sendAll lines
    obtain ⟨taken, htaken⟩ := world.channel.exists_taken_of_converse lines awaited limit
    refine ⟨added, ?_⟩
    show _ = itemsTaken _ _ ++ _
    rw [← hadded, htaken, itemsTaken_append]
    rfl
  | beginWatch next =>
    refine ⟨[], ?_⟩
    show world.channel.queue ++ [] = world.beginWatch.2.channel.queue
    unfold World.beginWatch
    split <;> exact List.append_nil _
  | _ => exact ⟨[], List.append_nil _⟩

omit [Peer σ] in
theorem WatchStage.queue_eq (stage : WatchStage) (world : World σ) :
    world.channel.queue = stage.taken world ++ (stage.step world).2.channel.queue := by
  cases stage with
  | polling =>
    obtain ⟨taken, htaken⟩ := world.channel.exists_taken_of_drain
    show _ = itemsTaken world.channel.queue world.channel.drain.2.queue ++
      world.channel.drain.2.queue
    rw [htaken, itemsTaken_append]
  | _ => rfl

/-- What is known of the target changes at a step of the session, or where a watcher marks. -/
theorem Moment.target_cases (moment : Moment σ) :
    moment.after.world.target = moment.before.world.target ∨
    (∃ task spawns, moment.turn = .proceed spawns ∧ moment.before.task = some task ∧
      moment.after.world.target = (task.rest.advance moment.before.world).2.target) ∨
    ∃ index, moment.turn = .watch index ∧ moment.before.watchers[index]? = some .marking := by
  obtain ⟨before, turn⟩ := moment
  cases turn with
  | begin action => exact .inl (congrArg World.target (Scene.begin_world before action))
  | proceed spawns =>
    show (before.proceed spawns).world.target = _ ∨ (∃ task spawns', _ ∧ _ ∧
      (before.proceed spawns).world.target = _) ∨ _
    unfold Scene.proceed
    cases htask : before.task with
    | none => exact .inl rfl
    | some task =>
      dsimp only
      cases task.rest.result? with
      | some outcome => exact .inl rfl
      | none => exact .inr (.inl ⟨task, spawns, rfl, rfl, Scene.carryOn_target before task spawns⟩)
  | watch index =>
    show (before.watch index).world.target = _ ∨ _
    unfold Scene.watch
    cases hstage : before.watchers[index]? with
    | none => exact .inl rfl
    | some stage =>
      cases stage with
      | marking => exact .inr (.inr ⟨index, rfl, hstage⟩)
      | _ => exact .inl rfl
  | arrive items closes => exact .inl rfl

theorem Scene.marking_of_carryOn {scene : Scene σ} {task : Task} {spawns : Bool} {index : Nat}
    (h : (scene.carryOn task spawns).watchers[index]? = some .marking) :
    scene.watchers[index]? = some .marking := by
  unfold Scene.carryOn at h
  dsimp only at h
  split at h
  · rw [List.getElem?_append] at h
    split at h
    · exact h
    · -- the new watcher is not that far
      cases List.mem_singleton.mp (List.mem_of_getElem? h)
  · exact h

/-- Along a run items are taken from the front of the queue and added behind it. -/
theorem Moment.exists_added (moment : Moment σ) :
    ∃ added, moment.before.world.channel.queue ++ added =
      moment.taken ++ moment.after.world.channel.queue := by
  obtain ⟨before, turn⟩ := moment
  cases turn with
  | begin action =>
    refine ⟨[], ?_⟩
    show before.world.channel.queue ++ [] = (before.begin action).world.channel.queue
    rw [Scene.begin_world, List.append_nil]
  | proceed spawns =>
    show ∃ added, _ = before.task.elim [] _ ++ (before.proceed spawns).world.channel.queue
    unfold Scene.proceed
    cases htask : before.task with
    | none => exact ⟨[], List.append_nil _⟩
    | some task =>
      obtain ⟨added, hadded⟩ := task.rest.exists_added before.world
      refine ⟨added, hadded.trans (congrArg _ ?_)⟩
      dsimp only
      cases hresult : task.rest.result? with
      | some outcome =>
        rw [eq_done_of_result hresult]
        rfl
      | none =>
        dsimp only [Scene.carryOn]
        split <;> rfl
  | watch index =>
    show ∃ added, _ = before.watchers[index]?.elim [] _ ++ (before.watch index).world.channel.queue
    unfold Scene.watch
    cases before.watchers[index]? with
    | none => exact ⟨[], List.append_nil _⟩
    | some stage => exact ⟨[], (List.append_nil _).trans (stage.queue_eq before.world)⟩
  | arrive items closes => exact ⟨items, rfl⟩

end

/-! ## The books balance -/

namespace Ledger

variable [Peer σ] {p : Sight → Prop} {ledger : Ledger}

/-- What the session marks on behind a step is what the step let it see. -/
theorem marksSeen_advance {dialogue : Dialogue α} {world : World σ}
    (h : dialogue.MarksSeen (p ledger.session))
    (hread : ∀ keeps, (Sight.ofItems keeps ledger.leftover (dialogue.taken world)).shows = true →
      p (.ofItems keeps ledger.leftover (dialogue.taken world))) :
    (dialogue.advance world).1.MarksSeen (p (ledger.behindStep dialogue world).session) := by
  cases dialogue with
  | converse lines awaited limit next =>
    show (next (world.channel.converse lines awaited limit).1).MarksSeen
      (p (match (world.channel.converse lines awaited limit).1 with
        | .ok _ => .ofItems (awaited.sight · = .ordinary) ledger.leftover
          ((Dialogue.converse lines awaited limit next).taken world)
        | .error _ => {}))
    rcases hconverse : world.channel.converse lines awaited limit with ⟨cause | reply, after⟩
    · exact (h.1 cause).of_false
    · refine (h.2 reply).mono fun hstop => hread _ ?_
      obtain ⟨front, last, htaken, -, -, rfl⟩ := Channel.converse_of_ok hconverse
      rw [Sight.shows, Sight.lines_ofItems]
      show stopsFrom false ((linesOf (itemsTaken _ _)).filter _) = true
      rw [hconverse, htaken]
      exact hstop
  | done result => trivial
  | changeTarget change next => exact MarksSeen.of_false h.2
  | markStopped next => exact MarksSeen.of_false (h.2 _)
  | announceStop next => exact MarksSeen.of_false h
  | _ => exact MarksSeen.of_false (h _)

/-- A step of the session lets no watcher see anything, though what one saw may become old. -/
theorem watchers_behindStep {dialogue : Dialogue α} {world : World σ} {index : Nat}
    (h : p (ledger.watchers index))
    (haged : dialogue.sendsResume world = true → ∀ sight, p sight → p sight.aged) :
    p ((ledger.behindStep dialogue world).watchers index) := by
  cases dialogue with
  | send lines next =>
    simp only [behindStep]
    split
    · exact haged ‹_› _ h
    · exact h
  | _ => exact h

omit [Peer σ] in
/-- A watcher that is about to mark has just drained lines that show a stop. -/
theorem watchers_behindWatch_self {stage : WatchStage} {world : World σ} {index : Nat}
    (hstage : (stage.step world).1 = .marking)
    (hread : ∀ keeps, (Sight.ofItems keeps ledger.leftover (stage.taken world)).shows = true →
      p (.ofItems keeps ledger.leftover (stage.taken world))) :
    p ((ledger.behindWatch index stage world).watchers index) := by
  cases stage with
  | polling =>
    simp only [behindWatch, Function.update_self]
    replace hstage : WatchStage.behindPoll world.channel.drain.1 = .marking := hstage
    rcases hdrain : world.channel.drain with ⟨cause | lines, after⟩
    · rw [hdrain] at hstage
      cases hstage
    · rw [hdrain] at hstage
      refine hread _ ?_
      have hlines : linesOf (WatchStage.polling.taken world) = lines := by
        rw [← Channel.linesTaken_of_drain hdrain]
        show linesOf (itemsTaken world.channel.queue world.channel.drain.2.queue) = _
        rw [hdrain]
        rfl
      rw [Sight.shows, Sight.lines_ofItems, List.filter_true, hlines, ← WatchStage.showsStop_eq]
      exact WatchStage.showsStop_of_behindPoll hstage
  | checking =>
    replace hstage : (if world.target.stopped then WatchStage.ended else .polling) = .marking :=
      hstage
    split at hstage <;> cases hstage
  | marking =>
    replace hstage : (if !world.target.stopped then WatchStage.announcing else .checking) =
      .marking := hstage
    split at hstage <;> cases hstage
  | _ => cases hstage

omit [Peer σ] in
theorem watchers_behindWatch_of_ne {stage : WatchStage} {world : World σ} {acting index : Nat}
    (hne : index ≠ acting) :
    (ledger.behindWatch acting stage world).watchers index = ledger.watchers index := by
  cases stage with
  | polling => exact Function.update_of_ne hne _ _
  | _ => rfl

omit [Peer σ] in
theorem session_behindWatch (stage : WatchStage) (world : World σ) (index : Nat) :
    (ledger.behindWatch index stage world).session = ledger.session := by
  cases stage <;> rfl

/-- Whoever stops a running target has seen what its mark stands on. -/
theorem Fits.of_stops {moment : Moment σ} (h : ledger.Fits p moment.before)
    (hstops : moment.stops = true) : p (ledger.sightAt moment) := by
  unfold Moment.stops at hstops
  rcases moment.target_cases with hsame | ⟨task, spawns, hturn, htask, hafter⟩ |
    ⟨index, hturn, hstage⟩
  · rw [hsame, TargetState.stopsInto_self] at hstops
    cases hstops
  · rw [hafter] at hstops
    unfold sightAt
    rw [hturn]
    exact (h.session task htask).of_stopsInto hstops
  · unfold sightAt
    rw [hturn]
    exact h.watchers index hstage

/-- The books balance behind a turn as they did before it, if what has been seen may age where the
target is let go, and what is read may be marked on where it shows a stop. -/
theorem Fits.behind {scene : Scene σ} (h : ledger.Fits p scene) (turn : Turn)
    (haged : (Moment.mk scene turn).sendsResume = true → ∀ sight, p sight → p sight.aged)
    (hread : ∀ keeps,
      (Sight.ofItems keeps ledger.leftover (Moment.mk scene turn).taken).shows = true →
      p (.ofItems keeps ledger.leftover (Moment.mk scene turn).taken)) :
    (ledger.behind ⟨scene, turn⟩).Fits p (scene.after turn) := by
  cases turn with
  | begin action =>
    refine ⟨fun task htask => ?_, fun index hindex => h.watchers index ?_⟩
    · replace htask : (scene.begin action).task = some task := htask
      unfold Scene.begin at htask
      cases hbefore : scene.task with
      | some other =>
        rw [hbefore] at htask
        exact h.session task htask
      | none =>
        rw [hbefore] at htask
        cases htask
        rw [Action.dialogue_operation]
        exact (action.marksSeen_course scene.session).of_false
    · replace hindex : (scene.begin action).watchers[index]? = some .marking := hindex
      unfold Scene.begin at hindex
      cases hbefore : scene.task <;> rw [hbefore] at hindex <;> exact hindex
  | proceed spawns =>
    show (scene.task.elim ledger _).Fits p (scene.proceed spawns)
    unfold Scene.proceed
    cases htask : scene.task with
    | none => exact h
    | some task =>
      have hsession := h.session task htask
      dsimp only [Option.elim_some]
      cases hresult : task.rest.result? with
      | some outcome =>
        rw [eq_done_of_result hresult]
        exact ⟨nofun, h.watchers⟩
      | none =>
        have htaken : (Moment.mk scene (.proceed spawns)).taken = task.rest.taken scene.world := by
          simp only [Moment.taken, htask, Option.elim_some]
        rw [htaken] at hread
        refine ⟨?_, fun index hindex => ?_⟩
        · rintro _ ⟨⟩
          exact marksSeen_advance hsession hread
        · refine watchers_behindStep (h.watchers index ?_) fun hresume => haged ?_
          · exact Scene.marking_of_carryOn hindex
          · simpa only [Moment.sendsResume, htask] using hresume
  | watch index =>
    show (scene.watchers[index]?.elim ledger _).Fits p (scene.watch index)
    unfold Scene.watch
    cases hstage : scene.watchers[index]? with
    | none => exact h
    | some stage =>
      have htaken : (Moment.mk scene (.watch index)).taken = stage.taken scene.world := by
        simp only [Moment.taken, hstage, Option.elim_some]
      rw [htaken] at hread
      dsimp only [Option.elim_some]
      refine ⟨fun task htask => ?_, fun other hother => ?_⟩
      · rw [session_behindWatch]
        exact h.session task htask
      · by_cases hsame : other = index
        · subst hsame
          have hlength := (List.getElem?_eq_some_iff.mp hstage).1
          rw [List.getElem?_set_self hlength, Option.some.injEq] at hother
          exact watchers_behindWatch_self hother hread
        · rw [List.getElem?_set_ne (Ne.symm hsame)] at hother
          rw [watchers_behindWatch_of_ne hsame]
          exact h.watchers other hother
  | arrive items closes => exact ⟨h.session, h.watchers⟩

end Ledger

end RemoteDebug
