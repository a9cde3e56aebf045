import Mathlib.Tactic.MkIffOfInductiveProp
import RemoteDebug.Proofs.Interleaving.Stops
import RemoteDebug.Proofs.Session.Planning
import RemoteDebug.Simulator.Machine

/-!
# Where a refresh looks behind a stop

A refresh looks where the one before it looked, and follows the program counter if that address was
forgotten. It is forgotten when the target is let go, if the program counter is followed at that
time; whether it is followed when the target stops makes no difference. `keptAddress` reads off a
history what address is kept (`keepsAddress_play`), and so a first refresh behind a stop follows
the program counter exactly if nothing was kept that starts elsewhere.
-/

namespace RemoteDebug

open RemoteDebug.Decode RemoteDebug.Wire Dialogue

variable {σ : Type}

/-! ## Where a window starts -/

/-- Where the focused view starts to show an address, without a move: at the first address of its
window, or at the address itself if it has no window. -/
def Session.startAt (session : Session) (address : Nat) : Nat :=
  match session.focus.window? { first := address } .stay session.settings.lines with
  | .ok (some window) => window.first
  | _ => address

/-- Whether the position starts where the focused view starts to show an address. -/
def Scene.IsAnchoredAt (scene : Scene σ) (address : Nat) : Prop :=
  scene.world.target.first = some (scene.session.startAt address)

/-- The program counter that a status reply tells. -/
def counterTold? (status : List String) : Option Nat :=
  ((splitReply status).block? .status).bind fun block => (programCounter block).toOption

/-- A window without a move depends on the first address alone. -/
theorem View.window?_of_isStay (view : View) (cursor : Cursor) {move : Move}
    (h : move.isStay = true) (lines : Nat) :
    view.window? cursor move lines = view.window? { first := cursor.first } .stay lines := by
  obtain ⟨magnitude, direction⟩ := move
  obtain rfl : magnitude = .zero := by simpa [Move.isStay] using h
  cases view with
  | registers => rfl
  | memory =>
    cases direction <;>
      simp [View.window?, memoryWindow, Move.stay, Magnitude.memoryOffset]
  | disassembly =>
    cases direction <;>
      simp [View.window?, disassemblyWindow, disassemblyRange, Move.stay, Magnitude.disassemblyOffset]

theorem anchor_first {target : TargetState} {status : List String} {counter : Nat} {cursor : Cursor}
    (hcounter : counterTold? status = some counter)
    (hcursor : anchor target ((splitReply status).block? .status) none = .ok cursor) :
    cursor.first = target.first.getD counter := by
  obtain ⟨block, hblock, hprogram⟩ := Option.bind_eq_some_iff.mp hcounter
  unfold anchor at hcursor
  cases hfirst : target.first with
  | some first =>
    rw [hfirst] at hcursor
    cases hcursor
    rfl
  | none =>
    rw [hfirst, hblock] at hcursor
    dsimp only at hcursor
    cases hresult : programCounter block with
    | error cause =>
      rw [hresult] at hprogram
      cases hprogram
    | ok address =>
      rw [hresult] at hprogram hcursor
      cases hprogram
      cases hcursor
      rfl

namespace Session

variable {session : Session}

theorem of_plan {target : TargetState} {status : List String} {address : Option Nat} {move : Move}
    {plan : Cursor × PerView (Option Window)}
    (h : session.plan target status address move = .ok plan) :
    anchor target ((splitReply status).block? .status) address = .ok plan.1 ∧
      session.plannedWindows plan.1 move = .ok plan.2 := by
  obtain ⟨cursor, hcursor, h⟩ := ok_of_bind h
  obtain ⟨windows, hwindows, rfl⟩ := ok_of_map h
  exact ⟨hcursor, hwindows⟩

/-- The window of the focused view is the one that the move leads to. -/
theorem focusedWindow_of_plan {target : TargetState} {status : List String} {address : Option Nat}
    {move : Move} {plan : Cursor × PerView (Option Window)}
    (hfocus : session.views.get session.focus = true)
    (hplan : session.plan target status address move = .ok plan) :
    session.focus.window? plan.1 move session.settings.lines =
      .ok (plan.2.get session.focus) := by
  have hwindow := plannedWindow_of_plannedWindows (of_plan hplan).2 session.focus
  unfold plannedWindow at hwindow
  rwa [if_pos hfocus, if_pos rfl] at hwindow

/-- Where a refresh without a move goes: to where the focused view starts to show the kept address,
or else the program counter. -/
theorem position_first {target : TargetState} {status views : List String} {counter : Nat}
    {move : Move} {plan : Cursor × PerView (Option Window)}
    (hfocus : session.views.get session.focus = true) (hmove : move.isStay = true)
    (hcounter : counterTold? status = some counter)
    (hplan : session.plan target status none move = .ok plan) :
    ((session.findingIn plan views).position session).first =
      session.startAt (target.first.getD counter) := by
  have hwindow := focusedWindow_of_plan hfocus hplan
  rw [View.window?_of_isStay _ _ hmove] at hwindow
  rw [Finding.position, findingIn, positionAfter_first,
    ← anchor_first hcounter (of_plan hplan).1, startAt, hwindow]
  cases plan.2.get session.focus <;> rfl

end Session

/-! ## What a history keeps -/

namespace Action

/-- Whether an action that ended has refreshed the views. -/
def hasRefreshed (action : Action) (outcome : Except Error (List String) × Session)
    (replies : List (List String)) : Bool :=
  action.needsStopped && outcome.1.isOk && !replies.isEmpty

/-- An action that fails has not refreshed the views. -/
theorem hasRefreshed_failed (action : Action) (cause : Error) (session : Session)
    (replies : List (List String)) :
    action.hasRefreshed (.error cause, session) replies = false := by
  unfold hasRefreshed
  rw [show (Except.error cause : Except Error (List String)).isOk = false from rfl, Bool.and_false,
    Bool.false_and]

/-- Whether an action that ended has let the target go, to run or to be stepped. -/
def hasLetGo (action : Action) (outcome : Except Error (List String) × Session)
    (replies : List (List String)) : Bool :=
  match action with
  | .pauseOrResume => outcome.1.isOk && outcome.2.phase == .running
  | .step _ => !replies.isEmpty
  | _ => false

/-- The program counter that a refresh without a move has been told. -/
def counterToldBy? (action : Action) (replies : List (List String)) : Option Nat :=
  match action, replies with
  | .refresh move, status :: _ => if move.isStay then counterTold? status else none
  | _, _ => none

end Action

namespace Moment

variable [Peer σ]

/-- Whether an action ends that has refreshed the views. -/
def refreshes (moment : Moment σ) : Bool :=
  moment.ending?.any fun (task, outcome) => task.action.hasRefreshed outcome task.replies

/-- Whether an action ends that has let the target go while the program counter was followed. -/
def forgets (moment : Moment σ) : Bool :=
  moment.before.session.settings.followPc &&
    moment.ending?.any fun (task, outcome) => task.action.hasLetGo outcome task.replies

/-- The program counter that a refresh without a move has been told, where it succeeds. -/
def refreshedWith? (moment : Moment σ) : Option Nat :=
  moment.ending?.bind fun (task, outcome) =>
    if task.action.hasRefreshed outcome task.replies then task.action.counterToldBy? task.replies
    else none

/-- The address that is kept behind a moment. -/
def keptAfter (kept : Option Nat) (moment : Moment σ) : Option Nat :=
  if moment.refreshes then moment.after.world.target.first
  else if moment.forgets then none
  else kept

end Moment

/-- The address that a history keeps: that of the last refresh, unless the target was let go since
then while the program counter was followed. -/
def keptAddress [Peer σ] (history : List (Moment σ)) : Option Nat :=
  history.foldl Moment.keptAfter none

section

variable [Peer σ]

/-- Behind a history without a refresh, what the target was let go with has been forgotten. -/
theorem keptAddress_append {early later : List (Moment σ)}
    (h : ∀ moment ∈ later, moment.refreshes = false) :
    keptAddress (early ++ later) = if later.any Moment.forgets then none else keptAddress early := by
  unfold keptAddress
  rw [List.foldl_append]
  generalize early.foldl Moment.keptAfter none = kept
  induction later generalizing kept with
  | nil => rfl
  | cons moment rest ih =>
    obtain ⟨hmoment, hrest⟩ := List.forall_mem_cons.mp h
    rw [List.foldl_cons, ih hrest, Moment.keptAfter, hmoment, List.any_cons]
    cases moment.forgets <;> cases rest.any Moment.forgets <;> rfl

end

/-! ## What an action does to the kept address -/

namespace Action

/-- What an action promises of the address that is kept when it begins: a refresh without a move
goes to where the focused view starts to show it; an action that refreshes nothing leaves it alone
unless it lets the target go. -/
def anchoring (session : Session) (kept : Option Nat) (action : Action) :
    Promise (Except Error (List String) × Session) where
  changes _ _ _ := True
  ends outcome replies target :=
    outcome.2.views.get outcome.2.focus = true ∧
    if action.hasRefreshed outcome replies then
      ∀ counter, action.counterToldBy? replies = some counter →
        target.first = some (outcome.2.startAt (kept.getD counter))
    else
      target.first =
        if session.settings.followPc && action.hasLetGo outcome replies then none else kept

variable {session : Session} {kept : Option Nat} {target : TargetState}

theorem keeps_anchoring_refresh (move : Move) (hfocus : session.views.get session.focus = true)
    (hkept : target.first = kept) :
    ((refresh move).course session).Keeps (anchoring session kept (.refresh move)) [] target := by
  refine keeps_refreshing (fun _ _ => trivial) ?_ ?_
  · intro cause now more hnow later hlater
    refine ⟨hfocus, ?_⟩
    show later.first = if session.settings.followPc && false then none else kept
    rw [Bool.and_false, hlater.position.1, hnow.position.1]
    exact hkept
  · intro now status plan views hnow _ hplan
    refine ⟨trivial, fun later hlater => ⟨hfocus, ?_⟩⟩
    show ∀ counter, (refresh move).counterToldBy? [status, views] = some counter → _
    intro counter hcounter
    obtain ⟨hmove, htold⟩ := Option.ite_none_right_eq_some.mp hcounter
    rw [hlater.position.1, ← hkept, ← hnow.position.1]
    exact congrArg some (Session.position_first hfocus hmove htold hplan)

/-- An action that neither refreshes nor lets the target go keeps the address. -/
theorem keeps_anchoring_done {action : Action} {outcome : Except Error (List String) × Session}
    {replies : List (List String)} (hfocus : outcome.2.views.get outcome.2.focus = true)
    (hrefreshed : action.hasRefreshed outcome replies = false)
    (hletGo : action.hasLetGo outcome replies = false) (hkept : target.first = kept) :
    (done outcome).Keeps (anchoring session kept action) replies target := by
  intro now hnow
  refine ⟨hfocus, ?_⟩
  rw [hrefreshed, hletGo, if_neg Bool.false_ne_true, Bool.and_false, if_neg Bool.false_ne_true,
    hnow.position.1]
  exact hkept

theorem keeps_anchoring_goto (address : Nat) (hfocus : session.views.get session.focus = true)
    (hkept : target.first = kept) :
    ((goto address).course session).Keeps (anchoring session kept (.goto address)) [] target := by
  simp only [course]
  split
  · exact keeps_anchoring_done hfocus rfl rfl hkept
  · refine keeps_refreshing (fun _ _ => trivial) ?_ ?_
    · intro cause now more hnow
      exact keeps_anchoring_done hfocus rfl rfl (hnow.position.1.trans hkept)
    · intro now status plan views _ _ _
      exact ⟨trivial, fun _ _ => ⟨hfocus, fun counter hcounter => by cases hcounter⟩⟩

theorem keeps_anchoring_pauseOrResume (hfocus : session.views.get session.focus = true)
    (hkept : target.first = kept) :
    (pauseOrResume.course session).Keeps (anchoring session kept .pauseOrResume) [] target := by
  intro now hnow
  have hkeptNow : now.first = kept := hnow.position.1.trans hkept
  dsimp only
  split
  · intro sent
    rcases sent with cause | _
    · exact keeps_anchoring_done hfocus rfl rfl hkeptNow
    · refine fun gone hgone => ⟨trivial, fun cleared hcleared => ⟨trivial, fun started later hlater =>
        ⟨hfocus, ?_⟩⟩⟩
      -- the change to running keeps the address; clearing the position drops it or does not
      show later.first = if session.settings.followPc && true then none else kept
      rw [hlater.position.1]
      show (if session.settings.followPc then none else cleared.first) = _
      rw [Bool.and_true, hcleared.position.1]
      show (if session.settings.followPc then none else gone.first) = _
      rw [hgone.position.1, hkeptNow]
  · intro sent
    rcases sent with cause | _
    · exact keeps_anchoring_done hfocus rfl rfl hkeptNow
    · exact fun started => keeps_anchoring_done hfocus rfl rfl hkeptNow

theorem keeps_anchoring_step (into : Bool) (hfocus : session.views.get session.focus = true)
    (hkept : target.first = kept) :
    ((step into).course session).Keeps (anchoring session kept (.step into)) [] target := by
  intro now hnow
  have hkeptNow : now.first = kept := hnow.position.1.trans hkept
  dsimp only
  split
  · intro noise
    rcases noise with cause | noise
    · exact keeps_anchoring_done hfocus rfl rfl hkeptNow
    · refine fun halted hhalted => ⟨trivial, keeps_refreshing (fun _ _ => trivial) ?_ ?_⟩
      · intro cause now more hnow later hlater
        refine ⟨hfocus, ?_⟩
        show later.first = if session.settings.followPc && true then none else kept
        rw [hlater.position.1, hnow.position.1]
        show (if session.settings.followPc then none else halted.first) = _
        rw [Bool.and_true, hhalted.position.1, hkeptNow]
      · intro now status plan views _ _ _
        exact ⟨trivial, fun _ _ => ⟨hfocus, fun counter hcounter => by cases hcounter⟩⟩
  · exact keeps_anchoring_done hfocus rfl rfl hkeptNow

theorem keeps_anchoring_asking {action : Action} (request : Request)
    (hasks : action.needsStopped = false) (hstays : ∀ outcome replies,
      action.hasLetGo outcome replies = false)
    (hfocus : session.views.get session.focus = true) (hkept : target.first = kept) :
    (courseOfAsking session request).Keeps (anchoring session kept action) [] target := by
  have hrefreshed (outcome replies) : action.hasRefreshed outcome replies = false := by
    unfold hasRefreshed
    rw [hasks]
    rfl
  refine keeps_exchanging (fun _ _ => trivial) (fun cause => ?_) fun lines => ?_
  · exact keeps_anchoring_done hfocus (hrefreshed _ _) (hstays _ _) hkept
  · exact keeps_anchoring_done hfocus (hrefreshed _ _) (hstays _ _) hkept

theorem keeps_anchoring (action : Action) (hfocus : session.views.get session.focus = true)
    (hkept : target.first = kept) :
    (action.course session).Keeps (anchoring session kept action) [] target := by
  cases action with
  | refresh move => exact keeps_anchoring_refresh move hfocus hkept
  | goto address => exact keeps_anchoring_goto address hfocus hkept
  | pauseOrResume => exact keeps_anchoring_pauseOrResume hfocus hkept
  | step into => exact keeps_anchoring_step into hfocus hkept
  | askRaw text => exact keeps_anchoring_asking _ rfl (fun _ _ => rfl) hfocus hkept
  | loadMemory path address => exact keeps_anchoring_asking _ rfl (fun _ _ => rfl) hfocus hkept
  | saveMemory path address length =>
    exact keeps_anchoring_asking _ rfl (fun _ _ => rfl) hfocus hkept
  | setFocus view =>
    simp only [course, courseOfFocus]
    split
    · exact keeps_anchoring_done (PerView.get_set_of_get hfocus view) rfl rfl hkept
    · exact fun now hnow => ⟨trivial, keeps_anchoring_done (PerView.get_set_self _ view true) rfl rfl
        (hnow.position.1.trans hkept)⟩
  | setActiveViews views =>
    exact keeps_anchoring_done (PerView.get_ofList_cons session.focus views) rfl rfl hkept
  | setLines lines => exact keeps_anchoring_done hfocus rfl rfl hkept
  | setFollowPc followPc => exact keeps_anchoring_done hfocus rfl rfl hkept

end Action

/-! ## Whole runs -/

namespace Scene

variable [Peer σ]

/-- Between two actions, where the position starts, and during one, what the action makes of it. -/
def KeepsAddress (kept : Option Nat) (scene : Scene σ) : Prop :=
  scene.Meets
    (fun session target => session.views.get session.focus = true ∧ target.first = kept)
    fun session task target =>
      task.rest.Keeps (task.action.anchoring session kept) task.replies target

theorem anchoring_carried (kept : Option Nat) : Carried σ
    (fun session target => session.views.get session.focus = true ∧ target.first = kept)
    fun session task target =>
      task.rest.Keeps (task.action.anchoring session kept) task.replies target where
  begins := fun action h => action.keeps_anchoring h.1 h.2
  advances := Keeps.advance
  onward := fun hnow h => ⟨h.1, hnow.position.1.trans h.2⟩
  onwardDuring := fun hnow h => h.onward hnow

/-- Behind a moment, what is kept is what the moment leaves. -/
theorem KeepsAddress.after {kept : Option Nat} {scene : Scene σ} (h : scene.KeepsAddress kept)
    (turn : Turn) : (scene.after turn).KeepsAddress (Moment.keptAfter kept ⟨scene, turn⟩) := by
  cases hending : (Moment.mk scene turn).ending? with
  | none =>
    have hkept : Moment.keptAfter kept ⟨scene, turn⟩ = kept := by
      simp [Moment.keptAfter, Moment.refreshes, Moment.forgets, hending]
    rw [hkept]
    exact h.after_of_going (anchoring_carried kept) turn hending
  | some ending =>
    obtain ⟨task, outcome⟩ := ending
    obtain ⟨htask, hdone, hafter⟩ := Moment.of_ending hending
    have hkeeps := h.of_task htask
    rw [hdone] at hkeeps
    -- what the promise says of the end is what is kept
    obtain ⟨hfocus, haddress⟩ := hkeeps _ (.refl _)
    have hrefreshes : (Moment.mk scene turn).refreshes =
        task.action.hasRefreshed outcome task.replies := by
      unfold Moment.refreshes
      rw [hending]
      rfl
    have hforgets : (Moment.mk scene turn).forgets =
        (scene.session.settings.followPc && task.action.hasLetGo outcome task.replies) := by
      unfold Moment.forgets
      rw [hending]
      rfl
    have hworld : (Moment.mk scene turn).after.world = scene.world := by rw [hafter]
    rw [show scene.after turn = _ from hafter]
    refine ⟨hfocus, ?_⟩
    rw [Moment.keptAfter, hrefreshes, hforgets, hworld]
    cases hrefreshed : task.action.hasRefreshed outcome task.replies with
    | true => rfl
    | false =>
      rw [hrefreshed] at haddress
      exact haddress

/-- In every run, where the position starts is what its history keeps. -/
theorem keepsAddress_play (settings : Settings) (channel : Channel σ) (tokensTaken : Nat)
    (turns : List Turn) :
    ((opening settings channel tokensTaken).play turns).KeepsAddress
      (keptAddress ((opening settings channel tokensTaken).moments turns)) := by
  refine history_induction (fun history scene => scene.KeepsAddress (keptAddress history)) ?_ ?_
    turns
  · intro history scene turn h
    rw [keptAddress, List.foldl_append]
    exact h.after turn
  · exact ⟨rfl, rfl⟩

/-- A refresh without a move ends where the focused view starts to show what the history keeps, or
else the program counter. -/
theorem KeepsAddress.first_of_refreshedWith {kept : Option Nat} {scene : Scene σ}
    (h : scene.KeepsAddress kept) {turn : Turn} {counter : Nat}
    (hrefreshed : (Moment.mk scene turn).refreshedWith? = some counter) :
    (scene.after turn).IsAnchoredAt (kept.getD counter) := by
  obtain ⟨⟨task, outcome⟩, hending, hcounter⟩ := Option.bind_eq_some_iff.mp hrefreshed
  obtain ⟨hdid, htold⟩ := Option.ite_none_right_eq_some.mp hcounter
  obtain ⟨htask, hdone, hafter⟩ := Moment.of_ending hending
  have hkeeps := h.of_task htask
  rw [hdone] at hkeeps
  obtain ⟨-, haddress⟩ := hkeeps _ (.refl _)
  rw [if_pos hdid] at haddress
  rw [show scene.after turn = _ from hafter]
  exact haddress counter htold

end Scene

/-! ## Behind a stop -/

/-- A run in which the target stops while the program counter is followed, up to the first refresh
behind the stop: some turns, the turn that stops the target, turns without a refresh, and the turn at
which a refresh without a move succeeds that was told the program counter. -/
@[mk_iff] structure RefreshedBehindStop [Peer σ] (start : Scene σ) (early : List Turn) (stop : Turn)
    (later : List Turn) (last : Turn) (counter : Nat) : Prop where
  stops : (Moment.mk (start.play early) stop).stops = true
  follows : (start.play early).session.settings.followPc = true
  unrefreshed : ∀ moment ∈ ((start.play early).after stop).moments later, moment.refreshes = false
  refreshed : (Moment.mk (start.play (early ++ stop :: later)) last).refreshedWith? = some counter

instance [Peer σ] (start : Scene σ) (early : List Turn) (stop : Turn) (later : List Turn)
    (last : Turn) (counter : Nat) :
    Decidable (RefreshedBehindStop start early stop later last counter) :=
  decidable_of_iff _ (refreshedBehindStop_iff ..).symm

theorem Moment.ending_of_stops [Peer σ] {moment : Moment σ} (h : moment.stops = true) :
    moment.ending? = none := by
  cases hending : moment.ending? with
  | none => rfl
  | some ending =>
    obtain ⟨-, -, hafter⟩ := of_ending hending
    unfold stops at h
    rw [hafter, TargetState.stopsInto_self] at h
    cases h

/-- The first refresh behind a stop ends where the focused view starts to show the program counter
exactly if the target was let go behind the stop while the program counter was followed, or no
address was kept before the stop that the focused view starts to show elsewhere. -/
theorem follows_behind_stop_iff [Peer σ] {settings : Settings} {channel : Channel σ}
    {tokensTaken : Nat} {early later : List Turn} {stop last : Turn} {counter : Nat}
    (h : RefreshedBehindStop (.opening settings channel tokensTaken) early stop later last counter) :
    let start := Scene.opening settings channel tokensTaken
    let shown := (start.play (early ++ stop :: (later ++ [last]))).session
    (start.play (early ++ stop :: (later ++ [last]))).IsAnchoredAt counter ↔
      (∃ moment ∈ ((start.play early).after stop).moments later, moment.forgets = true) ∨
      ∀ kept, keptAddress (start.moments early) = some kept →
        shown.startAt kept = shown.startAt counter := by
  intro start shown
  have hscene : start.play (early ++ stop :: (later ++ [last])) =
      (start.play (early ++ stop :: later)).after last := by
    rw [← List.cons_append, ← List.append_assoc, Scene.play_append]
    rfl
  have hkept : keptAddress (start.moments (early ++ stop :: later)) =
      if (((start.play early).after stop).moments later).any Moment.forgets then none
      else keptAddress (start.moments early) := by
    -- no action ends at the turn that stops the target, so nothing is refreshed or forgotten there
    have hending := Moment.ending_of_stops h.stops
    have hstop : (Moment.mk (start.play early) stop).refreshes = false := by
      unfold Moment.refreshes
      rw [hending]
      rfl
    have hforgets : (Moment.mk (start.play early) stop).forgets = false := by
      unfold Moment.forgets
      rw [hending, Option.any_none, Bool.and_false]
    rw [Scene.moments_append, Scene.moments,
      keptAddress_append (List.forall_mem_cons.mpr ⟨hstop, h.unrefreshed⟩), List.any_cons, hforgets,
      Bool.false_or]
  have hanchored : ((start.play (early ++ stop :: later)).after last).IsAnchoredAt
      ((keptAddress (start.moments (early ++ stop :: later))).getD counter) :=
    (Scene.keepsAddress_play settings channel tokensTaken _).first_of_refreshedWith h.refreshed
  rw [← hscene, hkept] at hanchored
  have hiff (address : Nat) : shown.startAt ((if (((start.play early).after stop).moments later).any
      Moment.forgets then none else keptAddress (start.moments early)).getD counter) =
        shown.startAt address ↔
      (start.play (early ++ stop :: (later ++ [last]))).IsAnchoredAt address := by
    unfold Scene.IsAnchoredAt at hanchored ⊢
    rw [hanchored, Option.some.injEq]
  rw [← hiff, ← List.any_eq_true]
  cases (((start.play early).after stop).moments later).any Moment.forgets with
  | true => simp
  | false => cases keptAddress (start.moments early) <;> simp

/-- What a user does before the target stops: lets the session ask a running target to stop, and
goes to an address. -/
def goingTo (address : Nat) : List Turn :=
  .begin .pauseOrResume :: List.replicate 4 (.proceed true) ++ List.replicate 5 (.watch 0) ++
    .begin (.goto address) :: List.replicate 8 (.proceed true)

/-- A resume, and another stop, which is seen by a new watcher. -/
def runningOn : List Turn :=
  .begin .pauseOrResume :: List.replicate 6 (.proceed true) ++
    .arrive [.line "!break"] false :: List.replicate 2 (.watch 1)

/-- A refresh up to the turn at which it succeeds. -/
def untilRefreshed : List Turn :=
  .begin (.refresh .stay) :: List.replicate 7 (.proceed true)

/-- A target whose program counter is at 0x2000. -/
def haltingAt2000 : Channel Simulator.Link where
  peer := { machine := { pc := 0x2000 } }

theorem follows_behind_stop_of_following :
    RefreshedBehindStop (.opening {} haltingAt2000 0) (goingTo 0x5000 ++ runningOn) (.watch 1)
      untilRefreshed (.proceed true) 0x2000 ∧
    ((Scene.opening {} haltingAt2000 0).play (goingTo 0x5000 ++ runningOn ++ Turn.watch 1 ::
      (untilRefreshed ++ [Turn.proceed true]))).IsAnchoredAt 0x2000 := by
  have h : RefreshedBehindStop (.opening {} haltingAt2000 0) (goingTo 0x5000 ++ runningOn)
      (.watch 1) untilRefreshed (.proceed true) 0x2000 := by decide +kernel
  have hkept : keptAddress ((Scene.opening {} haltingAt2000 0).moments
      (goingTo 0x5000 ++ runningOn)) = none := by decide +kernel
  refine ⟨h, (follows_behind_stop_iff h).mpr (.inr ?_)⟩
  intro kept hother
  rw [hkept] at hother
  cases hother

/-- A target that is resumed while the program counter is not followed, and stops while it is, stays
where the user went. -/
theorem follows_too_late :
    let start := Scene.opening { followPc := false } haltingAt2000 0
    let early := goingTo 0x5000 ++ runningOn ++ [.begin (.setFollowPc true), .proceed true]
    RefreshedBehindStop start early (.watch 1) untilRefreshed (.proceed true) 0x2000 ∧
    let scene := start.play (early ++ Turn.watch 1 :: (untilRefreshed ++ [Turn.proceed true]))
    scene.session.startAt 0x2000 = 0x2000 ∧ scene.world.target.first = some 0x5000 := by
  decide +kernel

end RemoteDebug
