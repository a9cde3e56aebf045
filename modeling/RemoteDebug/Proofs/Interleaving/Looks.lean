import Mathlib.Tactic.MkIffOfInductiveProp
import RemoteDebug.Proofs.Interleaving.Continuations

/-!
# What a refresh leaves

A refresh looks at a cursor, asks for the windows there, and leaves the session and the position as
its windows and what the views showed make them (`Session.HasLooked`). No other action changes what
is displayed, unless it lets the target go or gives the focus to another view. So a `Display` stays
as it is along a run up to the next refresh (`Scene.KeepsDisplay`), and that is where the next
refresh looks (`Scene.KeepsDisplay.hasLooked`), whatever else was asked, failed or set in between.
-/

namespace RemoteDebug

open RemoteDebug.Decode RemoteDebug.Wire Dialogue

variable {σ : Type}

/-! ## What is displayed -/

/-- Whether a session and what is known of the target are as a refresh leaves them that looked at a
cursor: the windows are those planned there, and the position is what they and the views make it. -/
structure Session.HasLooked (session : Session) (cursor : Cursor) (move : Move)
    (target : TargetState) : Prop where
  active : session.views.get session.focus = true
  planned : session.plannedWindows cursor move = .ok session.windows
  placed : target.cursor = some (session.positionAfter cursor session.windows session.shown)

/-- What a session displays: the view that has the focus, the windows that were asked for, what the
views showed, and the position. -/
structure Display where
  focus : View
  windows : PerView (Option Window)
  shown : PerView (Option Shown)
  first : Option Nat
  second : Option Nat
  last : Option Nat

/-- What a session displays of a target of which such is known. -/
def Session.display (session : Session) (target : TargetState) : Display where
  focus := session.focus
  windows := session.windows
  shown := session.shown
  first := target.first
  second := target.second
  last := target.last

/-- Whether the addresses that continue a screen belong to one that starts in the address space. -/
def Display.StartsInSpace (display : Display) : Prop :=
  display.second.isSome = true → ∃ first, display.first = some first ∧ first ≤ maxAddress

/-- What is displayed in a scene. -/
def Scene.display (scene : Scene σ) : Display :=
  scene.session.display scene.world.target

namespace TargetState

theorem of_cursor {target : TargetState} {cursor : Cursor} (h : target.cursor = some cursor) :
    target.first = some cursor.first ∧ target.second = cursor.second ∧
      target.last = cursor.last := by
  obtain ⟨first, hfirst, rfl⟩ := Option.map_eq_some_iff.mp h
  exact ⟨hfirst, rfl, rfl⟩

theorem Onward.display {target now : TargetState} (h : target.Onward now) (session : Session) :
    session.display now = session.display target := by
  obtain ⟨hfirst, hsecond, hlast⟩ := h.position
  unfold Session.display
  rw [hfirst, hsecond, hlast]

theorem Onward.cursor {target now : TargetState} (h : target.Onward now) :
    now.cursor = target.cursor := by
  obtain ⟨hfirst, hsecond, hlast⟩ := h.position
  unfold TargetState.cursor
  rw [hfirst, hsecond, hlast]

end TargetState

namespace Session

variable {session : Session} {cursor : Cursor} {move : Move} {target : TargetState}

/-- Where a refresh finds what to continue: what was known of the position counts, and the program
counter only where the first address was not known. -/
theorem cursor_of_anchor {status : Option Block}
    (h : anchor target status none = .ok cursor) :
    cursor.second = target.second ∧ cursor.last = target.last ∧
      ∀ first, target.first = some first → cursor.first = first := by
  unfold anchor at h
  cases hfirst : target.first with
  | some first =>
    rw [hfirst] at h
    cases h
    exact ⟨rfl, rfl, fun _ hsame => Option.some.inj hsame⟩
  | none =>
    rw [hfirst] at h
    cases status with
    | none => cases h
    | some block =>
      obtain ⟨counter, -, rfl⟩ := ok_of_map h
      exact ⟨rfl, rfl, nofun⟩

/-- A refresh that had a plan leaves the session and the position as its finding makes them. -/
theorem hasLooked_of_plan {now : TargetState} {status views : List String} {address : Option Nat}
    {plan : Cursor × PerView (Option Window)} (hactive : session.views.get session.focus = true)
    (hplan : session.plan now status address move = .ok plan) :
    (session.withFinding (session.findingIn plan views)).HasLooked plan.1 move
      (target.moveTo ((session.findingIn plan views).position session)) :=
  ⟨hactive, (of_plan hplan).2, rfl⟩

theorem HasLooked.onward {now : TargetState} (h : session.HasLooked cursor move target)
    (hnow : target.Onward now) : session.HasLooked cursor move now :=
  ⟨h.active, h.planned, hnow.cursor.trans h.placed⟩

/-- The window of the focused view is the one that the move leads to. -/
theorem HasLooked.focused (h : session.HasLooked cursor move target) :
    session.focus.window? cursor move session.settings.lines =
      .ok (session.windows.get session.focus) := by
  have hwindow := plannedWindow_of_plannedWindows h.planned session.focus
  unfold plannedWindow at hwindow
  rwa [if_pos h.active, if_pos rfl] at hwindow

/-- The position starts where the window of the focused view does. -/
theorem HasLooked.first (h : session.HasLooked cursor move target) :
    target.first = some (match session.windows.get session.focus with
      | some window => window.first
      | none => cursor.first) := by
  obtain ⟨hfirst, -, -⟩ := TargetState.of_cursor h.placed
  have hstart := session.positionAfter_first cursor session.windows session.shown
  cases hwindow : session.windows.get session.focus with
  | none =>
    rw [hwindow] at hstart
    exact hfirst.trans (congrArg some hstart)
  | some window =>
    rw [hwindow] at hstart
    exact hfirst.trans (congrArg some hstart)

end Session

/-! ## Actions -/

namespace Action

/-- Whether an action does nothing but refresh the views. -/
def isLook : Action → Bool
  | refresh _ | goto _ => true
  | _ => false

/-- Whether an action that begins at a display looks at a cursor with a move where it refreshes the
views: a refresh continues the display, a goto looks at its address, and a step has forgotten what
continues. -/
def LooksAt (display : Display) (cursor : Cursor) (move : Move) : Action → Prop
  | refresh wanted => move = wanted ∧ cursor.second = display.second ∧ cursor.last = display.last ∧
      ∀ first, display.first = some first → cursor.first = first
  | goto address => address ≤ maxAddress ∧ move = .stay ∧ cursor = { first := address }
  | _ => cursor.second = none

/-- What an action promises of what is displayed when it begins: if it refreshes the views, it looks
there and leaves what it found; if not, it leaves the windows and the first address alone, unless it
lets the target go, and all of the display, unless it moves the focus too. A refresh and a goto
refresh the views if they succeed. -/
def looking (session : Session) (display : Display) (action : Action) :
    Promise (Except Error (List String) × Session) where
  changes _ _ _ := True
  ends outcome replies target :=
    outcome.2.views.get outcome.2.focus = true ∧
    if action.hasRefreshed outcome replies then
      outcome.2.focus = session.focus ∧ ∃ cursor move, action.LooksAt display cursor move ∧
        outcome.2.HasLooked cursor move target
    else
      (action.isLook = true → outcome.1.isOk = false) ∧
      (action.hasLetGo outcome replies = false →
        (target.first = display.first ∧ outcome.2.windows = display.windows) ∧
        (outcome.2.focus = session.focus → outcome.2.display target = display))

variable {session : Session} {display : Display} {target : TargetState} {action : Action}
  {replies : List (List String)}

theorem of_not_isLook {conclusion : Prop} (h : action.isLook = false) (hlook : action.isLook = true) :
    conclusion := by
  rw [h] at hlook
  cases hlook

theorem keeps_looking_done {outcome : Except Error (List String) × Session}
    (hactive : outcome.2.views.get outcome.2.focus = true)
    (hrefreshed : action.hasRefreshed outcome replies = false)
    (hlook : action.isLook = true → outcome.1.isOk = false)
    (hkept : action.hasLetGo outcome replies = false →
      (target.first = display.first ∧ outcome.2.windows = display.windows) ∧
      (outcome.2.focus = session.focus → outcome.2.display target = display)) :
    (done outcome).Keeps (looking session display action) replies target := by
  intro now hnow
  refine ⟨hactive, ?_⟩
  rw [hrefreshed, if_neg Bool.false_ne_true]
  refine ⟨hlook, fun hstays => ?_⟩
  obtain ⟨⟨hfirst, hwindows⟩, hdisplay⟩ := hkept hstays
  refine ⟨⟨hnow.position.1.trans hfirst, hwindows⟩, fun hfocus => ?_⟩
  rw [hnow.display]
  exact hdisplay hfocus

theorem keeps_looking_same {outcome : Except Error (List String) × Session}
    (hactive : outcome.2.views.get outcome.2.focus = true)
    (hrefreshed : action.hasRefreshed outcome replies = false)
    (hlook : action.isLook = true → outcome.1.isOk = false)
    (hdisplay : outcome.2.display target = display) :
    (done outcome).Keeps (looking session display action) replies target :=
  keeps_looking_done hactive hrefreshed hlook fun _ =>
    ⟨⟨congrArg Display.first hdisplay, congrArg Display.windows hdisplay⟩, fun _ => hdisplay⟩

/-- An action that fails before it has let the target go leaves the display alone. -/
theorem keeps_looking_failed (cause : Error) (hactive : session.views.get session.focus = true)
    (hdisplay : session.display target = display) :
    (failed session cause).Keeps (looking session display action) replies target :=
  keeps_looking_same hactive (hasRefreshed_failed action cause session replies) (fun _ => rfl)
    hdisplay

theorem keeps_looking_refreshed {outcome : Except Error (List String) × Session} {cursor : Cursor}
    {move : Move} (hrefreshed : action.hasRefreshed outcome replies = true)
    (hfocus : outcome.2.focus = session.focus) (hlooks : action.LooksAt display cursor move)
    (hlooked : outcome.2.HasLooked cursor move target) :
    (done outcome).Keeps (looking session display action) replies target := by
  intro now hnow
  refine ⟨hlooked.active, ?_⟩
  rw [hrefreshed, if_pos rfl]
  exact ⟨hfocus, cursor, move, hlooks, hlooked.onward hnow⟩

theorem keeps_looking_refresh (move : Move) (hactive : session.views.get session.focus = true)
    (hdisplay : session.display target = display) :
    ((refresh move).course session).Keeps (looking session display (.refresh move)) [] target := by
  refine keeps_refreshing (fun _ _ => trivial) ?_ ?_
  · intro cause now more hnow
    exact keeps_looking_failed cause hactive ((hnow.display session).trans hdisplay)
  · intro now status plan views hnow _ hplan
    obtain ⟨hsecond, hlast, hfirst⟩ := Session.cursor_of_anchor (Session.of_plan hplan).1
    obtain ⟨hnowFirst, hnowSecond, hnowLast⟩ := hnow.position
    refine ⟨trivial, keeps_looking_refreshed rfl rfl ?_ (Session.hasLooked_of_plan hactive hplan)⟩
    subst hdisplay
    exact ⟨rfl, hsecond.trans hnowSecond, hlast.trans hnowLast,
      fun first hknown => hfirst first (hnowFirst.trans hknown)⟩

theorem keeps_looking_goto (address : Nat) (hactive : session.views.get session.focus = true)
    (hdisplay : session.display target = display) :
    ((goto address).course session).Keeps (looking session display (.goto address)) [] target := by
  simp only [course]
  split
  · exact keeps_looking_failed _ hactive hdisplay
  · rename_i hinside
    refine keeps_refreshing (fun _ _ => trivial) ?_ ?_
    · intro cause now more hnow
      exact keeps_looking_failed cause hactive ((hnow.display session).trans hdisplay)
    · intro now status plan views _ _ hplan
      have hcursor : plan.1 = { first := address } :=
        (Except.ok.inj (Session.of_plan hplan).1).symm
      exact ⟨trivial, keeps_looking_refreshed rfl rfl ⟨Nat.le_of_not_lt hinside, rfl, hcursor⟩
        (Session.hasLooked_of_plan hactive hplan)⟩

theorem keeps_looking_pauseOrResume (hactive : session.views.get session.focus = true)
    (hdisplay : session.display target = display) :
    (pauseOrResume.course session).Keeps (looking session display .pauseOrResume) [] target := by
  intro now hnow
  have hstays : session.display now = display := (hnow.display session).trans hdisplay
  dsimp only
  split
  · intro sent
    rcases sent with cause | _
    · exact keeps_looking_failed cause hactive hstays
    · -- here the target is let go, and nothing is promised
      exact fun gone _ => ⟨trivial, fun cleared _ => ⟨trivial, fun started =>
        keeps_looking_done hactive rfl nofun nofun⟩⟩
  · intro sent
    rcases sent with cause | _
    · exact keeps_looking_failed cause hactive hstays
    · exact fun started => keeps_looking_same hactive rfl nofun hstays

theorem keeps_looking_step (into : Bool) (hactive : session.views.get session.focus = true)
    (hdisplay : session.display target = display) :
    ((step into).course session).Keeps (looking session display (.step into)) [] target := by
  intro now hnow
  have hstays : session.display now = display := (hnow.display session).trans hdisplay
  dsimp only
  split
  · intro noise
    rcases noise with cause | noise
    · exact keeps_looking_failed cause hactive hstays
    · refine fun halted _ => ⟨trivial, keeps_refreshing (fun _ _ => trivial) ?_ ?_⟩
      · -- behind the stop marker the target has been let go, whether or not the refresh succeeds
        intro cause later more _
        exact keeps_looking_done hactive rfl nofun nofun
      · intro later status plan views hlater _ hplan
        obtain ⟨hsecond, -, -⟩ := Session.cursor_of_anchor (Session.of_plan hplan).1
        have hforgotten : plan.1.second = none := hsecond.trans hlater.position.2.1
        exact ⟨trivial, keeps_looking_refreshed rfl rfl hforgotten
          (Session.hasLooked_of_plan hactive hplan)⟩
  · exact keeps_looking_same hactive rfl nofun hstays

theorem keeps_looking_asking (request : Request) (hasks : action.needsStopped = false)
    (hlook : action.isLook = false) (hactive : session.views.get session.focus = true)
    (hdisplay : session.display target = display) :
    (courseOfAsking session request).Keeps (looking session display action) [] target := by
  have hrefreshed (outcome replies) : action.hasRefreshed outcome replies = false := by
    unfold hasRefreshed
    rw [hasks]
    rfl
  have hends (reply : Except Error (List String)) (more : List (List String)) :
      (done (reply, session)).Keeps (looking session display action) more target :=
    keeps_looking_same hactive (hrefreshed _ _) (fun h => by rw [hlook] at h; cases h) hdisplay
  exact keeps_exchanging (fun _ _ => trivial) (fun _ => hends _ _) fun _ => hends _ _

theorem keeps_looking (action : Action) (hactive : session.views.get session.focus = true)
    (hdisplay : session.display target = display) :
    (action.course session).Keeps (looking session display action) [] target := by
  cases action with
  | refresh move => exact keeps_looking_refresh move hactive hdisplay
  | goto address => exact keeps_looking_goto address hactive hdisplay
  | pauseOrResume => exact keeps_looking_pauseOrResume hactive hdisplay
  | step into => exact keeps_looking_step into hactive hdisplay
  | askRaw text => exact keeps_looking_asking _ rfl rfl hactive hdisplay
  | loadMemory path address => exact keeps_looking_asking _ rfl rfl hactive hdisplay
  | saveMemory path address length => exact keeps_looking_asking _ rfl rfl hactive hdisplay
  | setFocus view =>
    simp only [course, courseOfFocus]
    split
    · exact keeps_looking_same (PerView.get_set_of_get hactive view) rfl (of_not_isLook rfl)
        hdisplay
    · rename_i hother
      intro now hnow
      -- what would continue the screen is forgotten with the focus, but not where it starts
      have hfirst : now.first = display.first :=
        hnow.position.1.trans (congrArg Display.first hdisplay)
      exact ⟨trivial, keeps_looking_done (PerView.get_set_self _ view true) rfl
        (of_not_isLook rfl) fun _ =>
          ⟨⟨hfirst, congrArg Display.windows hdisplay⟩, fun hsame => absurd hsame.symm hother⟩⟩
  | setActiveViews views =>
    exact keeps_looking_same (PerView.get_ofList_cons session.focus views) rfl
      (of_not_isLook rfl) hdisplay
  | setLines lines => exact keeps_looking_same hactive rfl (of_not_isLook rfl) hdisplay
  | setFollowPc followPc => exact keeps_looking_same hactive rfl (of_not_isLook rfl) hdisplay

end Action

/-! ## Moments -/

namespace Moment

variable [Peer σ]

/-- The action that succeeds at a moment. -/
def success? (moment : Moment σ) : Option Action :=
  moment.ending?.bind fun (task, outcome) => if outcome.1.isOk then some task.action else none

omit [Peer σ] in
theorem ends_of_refreshes {moment : Moment σ} (h : moment.refreshes = true) :
    moment.ending?.isSome = true := by
  obtain ⟨ending, hending, -⟩ := (Option.any_eq_true _ _).mp h
  exact Option.isSome_of_mem hending

/-- Whether a moment leaves alone what is displayed: if an action ends there, it has not refreshed
the views, it has not let the target go, and the focus is where it was. -/
def isQuiet (moment : Moment σ) : Bool :=
  moment.ending?.all fun (task, outcome) =>
    !task.action.hasRefreshed outcome task.replies && !task.action.hasLetGo outcome task.replies &&
      decide (outcome.2.focus = moment.before.session.focus)

end Moment

/-! ## Runs -/

namespace Scene

variable [Peer σ] {scene : Scene σ} {display : Display}

/-- Whether a scene keeps a display: between two actions it is what is displayed, and during one it
is what was displayed when the action began. -/
def KeepsDisplay (display : Display) (scene : Scene σ) : Prop :=
  scene.Meets
    (fun session target =>
      session.views.get session.focus = true ∧ session.display target = display)
    fun session task target =>
      task.rest.Keeps (task.action.looking session display) task.replies target ∧
        session.focus = display.focus

theorem looking_carried (display : Display) : Carried σ
    (fun session target =>
      session.views.get session.focus = true ∧ session.display target = display)
    fun session task target =>
      task.rest.Keeps (task.action.looking session display) task.replies target ∧
        session.focus = display.focus where
  begins := fun action h => ⟨action.keeps_looking h.1 h.2, congrArg Display.focus h.2⟩
  advances := fun h => ⟨h.1.advance, h.2⟩
  onward := fun hnow h => ⟨h.1, (hnow.display _).trans h.2⟩
  onwardDuring := fun hnow h => ⟨h.1.onward hnow, h.2⟩

/-- An action that ends has kept its promise. -/
theorem KeepsDisplay.ends (h : scene.KeepsDisplay display) {turn : Turn} {task : Task}
    {outcome : Except Error (List String) × Session}
    (hending : (Moment.mk scene turn).ending? = some (task, outcome)) :
    scene.after turn = { scene with session := outcome.2, task := none } ∧
      scene.session.focus = display.focus ∧
      (task.action.looking scene.session display).ends outcome task.replies
        scene.world.target := by
  obtain ⟨htask, hdone, hafter⟩ := Moment.of_ending hending
  obtain ⟨hkeeps, hfocus⟩ := h.of_task htask
  rw [hdone] at hkeeps
  exact ⟨hafter, hfocus, hkeeps _ (.refl _)⟩

/-- Behind an action that has ended, what is displayed is kept. -/
theorem KeepsDisplay.renewed (h : scene.KeepsDisplay display) {turn : Turn}
    (hends : (Moment.mk scene turn).ending?.isSome = true) :
    (scene.after turn).task = none ∧
      (scene.after turn).KeepsDisplay (scene.after turn).display := by
  obtain ⟨⟨task, outcome⟩, hending⟩ := Option.isSome_iff_exists.mp hends
  obtain ⟨hafter, -, hactive, -⟩ := h.ends hending
  rw [hafter]
  exact ⟨rfl, hactive, rfl⟩

/-- A quiet turn keeps what is displayed. -/
theorem KeepsDisplay.after (h : scene.KeepsDisplay display) {turn : Turn}
    (hquiet : (Moment.mk scene turn).isQuiet = true) : (scene.after turn).KeepsDisplay display := by
  cases hending : (Moment.mk scene turn).ending? with
  | none => exact h.after_of_going (looking_carried display) turn hending
  | some ending =>
    obtain ⟨task, outcome⟩ := ending
    obtain ⟨hafter, -, hactive, hpromise⟩ := h.ends hending
    unfold Moment.isQuiet at hquiet
    rw [hending] at hquiet
    simp only [Option.all_some, Bool.and_eq_true, Bool.not_eq_true', decide_eq_true_eq] at hquiet
    obtain ⟨⟨hrefreshed, hletGo⟩, hfocus⟩ := hquiet
    rw [hrefreshed, if_neg Bool.false_ne_true] at hpromise
    rw [hafter]
    exact ⟨hactive, (hpromise.2 hletGo).2 hfocus⟩

/-- So do quiet turns. -/
theorem KeepsDisplay.play (h : scene.KeepsDisplay display) {turns : List Turn}
    (hquiet : ∀ moment ∈ scene.moments turns, moment.isQuiet = true) :
    (scene.play turns).KeepsDisplay display := by
  induction turns generalizing scene with
  | nil => exact h
  | cons turn rest ih =>
    rw [moments, List.forall_mem_cons] at hquiet
    exact ih (h.after hquiet.1) hquiet.2

omit [Peer σ] in
/-- A scene between two actions displays what it keeps. -/
theorem KeepsDisplay.of_idle (h : scene.KeepsDisplay display) (hidle : scene.task = none) :
    scene.display = display := by
  unfold KeepsDisplay Meets at h
  rw [hidle] at h
  exact h.2

/-- A refresh looks where the display says, and leaves what it found. -/
theorem KeepsDisplay.hasLooked (h : scene.KeepsDisplay display) {turn : Turn}
    (hrefreshes : (Moment.mk scene turn).refreshes = true) :
    ∃ task cursor move, scene.task = some task ∧ task.action.LooksAt display cursor move ∧
      (scene.after turn).session.HasLooked cursor move (scene.after turn).world.target ∧
      (scene.after turn).session.focus = display.focus := by
  unfold Moment.refreshes at hrefreshes
  obtain ⟨⟨task, outcome⟩, hending, hrefreshed⟩ := (Option.any_eq_true _ _).mp hrefreshes
  obtain ⟨hafter, hfocus, -, hpromise⟩ := h.ends hending
  rw [if_pos hrefreshed] at hpromise
  obtain ⟨hsame, cursor, move, hlooks, hlooked⟩ := hpromise
  rw [hafter]
  exact ⟨task, cursor, move, (Moment.of_ending hending).1, hlooks, hlooked, hsame.trans hfocus⟩

/-- A refresh or a goto that succeeds has refreshed the views. -/
theorem KeepsDisplay.refreshes_of_success (h : scene.KeepsDisplay display) {turn : Turn}
    {action : Action} (hsuccess : (Moment.mk scene turn).success? = some action)
    (hlook : action.isLook = true) :
    (Moment.mk scene turn).refreshes = true ∧ scene.task.map Task.action = some action := by
  obtain ⟨⟨task, outcome⟩, hending, hok⟩ := Option.bind_eq_some_iff.mp hsuccess
  obtain ⟨hsucceeds, rfl⟩ := Option.ite_none_right_eq_some.mp hok |>.imp_right Option.some.inj
  obtain ⟨-, -, -, hpromise⟩ := h.ends hending
  refine ⟨?_, by rw [(Moment.of_ending hending).1]; rfl⟩
  unfold Moment.refreshes
  rw [hending]
  show task.action.hasRefreshed outcome task.replies = true
  cases hrefreshed : task.action.hasRefreshed outcome task.replies with
  | true => rfl
  | false =>
    rw [hrefreshed, if_neg Bool.false_ne_true] at hpromise
    rw [hpromise.1 hlook] at hsucceeds
    cases hsucceeds

/-- Whether a scene keeps a display, of a screen that continues in the address space, and what
continues it is that of the focused view. -/
structure IsDisplayed (scene : Scene σ) : Prop where
  keeps : ∃ display, scene.KeepsDisplay display ∧ display.StartsInSpace
  continues : scene.Meets Session.Continues fun _ task target =>
    task.rest.Keeps Action.continuing task.replies target

/-- A turn at which no action ends keeps the display; one at which an action ends begins another. -/
theorem IsDisplayed.after (h : scene.IsDisplayed) (turn : Turn) :
    (scene.after turn).IsDisplayed := by
  obtain ⟨⟨display, hkeeps, hstarts⟩, hcontinues⟩ := h
  have hcontinuesAfter := hcontinues.after continuing_upheld scene turn
  refine ⟨?_, hcontinuesAfter⟩
  cases hending : (Moment.mk scene turn).ending? with
  | none =>
    exact ⟨display, hkeeps.after_of_going (looking_carried display) turn hending, hstarts⟩
  | some ending =>
    obtain ⟨hidle, hrenewed⟩ := hkeeps.renewed (Option.isSome_of_mem hending)
    refine ⟨_, hrenewed, fun hsecond => ?_⟩
    unfold Meets at hcontinuesAfter
    rw [hidle] at hcontinuesAfter
    obtain ⟨window, -, hfirst, -⟩ := hcontinuesAfter.windowed (.inl hsecond)
    exact ⟨window.first, hfirst, window.first_le_max⟩

/-- Along every run some display is kept, and what continues its screen is in the address space. -/
theorem exists_keepsDisplay (settings : Settings) (channel : Channel σ) (tokensTaken : Nat)
    (turns : List Turn) :
    ∃ display, ((opening settings channel tokensTaken).play turns).KeepsDisplay display ∧
      display.StartsInSpace := by
  have hstart : (opening settings channel tokensTaken).IsDisplayed :=
    ⟨⟨_, ⟨rfl, rfl⟩, nofun⟩, Session.continues_of_forgotten rfl rfl rfl⟩
  exact (play_induction hstart (fun _ turn h => h.after turn) turns).keeps

end Scene

/-! ## From one refresh to the next -/

/-- A run from one screen to the next: turns that leave alone what is displayed, and the turn at
which a refresh with a move succeeds. -/
@[mk_iff] structure NextRefresh [Peer σ] (scene : Scene σ) (turns : List Turn) (last : Turn)
    (move : Move) : Prop where
  idle : scene.task.isNone = true
  quiet : ∀ moment ∈ scene.moments turns, moment.isQuiet = true
  succeeds : (Moment.mk (scene.play turns) last).success? = some (.refresh move)

instance [Peer σ] (scene : Scene σ) (turns : List Turn) (last : Turn) (move : Move) :
    Decidable (NextRefresh scene turns last move) :=
  decidable_of_iff _ (nextRefresh_iff ..).symm

/-- The next refresh continues the screen that is displayed. -/
theorem NextRefresh.hasLooked [Peer σ] {scene : Scene σ} {display : Display} {turns : List Turn}
    {last : Turn} {move : Move} (h : NextRefresh scene turns last move)
    (hkeeps : scene.KeepsDisplay display) :
    let next := (scene.play turns).after last
    next.session.focus = scene.session.focus ∧ ∃ cursor,
      cursor.second = scene.world.target.second ∧ cursor.last = scene.world.target.last ∧
      (∀ first, scene.world.target.first = some first → cursor.first = first) ∧
      next.session.HasLooked cursor move next.world.target := by
  intro next
  obtain rfl := hkeeps.of_idle (Option.isNone_iff_eq_none.mp h.idle)
  have hstays := hkeeps.play h.quiet
  obtain ⟨hrefreshes, haction⟩ := hstays.refreshes_of_success h.succeeds rfl
  obtain ⟨task, cursor, wanted, htask, hlooks, hlooked, hfocus⟩ := hstays.hasLooked hrefreshes
  rw [htask] at haction
  rw [Option.some.inj haction] at hlooks
  obtain ⟨rfl, hsecond, hlast, hfirst⟩ := hlooks
  exact ⟨hfocus, cursor, hsecond, hlast, hfirst, hlooked⟩

/-- A user who gives the focus to one view after the other, once the target has stopped, and goes to
an address, up to the turn at which that succeeds. -/
def visiting (views : List View) (address : Nat) : List Turn :=
  .begin .pauseOrResume :: List.replicate 4 (.proceed true) ++ List.replicate 5 (.watch 0) ++
    (views.flatMap fun view => .begin (.setFocus view) :: List.replicate 2 (.proceed true)) ++
    .begin (.goto address) :: List.replicate 7 (.proceed true)

end RemoteDebug
