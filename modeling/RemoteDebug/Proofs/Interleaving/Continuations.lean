import RemoteDebug.Proofs.Interleaving.Positions

/-!
# Where a screen continues

The second and the last address of a position say where the screen of the focused view continues.
They are kept apart from the windows that the views asked for and from what the views showed, and
each action changes one or the other; but between two actions they always come from the last refresh
of the view that has the focus (`continuation_comes_from_focus`). An action either forgets them, or
leaves them with the window and the listing that they came from, or replaces all of them at once.
-/

namespace RemoteDebug

open RemoteDebug.Decode RemoteDebug.Wire Dialogue

variable {σ : Type}

/-! ## What continues a screen -/

/-- Whether the addresses that continue the screen of the focused view are those of its last
refresh, which asked for `window`. -/
def Session.ComesFrom (session : Session) (target : TargetState) (window : Window) : Prop :=
  match session.focus with
  | .registers => False
  | .memory => target.second = window.second ∧ target.last = some window.last
  | .disassembly =>
    (∃ listing, session.shown.disassembly = some (.ok (.disassembly listing)) ∧
      target.second = listing.secondAddress ∧
      (target.last = none ∨
        ∃ told ∈ listing.instructions, target.last = some told.address)) ∨
    (target.second = none ∧ target.last = some window.last)

/-- Whether what is known of the target fits what the focused view of a session asked for and
showed last. -/
structure Session.Continues (session : Session) (target : TargetState) : Prop where
  active : session.views.get session.focus = true
  nothing : session.NothingContinues target
  windowed : target.second.isSome ∨ target.last.isSome →
    ∃ window, session.windows.get session.focus = some window ∧
      target.first = some window.first ∧ session.ComesFrom target window

namespace Session

variable {session : Session} {target : TargetState}

theorem Continues.onward {now : TargetState} (h : session.Continues target)
    (hnow : target.Onward now) : session.Continues now := by
  obtain ⟨hactive, hnothing, hwindowed⟩ := h
  obtain ⟨hfirst, hsecond, hlast⟩ := hnow.position
  refine ⟨hactive, Action.nothingContinues_onward hnow hnothing, ?_⟩
  unfold ComesFrom at hwindowed ⊢
  rw [hfirst, hsecond, hlast]
  exact hwindowed

/-- Where nothing continues, an active focus is all that is needed. -/
theorem continues_of_forgotten (hactive : session.views.get session.focus = true)
    (hsecond : target.second = none) (hlast : target.last = none) : session.Continues target := by
  refine ⟨hactive, fun _ => ⟨hsecond, hlast⟩, fun hsome => ?_⟩
  rw [hsecond, hlast] at hsome
  rcases hsome with hsome | hsome <;> cases hsome

/-- What a session is told to show from now on does not count. -/
theorem Continues.of_same {other : Session} (h : session.Continues target)
    (hactive : other.views.get other.focus = true) (hfocus : other.focus = session.focus)
    (hwindows : other.windows = session.windows) (hshown : other.shown = session.shown) :
    other.Continues target := by
  refine ⟨hactive, ?_, ?_⟩
  · unfold NothingContinues
    rw [hfocus]
    exact h.nothing
  · unfold ComesFrom
    rw [hfocus, hwindows, hshown]
    exact h.windowed

/-! ## What a refresh puts in place -/

theorem mem_of_lastShownAddress {listing : Listing} {lines : Nat} {address : Nat}
    (h : listing.lastShownAddress lines = some address) :
    ∃ told ∈ listing.instructions, told.address = address := by
  obtain ⟨told, htold, haddress⟩ := Option.map_eq_some_iff.mp h
  have hshown : told ∈ listing.instructions.take lines := List.mem_of_getLast? htold
  exact ⟨told, List.mem_of_mem_take hshown, haddress⟩

section

variable {status views : List String} {address : Option Nat} {move : Move}
  {plan : Cursor × PerView (Option Window)}

theorem comesFrom_memory {window : Window} (hview : session.focus = .memory)
    (hwindow : plan.2.memory = some window) :
    (session.withFinding (session.findingIn plan views)).ComesFrom
      (target.moveTo ((session.findingIn plan views).position session)) window := by
  unfold ComesFrom
  rw [show (session.withFinding (session.findingIn plan views)).focus = .memory from hview,
    position_of_memory hview hwindow]
  exact ⟨rfl, rfl⟩

theorem comesFrom_disassembly {window : Window} (hview : session.focus = .disassembly)
    (hwindow : plan.2.disassembly = some window) (hsecond : window.second = none) :
    (session.withFinding (session.findingIn plan views)).ComesFrom
      (target.moveTo ((session.findingIn plan views).position session)) window := by
  unfold ComesFrom
  rw [show (session.withFinding (session.findingIn plan views)).focus = .disassembly from hview]
  by_cases hlisting : ∃ listing,
      (session.findingIn plan views).shown.disassembly = some (.ok (.disassembly listing))
  · obtain ⟨listing, hshown⟩ := hlisting
    rw [show (session.findingIn plan views).position session = _ from
      positionAfter_listing hview hwindow hshown]
    refine .inl ⟨listing, hshown, rfl, ?_⟩
    cases hlast : listing.lastShownAddress session.settings.lines with
    | none => exact .inl rfl
    | some last =>
      obtain ⟨told, htold, haddress⟩ := mem_of_lastShownAddress hlast
      exact .inr ⟨told, htold, congrArg some haddress.symm⟩
  · have hunlisted : (session.findingIn plan views).position session = window.cursor :=
      positionAfter_unlisted hview hwindow fun listing hshown => hlisting ⟨listing, hshown⟩
    rw [hunlisted]
    exact .inr ⟨hsecond, rfl⟩

/-- What a refresh puts in place continues the screen of the focused view. -/
theorem continues_position (h : session.Continues target)
    (hplan : session.plan target status address move = .ok plan) :
    (session.withFinding (session.findingIn plan views)).Continues
      (target.moveTo ((session.findingIn plan views).position session)) := by
  have hnothing : session.NothingContinues
      (target.moveTo ((session.findingIn plan views).position session)) :=
    Action.nothingContinues_position h.nothing hplan
  refine ⟨h.active, hnothing, fun hsome => ?_⟩
  have hfocused := focusedWindow_of_plan h.active hplan
  have hfirst := session.positionAfter_first plan.1 plan.2 (session.findingIn plan views).shown
  cases hview : session.focus with
  | registers =>
    obtain ⟨hsecond, hlast⟩ := hnothing hview
    rw [hsecond, hlast] at hsome
    rcases hsome with hsome | hsome <;> cases hsome
  | memory =>
    rw [hview] at hfocused hfirst
    obtain ⟨window, -, hwindow⟩ := ok_of_map hfocused
    rw [← hwindow] at hfirst
    refine ⟨window, ?_, congrArg some hfirst, comesFrom_memory hview hwindow.symm⟩
    rw [show (session.withFinding _).focus = .memory from hview]
    exact hwindow.symm
  | disassembly =>
    rw [hview] at hfocused hfirst
    obtain ⟨window, hclamped, hwindow⟩ := ok_of_map hfocused
    rw [← hwindow] at hfirst
    refine ⟨window, ?_, congrArg some hfirst,
      comesFrom_disassembly hview hwindow.symm (second_of_clamped hclamped)⟩
    rw [show (session.withFinding _).focus = .disassembly from hview]
    exact hwindow.symm

end

end Session

/-! ## Actions -/

namespace Action

/-- What an action promises of the screen: at its end it continues the focused view. -/
def continuing : Promise (Except Error (List String) × Session) where
  changes _ _ _ := True
  ends outcome _ target := outcome.2.Continues target

variable {session : Session} {target : TargetState}

theorem keeps_continuing_done {outcome : Except Error (List String) × Session}
    {replies : List (List String)} (h : outcome.2.Continues target) :
    (done outcome).Keeps continuing replies target :=
  fun _ hnow => h.onward hnow

theorem keeps_continuing_refreshing {address : Option Nat} {move : Move}
    {replies : List (List String)}
    {next : Except Error Unit × Session → Dialogue (Except Error (List String) × Session)}
    (h : session.Continues target)
    (hnext : ∀ result after more now, after.Continues now →
      (next (result, after)).Keeps continuing more now) :
    (refreshing session address move next).Keeps continuing replies target := by
  refine keeps_refreshing (fun _ _ => trivial) ?_ ?_
  · intro cause now more hnow
    exact hnext _ _ _ _ (h.onward hnow)
  · intro now status plan views hnow _ hplan
    exact ⟨trivial, hnext _ _ _ _ (Session.continues_position (h.onward hnow) hplan)⟩

theorem keeps_continuing_refreshed {result : Except Error Unit} {after : Session}
    {replies : List (List String)} (h : after.Continues target) :
    (refreshed (result, after)).Keeps continuing replies target := by
  cases result <;> exact keeps_continuing_done h

theorem keeps_continuing_asking (request : Request) (h : session.Continues target) :
    (courseOfAsking session request).Keeps continuing [] target :=
  keeps_exchanging (fun _ _ => trivial) (fun _ => keeps_continuing_done h)
    fun _ => keeps_continuing_done h

theorem keeps_continuing (action : Action) (h : session.Continues target) :
    (action.course session).Keeps continuing [] target := by
  cases action with
  | refresh move =>
    exact keeps_continuing_refreshing h fun _ _ _ _ hafter => keeps_continuing_refreshed hafter
  | goto address =>
    simp only [course]
    split
    · exact keeps_continuing_done h
    · exact keeps_continuing_refreshing h fun _ _ _ _ hafter => keeps_continuing_refreshed hafter
  | pauseOrResume =>
    intro now hnow
    have hstays := h.onward hnow
    dsimp only
    split
    · intro sent
      rcases sent with cause | _
      · exact keeps_continuing_done hstays
      · -- the windows are forgotten, but so is what would continue in them
        refine fun gone _ => ⟨trivial, fun cleared _ => ⟨trivial, fun started => ?_⟩⟩
        exact keeps_continuing_done (Session.continues_of_forgotten h.active rfl rfl)
    · intro sent
      rcases sent with cause | _
      · exact keeps_continuing_done hstays
      · exact fun started => keeps_continuing_done (hstays.of_same h.active rfl rfl rfl)
  | step into =>
    intro now hnow
    have hstays := h.onward hnow
    dsimp only
    split
    · intro noise
      rcases noise with cause | noise
      · exact keeps_continuing_done hstays
      · refine fun halted _ => ⟨trivial, ?_⟩
        refine keeps_continuing_refreshing (Session.continues_of_forgotten h.active rfl rfl) ?_
        intro result after more later hafter
        cases result with
        | ok _ => exact keeps_continuing_done hafter
        | error cause => exact keeps_continuing_done (hafter.of_same hafter.active rfl rfl rfl)
    · exact keeps_continuing_done hstays
  | askRaw text => exact keeps_continuing_asking _ h
  | loadMemory path address => exact keeps_continuing_asking _ h
  | saveMemory path address length => exact keeps_continuing_asking _ h
  | setFocus view =>
    simp only [course, courseOfFocus]
    split
    · have hactive := PerView.get_set_of_get h.active view
      exact keeps_continuing_done (h.of_same hactive rfl rfl rfl)
    · refine fun now _ => ⟨trivial, keeps_continuing_done ?_⟩
      exact Session.continues_of_forgotten (PerView.get_set_self _ view true) rfl rfl
  | setActiveViews views =>
    have hactive := PerView.get_ofList_cons session.focus views
    exact keeps_continuing_done (h.of_same hactive rfl rfl rfl)
  | setLines lines => exact keeps_continuing_done (h.of_same h.active rfl rfl rfl)
  | setFollowPc followPc => exact keeps_continuing_done (h.of_same h.active rfl rfl rfl)

end Action

/-! ## Whole runs -/

theorem Scene.continuing_upheld [Peer σ] :
    Upheld σ Session.Continues fun _ task target =>
      task.rest.Keeps Action.continuing task.replies target :=
  upheld_of_keeps (fun hnow h => h.onward hnow) (fun action h => action.keeps_continuing h)
    fun h => h

/-- Along every run, whenever no action is being carried out, the focus is an active view, and what
continues its screen comes from its last refresh; with the focus on the registers nothing does. -/
theorem continuation_comes_from_focus [Peer σ] (settings : Settings) (channel : Channel σ)
    (tokensTaken : Nat) (turns : List Turn) :
    let scene := (Scene.opening settings channel tokensTaken).play turns
    scene.task = none → scene.session.Continues scene.world.target := by
  intro scene hidle
  have hstart : (Scene.opening settings channel tokensTaken).Meets Session.Continues
      fun _ task target => task.rest.Keeps Action.continuing task.replies target :=
    Session.continues_of_forgotten rfl rfl rfl
  have hmeets := Scene.meets_play Scene.continuing_upheld hstart turns
  unfold Scene.Meets at hmeets
  rw [hidle] at hmeets
  exact hmeets

/-- A target whose listings have two instructions. -/
def listingTwo : Channel Simulator.Link where
  peer := { machine := {
    script := [("disasm", [[.line "#disasm 001000", .line "- $001000 nop", .line "- $001002 nop",
      .line "##"]])] } }

/-- With the focus on the disassembly, the screen continues at the instructions that the target
told. -/
theorem continuation_of_listing :
    let scene := (Scene.opening {} listingTwo 0).play (disassemblingAt 0x1000)
    scene.task = none ∧
      (scene.world.target.second = some 0x1002 ∧ scene.world.target.last = some 0x1002) ∧
      scene.session.Continues scene.world.target := by
  have hrun :
      let scene := (Scene.opening {} listingTwo 0).play (disassemblingAt 0x1000)
      scene.task.isNone = true ∧
        scene.world.target.second = some 0x1002 ∧ scene.world.target.last = some 0x1002 := by
    decide +kernel
  have hcontinues := continuation_comes_from_focus {} listingTwo 0 (disassemblingAt 0x1000)
  -- from here on the run counts no more
  generalize (Scene.opening {} listingTwo 0).play (disassemblingAt 0x1000) = scene
    at hrun hcontinues ⊢
  obtain ⟨hidle, hposition⟩ := hrun
  have hidle : scene.task = none := Option.isNone_iff_eq_none.mp hidle
  exact ⟨hidle, hposition, hcontinues hidle⟩

end RemoteDebug
