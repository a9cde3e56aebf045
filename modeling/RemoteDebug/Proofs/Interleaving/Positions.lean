import RemoteDebug.Proofs.Interleaving.Anchoring

/-!
# Positions in order

A position is in order if its last line does not lie before its first one and every address of it is
one of the target's. What a session computes is in order: a window is, and so are the addresses that
a user gives. What the target tells need not be: neither the program counter nor the addresses of a
listing are looked at before they are put in place. `position_stays_in_order_iff` says that nothing
else can spoil the order.
-/

namespace RemoteDebug

open RemoteDebug.Decode RemoteDebug.Wire Dialogue

variable {σ : Type}

/-! ## Order -/

/-- Whether a position is in order. -/
structure TargetState.InOrder (target : TargetState) : Prop where
  ordered : ∀ first last, target.first = some first → target.last = some last → first ≤ last
  first_le_max : ∀ address, target.first = some address → address ≤ maxAddress
  second_le_max : ∀ address, target.second = some address → address ≤ maxAddress
  last_le_max : ∀ address, target.last = some address → address ≤ maxAddress

namespace TargetState

theorem Onward.inOrder_iff {target now : TargetState} (h : target.Onward now) :
    now.InOrder ↔ target.InOrder := by
  obtain ⟨hfirst, hsecond, hlast⟩ := h.position
  constructor
  · rintro ⟨ordered, first, second, last⟩
    rw [hfirst, hlast] at ordered
    exact ⟨ordered, hfirst ▸ first, hsecond ▸ second, hlast ▸ last⟩
  · rintro ⟨ordered, first, second, last⟩
    rw [← hfirst, ← hlast] at ordered
    exact ⟨ordered, hfirst ▸ first, hsecond ▸ second, hlast ▸ last⟩

theorem InOrder.forgetContinuation {target : TargetState} (h : target.InOrder) :
    target.forgetContinuation.InOrder :=
  ⟨nofun, h.first_le_max, nofun, nofun⟩

theorem InOrder.clear {target : TargetState} (h : target.InOrder) (followPc : Bool) :
    (target.clear followPc).InOrder := by
  refine ⟨nofun, fun address haddress => ?_, nofun, nofun⟩
  cases followPc with
  | true => cases haddress
  | false => exact h.first_le_max address haddress

theorem inOrder_moveTo_iff (target : TargetState) (cursor : Cursor) :
    (target.moveTo cursor).InOrder ↔
      cursor.first ≤ maxAddress ∧ (∀ second, cursor.second = some second → second ≤ maxAddress) ∧
        ∀ last, cursor.last = some last → cursor.first ≤ last ∧ last ≤ maxAddress := by
  constructor
  · intro h
    exact ⟨h.first_le_max _ rfl, h.second_le_max,
      fun last hlast => ⟨h.ordered _ last rfl hlast, h.last_le_max last hlast⟩⟩
  · rintro ⟨first, second, last⟩
    refine ⟨?_, ?_, second, fun address haddress => (last address haddress).2⟩
    · rintro _ address ⟨⟩ haddress
      exact (last address haddress).1
    · rintro _ ⟨⟩
      exact first

/-- A position at a window is in order, if the second line of the window is. -/
theorem inOrder_moveTo_window (target : TargetState) {window : Window}
    (hsecond : ∀ second, window.second = some second → second ≤ maxAddress) :
    (target.moveTo window.cursor).InOrder := by
  refine (target.inOrder_moveTo_iff _).mpr ⟨window.first_le_max, hsecond, ?_⟩
  rintro _ ⟨⟩
  exact ⟨Nat.le_of_lt window.first_lt_last, window.last_le_max⟩

end TargetState

/-! ## What the target told -/

/-- Whether what a refresh found is in order: with the focus on the registers, that it looked at an
address of the target's; with the focus on the disassembly, that the instructions shown are where they
should be. -/
def Finding.InOrder (finding : Finding) (session : Session) : Prop :=
  match session.focus with
  | .registers => finding.cursor.first ≤ maxAddress
  | .memory => True
  | .disassembly =>
    ∀ window listing, finding.windows.disassembly = some window →
      finding.shown.disassembly = some (.ok (.disassembly listing)) →
      (∀ second, listing.secondAddress = some second → second ≤ maxAddress) ∧
      ∀ last, listing.lastShownAddress session.settings.lines = some last →
        window.first ≤ last ∧ last ≤ maxAddress

theorem second_le_of_memoryWindow {cursor : Cursor} {move : Move} {lines : Nat} {window : Window}
    (h : memoryWindow cursor move lines = .ok window) :
    ∀ second, window.second = some second → second ≤ maxAddress := by
  simp only [memoryWindow, bind, Except.bind] at h
  split at h
  · cases h
  · cases h
    rintro _ ⟨⟩
    exact Nat.le_trans (Nat.min_le_right _ _) (Window.last_le_max _)

theorem second_of_clamped {first last : Int} {window : Window}
    (h : Window.clamped first last = .ok window) : window.second = none := by
  unfold Window.clamped at h
  split at h
  · cases h
    rfl
  · cases h

namespace Session

variable {session : Session}

/-- With the focus on the registers nothing but the first address is known. -/
def NothingContinues (session : Session) (target : TargetState) : Prop :=
  session.focus = .registers → target.second = none ∧ target.last = none

theorem continuation_of_anchor {target : TargetState} {status : Option Block}
    {address : Option Nat} {cursor : Cursor} (h : anchor target status address = .ok cursor)
    (hnothing : target.second = none ∧ target.last = none) :
    cursor.second = none ∧ cursor.last = none := by
  unfold anchor at h
  split at h
  · cases h
    exact ⟨rfl, rfl⟩
  · cases h
    exact hnothing
  · split at h
    · cases h
    · obtain ⟨counter, -, rfl⟩ := ok_of_map h
      exact hnothing

/-- With the focus on the disassembly, what the target told of its instructions counts. -/
theorem positionAfter_listing {cursor : Cursor} {windows : PerView (Option Window)}
    {shown : PerView (Option Shown)} {window : Window} {listing : Listing}
    (hfocus : session.focus = .disassembly) (hwindow : windows.disassembly = some window)
    (hshown : shown.disassembly = some (.ok (.disassembly listing))) :
    session.positionAfter cursor windows shown = {
      first := window.first
      second := listing.secondAddress
      last := listing.lastShownAddress session.settings.lines } := by
  unfold positionAfter
  rw [hfocus, show windows.get .disassembly = some window from hwindow, hshown]
  rfl

theorem positionAfter_unlisted {cursor : Cursor} {windows : PerView (Option Window)}
    {shown : PerView (Option Shown)} {window : Window}
    (hfocus : session.focus = .disassembly) (hwindow : windows.disassembly = some window)
    (hshown : ∀ listing, shown.disassembly ≠ some (.ok (.disassembly listing))) :
    session.positionAfter cursor windows shown = window.cursor := by
  unfold positionAfter
  rw [hfocus, show windows.get .disassembly = some window from hwindow]
  dsimp only
  split
  · exact absurd ‹_› (hshown _)
  · rfl

/-- With the focus elsewhere, it does not. -/
theorem positionAfter_of_ne {cursor : Cursor} {windows : PerView (Option Window)}
    {shown : PerView (Option Shown)} (hfocus : session.focus ≠ .disassembly) :
    session.positionAfter cursor windows shown =
      match windows.get session.focus with
      | some window => window.cursor
      | none => cursor := by
  unfold positionAfter
  cases hview : session.focus with
  | registers => rfl
  | memory => rfl
  | disassembly => exact absurd hview hfocus

/-- With the focus on the registers, a refresh stays where it looked. -/
theorem position_of_registers {target : TargetState} {status views : List String}
    {address : Option Nat} {move : Move} {plan : Cursor × PerView (Option Window)}
    (hview : session.focus = .registers)
    (hplan : session.plan target status address move = .ok plan) :
    (session.findingIn plan views).position session = plan.1 := by
  have hwindow := plannedWindow_of_plannedWindows (of_plan hplan).2 .registers
  have hnone : plan.2.get .registers = none := by
    unfold plannedWindow at hwindow
    split at hwindow
    · exact (Except.ok.inj hwindow).symm
    · exact (Except.ok.inj hwindow).symm
  refine (positionAfter_of_ne (by rw [hview]; nofun)).trans ?_
  rw [hview]
  show (match plan.2.get .registers with | some window => window.cursor | none => plan.1) = _
  rw [hnone]

/-- With the focus on the memory, it is at the window. -/
theorem position_of_memory {views : List String} {plan : Cursor × PerView (Option Window)}
    {window : Window} (hview : session.focus = .memory) (hwindow : plan.2.memory = some window) :
    (session.findingIn plan views).position session = window.cursor := by
  refine (positionAfter_of_ne (by rw [hview]; nofun)).trans ?_
  rw [hview]
  show (match plan.2.memory with | some window => window.cursor | none => plan.1) = _
  rw [hwindow]

section

variable {target : TargetState} {status views : List String} {address : Option Nat} {move : Move}
  {plan : Cursor × PerView (Option Window)}

theorem inOrder_position_memory (hfocus : session.views.get session.focus = true)
    (hview : session.focus = .memory)
    (hplan : session.plan target status address move = .ok plan) :
    (target.moveTo ((session.findingIn plan views).position session)).InOrder := by
  have hwindow := focusedWindow_of_plan hfocus hplan
  rw [hview] at hwindow
  obtain ⟨window, hmemory, hsome⟩ := ok_of_map hwindow
  rw [position_of_memory hview hsome.symm]
  exact target.inOrder_moveTo_window (second_le_of_memoryWindow hmemory)

theorem inOrder_position_disassembly_iff (hfocus : session.views.get session.focus = true)
    (hview : session.focus = .disassembly)
    (hplan : session.plan target status address move = .ok plan) :
    (target.moveTo ((session.findingIn plan views).position session)).InOrder ↔
      (session.findingIn plan views).InOrder session := by
  have hwindow := focusedWindow_of_plan hfocus hplan
  rw [hview] at hwindow
  obtain ⟨window, hdisassembly, hsome⟩ := ok_of_map hwindow
  have hplanned : (session.findingIn plan views).windows.disassembly = some window := hsome.symm
  unfold Finding.InOrder
  rw [hview]
  by_cases hlisting : ∃ listing,
      (session.findingIn plan views).shown.disassembly = some (.ok (.disassembly listing))
  · -- the listing says where its lines are, and is not asked again
    obtain ⟨listing, hshown⟩ := hlisting
    rw [show (session.findingIn plan views).position session = _ from
      positionAfter_listing hview hplanned hshown, TargetState.inOrder_moveTo_iff]
    constructor
    · rintro ⟨-, hsecond, hlast⟩ other found hother hfound
      cases hplanned.symm.trans hother
      cases hshown.symm.trans hfound
      exact ⟨hsecond, hlast⟩
    · intro h
      exact ⟨window.first_le_max, h window listing hplanned hshown⟩
  · have hunlisted : (session.findingIn plan views).position session = window.cursor :=
      positionAfter_unlisted hview hplanned fun listing hshown => hlisting ⟨listing, hshown⟩
    have hsecond : window.second = none := second_of_clamped hdisassembly
    rw [hunlisted]
    refine iff_of_true (target.inOrder_moveTo_window ?_) ?_
    · rw [hsecond]
      exact nofun
    · intro _ listing _ hshown
      exact absurd ⟨listing, hshown⟩ hlisting

theorem inOrder_position_iff (hfocus : session.views.get session.focus = true)
    (hnothing : session.NothingContinues target)
    (hplan : session.plan target status address move = .ok plan) :
    (target.moveTo ((session.findingIn plan views).position session)).InOrder ↔
      (session.findingIn plan views).InOrder session := by
  cases hview : session.focus with
  | registers =>
    obtain ⟨hsecond, hlast⟩ := continuation_of_anchor (of_plan hplan).1 (hnothing hview)
    rw [TargetState.inOrder_moveTo_iff, position_of_registers hview hplan, hsecond, hlast]
    unfold Finding.InOrder
    rw [hview]
    exact ⟨fun h => h.1, fun h => ⟨h, nofun, nofun⟩⟩
  | memory =>
    unfold Finding.InOrder
    rw [hview]
    exact iff_of_true (inOrder_position_memory hfocus hview hplan) trivial
  | disassembly => exact inOrder_position_disassembly_iff hfocus hview hplan

end

end Session

/-! ## What a refresh found, along a run -/

/-- What a session finds that has the status and the reply of the views. -/
def Session.found? (session : Session) (target : TargetState) (status : List String)
    (address : Option Nat) (move : Move) (views : List String) : Option Finding :=
  (session.plan target status address move).toOption.map (session.findingIn · views)

/-- What an action has found that has taken its replies: the last two of them are those of its
refresh. -/
def Action.found? (action : Action) (session : Session) (target : TargetState)
    (replies : List (List String)) : Option Finding :=
  match action, replies with
  | .refresh move, [status, views] => session.found? target status none move views
  | .goto address, [status, views] => session.found? target status (some address) .stay views
  | .step _, [_, status, views] => session.found? target status none .stay views
  | _, _ => none

/-- What a refresh found, at the moment at which it puts it in place. -/
def Moment.found? (moment : Moment σ) : Option Finding :=
  match moment.turn, moment.before.task with
  | .proceed _, some task =>
    if task.rest.changesTarget then
      task.action.found? moment.before.session moment.before.world.target task.replies
    else none
  | _, _ => none

namespace Action

/-- What an action promises of the order: a position in order stays so, but for one that the action
found; and where the registers have the focus at its end, nothing continues. -/
def ordering (session : Session) (action : Action) :
    Promise (Except Error (List String) × Session) where
  changes replies target next := target.InOrder →
    (next.InOrder ↔ ∀ finding, action.found? session target replies = some finding →
      finding.InOrder session)
  ends outcome _ target :=
    outcome.2.views.get outcome.2.focus = true ∧ outcome.2.NothingContinues target

variable {session : Session} {target : TargetState}

theorem changes_of_keeping {action : Action} {replies : List (List String)} {next : TargetState}
    (hnone : action.found? session target replies = none) (h : target.InOrder → next.InOrder) :
    (ordering session action).changes replies target next := by
  intro htarget
  rw [hnone]
  exact ⟨fun _ finding hfound => (nomatch hfound), fun _ => h htarget⟩

theorem nothingContinues_onward {now : TargetState} (h : target.Onward now)
    (hnothing : session.NothingContinues target) : session.NothingContinues now := by
  intro hview
  rw [h.position.2.1, h.position.2.2]
  exact hnothing hview

/-- With the focus on the registers, nothing continues what a refresh puts in place either. -/
theorem nothingContinues_position {status views : List String} {address : Option Nat} {move : Move}
    {plan : Cursor × PerView (Option Window)} (hnothing : session.NothingContinues target)
    (hplan : session.plan target status address move = .ok plan) :
    session.NothingContinues
      (target.moveTo ((session.findingIn plan views).position session)) := by
  intro hview
  rw [Session.position_of_registers hview hplan]
  exact Session.continuation_of_anchor (Session.of_plan hplan).1 (hnothing hview)

theorem keeps_ordering_refreshing {action : Action} {refreshed : Session} {address : Option Nat}
    {move : Move} {replies : List (List String)}
    {next : Except Error Unit × Session → Dialogue (Except Error (List String) × Session)}
    (hfocus : refreshed.views.get refreshed.focus = true)
    (hnothing : refreshed.NothingContinues target)
    (hfound : ∀ now status views, action.found? session now (replies ++ [status, views]) =
      refreshed.found? now status address move views)
    (horder : ∀ finding : Finding, finding.InOrder session ↔ finding.InOrder refreshed)
    (hfails : ∀ cause now more, target.Onward now →
      (next (.error cause, refreshed)).Keeps (ordering session action) (replies ++ more) now)
    (hends : ∀ finding more now, refreshed.NothingContinues now →
      (next (.ok (), refreshed.withFinding finding)).Keeps (ordering session action) more now) :
    (refreshing refreshed address move next).Keeps (ordering session action) replies target := by
  refine keeps_refreshing (fun _ _ => trivial) hfails ?_
  intro now status plan views hnow _ hplan
  have hnothingNow := nothingContinues_onward hnow hnothing
  refine ⟨fun htarget => ?_, hends _ _ _ (nothingContinues_position hnothingNow hplan)⟩
  have hsome : refreshed.found? now status address move views =
      some (refreshed.findingIn plan views) := by
    unfold Session.found?
    rw [hplan]
    rfl
  rw [Session.inOrder_position_iff hfocus hnothingNow hplan, hfound, hsome, ← horder]
  constructor
  · rintro h _ ⟨⟩
    exact h
  · intro h
    exact h _ rfl

theorem keeps_ordering_done {action : Action} {outcome : Except Error (List String) × Session}
    {replies : List (List String)} (hfocus : outcome.2.views.get outcome.2.focus = true)
    (hnothing : outcome.2.NothingContinues target) :
    (done outcome).Keeps (ordering session action) replies target := by
  intro now hnow
  exact ⟨hfocus, nothingContinues_onward hnow hnothing⟩

theorem keeps_ordering_asking {action : Action} (request : Request)
    (hfocus : session.views.get session.focus = true) (hnothing : session.NothingContinues target) :
    (courseOfAsking session request).Keeps (ordering session action) [] target :=
  keeps_exchanging (fun _ _ => trivial) (fun _ => keeps_ordering_done hfocus hnothing)
    fun _ => keeps_ordering_done hfocus hnothing

theorem keeps_ordering (action : Action) (hfocus : session.views.get session.focus = true)
    (hnothing : session.NothingContinues target) :
    (action.course session).Keeps (ordering session action) [] target := by
  have hfails (action : Action) (cause : Error) (now : TargetState) (more : List (List String))
      (hnow : target.Onward now) :
      (refreshed (.error cause, session)).Keeps (ordering session action) ([] ++ more) now :=
    keeps_ordering_done hfocus (nothingContinues_onward hnow hnothing)
  have hends (action : Action) (finding : Finding) (more : List (List String)) (now : TargetState)
      (hnow : session.NothingContinues now) :
      (refreshed (.ok (), session.withFinding finding)).Keeps (ordering session action) more now :=
    keeps_ordering_done hfocus hnow
  cases action with
  | refresh move =>
    exact keeps_ordering_refreshing hfocus hnothing (fun _ _ _ => rfl) (fun _ => .rfl) (hfails _)
      (hends _)
  | goto address =>
    simp only [course]
    split
    · exact keeps_ordering_done hfocus hnothing
    · exact keeps_ordering_refreshing hfocus hnothing (fun _ _ _ => rfl) (fun _ => .rfl) (hfails _)
        (hends _)
  | pauseOrResume =>
    intro now hnow
    have hnothingNow := nothingContinues_onward hnow hnothing
    dsimp only
    split
    · intro sent
      rcases sent with cause | _
      · exact keeps_ordering_done hfocus hnothingNow
      · refine fun gone hgone => ⟨changes_of_keeping rfl fun h => ?_, fun cleared hcleared =>
          ⟨changes_of_keeping rfl fun h => h.clear _, fun started => ?_⟩⟩
        · exact ⟨h.ordered, h.first_le_max, h.second_le_max, h.last_le_max⟩
        · exact keeps_ordering_done hfocus fun _ => ⟨rfl, rfl⟩
    · intro sent
      rcases sent with cause | _
      · exact keeps_ordering_done hfocus hnothingNow
      · exact fun started => keeps_ordering_done hfocus hnothingNow
  | step into =>
    intro now hnow
    have hnothingNow := nothingContinues_onward hnow hnothing
    dsimp only
    split
    · intro noise
      rcases noise with cause | noise
      · exact keeps_ordering_done hfocus hnothingNow
      · refine fun halted hhalted => ⟨changes_of_keeping rfl fun h => h.clear _, ?_⟩
        have hcleared : session.NothingContinues (halted.clear session.settings.followPc) :=
          fun _ => ⟨rfl, rfl⟩
        refine keeps_ordering_refreshing hfocus hcleared (fun _ _ _ => rfl) (fun _ => .rfl) ?_ ?_
        · intro cause later more hlater
          exact keeps_ordering_done hfocus (nothingContinues_onward hlater hcleared)
        · intro finding more later hlater
          exact keeps_ordering_done hfocus hlater
    · exact keeps_ordering_done hfocus hnothingNow
  | askRaw text => exact keeps_ordering_asking _ hfocus hnothing
  | loadMemory path address => exact keeps_ordering_asking _ hfocus hnothing
  | saveMemory path address length => exact keeps_ordering_asking _ hfocus hnothing
  | setFocus view =>
    simp only [course, courseOfFocus]
    split
    · exact keeps_ordering_done (PerView.get_set_of_get hfocus view) hnothing
    · exact fun now hnow => ⟨changes_of_keeping rfl fun h => h.forgetContinuation,
        keeps_ordering_done (PerView.get_set_self _ view true) fun _ => ⟨rfl, rfl⟩⟩
  | setActiveViews views =>
    exact keeps_ordering_done (PerView.get_ofList_cons session.focus views) hnothing
  | setLines lines => exact keeps_ordering_done hfocus hnothing
  | setFollowPc followPc => exact keeps_ordering_done hfocus hnothing

end Action

/-! ## Whole runs -/

namespace Scene

variable [Peer σ]

/-- Whether a scene is as the order of its position needs it. -/
def IsOrderly (scene : Scene σ) : Prop :=
  scene.Meets
    (fun session target =>
      session.views.get session.focus = true ∧ session.NothingContinues target)
    fun session task target =>
      task.rest.Keeps (task.action.ordering session) task.replies target

theorem ordering_upheld : Upheld σ
    (fun session target => session.views.get session.focus = true ∧ session.NothingContinues target)
    fun session task target => task.rest.Keeps (task.action.ordering session) task.replies target :=
  upheld_of_keeps (fun hnow h => ⟨h.1, Action.nothingContinues_onward hnow h.2⟩)
    (fun action h => action.keeps_ordering h.1 h.2) fun h => h

/-- A turn leaves a position in order so exactly if the turn puts nothing in place, or what a refresh
found in order. -/
theorem IsOrderly.inOrder_after {scene : Scene σ} (h : scene.IsOrderly)
    (hinOrder : scene.world.target.InOrder) (turn : Turn) :
    (scene.after turn).world.target.InOrder ↔
      ∀ finding, (Moment.mk scene turn).found? = some finding → finding.InOrder scene.session := by
  cases turn with
  | begin action =>
    show (scene.begin action).world.target.InOrder ↔ _
    rw [begin_world]
    exact ⟨fun _ finding hfound => (nomatch hfound), fun _ => hinOrder⟩
  | watch index =>
    refine ⟨fun _ finding hfound => (nomatch hfound), fun _ => ?_⟩
    exact (scene.watch_onward index).inOrder_iff.mpr hinOrder
  | arrive items closes => exact ⟨fun _ finding hfound => (nomatch hfound), fun _ => hinOrder⟩
  | proceed spawns =>
    show (scene.proceed spawns).world.target.InOrder ↔ _
    unfold proceed Moment.found?
    cases htask : scene.task with
    | none => exact ⟨fun _ finding hfound => (nomatch hfound), fun _ => hinOrder⟩
    | some task =>
      have heffect := (h.of_task htask).effect
      dsimp only
      cases hresult : task.rest.result? with
      | some outcome =>
        rw [eq_done_of_result hresult]
        exact ⟨fun _ finding hfound => (nomatch hfound), fun _ => hinOrder⟩
      | none =>
        dsimp only
        rw [carryOn_target]
        rcases heffect with ⟨hchanges, horder⟩ | ⟨hstays, honward⟩
        · rw [hchanges, if_pos rfl]
          exact horder hinOrder
        · rw [hstays, if_neg Bool.false_ne_true]
          exact ⟨fun _ finding hfound => (nomatch hfound),
            fun _ => honward.inOrder_iff.mpr hinOrder⟩

theorem IsOrderly.inOrder_play {scene : Scene σ} (h : scene.IsOrderly)
    (hinOrder : scene.world.target.InOrder) {turns : List Turn}
    (hfound : ∀ moment ∈ scene.moments turns, ∀ finding, moment.found? = some finding →
      finding.InOrder moment.before.session) :
    (scene.play turns).world.target.InOrder := by
  induction turns generalizing scene with
  | nil => exact hinOrder
  | cons turn rest ih =>
    rw [moments, List.forall_mem_cons] at hfound
    have hnext := (h.inOrder_after hinOrder turn).mpr hfound.1
    exact ih (Meets.after ordering_upheld scene turn h) hnext hfound.2

end Scene

/-- Along every run, the position stays in order exactly if every refresh that puts something in
place found it in order. -/
theorem position_stays_in_order_iff [Peer σ] (settings : Settings) (channel : Channel σ)
    (tokensTaken : Nat) (turns : List Turn) :
    let start := Scene.opening settings channel tokensTaken
    (∀ early late, turns = early ++ late → (start.play early).world.target.InOrder) ↔
      ∀ moment ∈ start.moments turns, ∀ finding, moment.found? = some finding →
        finding.InOrder moment.before.session := by
  intro start
  have horderly : start.IsOrderly := ⟨rfl, fun _ => ⟨rfl, rfl⟩⟩
  constructor
  · intro h moment hmoment
    obtain ⟨front, back, hpath⟩ := List.append_of_mem hmoment
    obtain ⟨early, late, hturns, -, hbefore, -⟩ := Scene.exists_turns_of_moments hpath
    have hnow := h early (moment.turn :: late) hturns
    have hnext := h (early ++ [moment.turn]) late (by rw [hturns, List.append_cons])
    rw [Scene.play_append, ← hbefore] at hnext
    rw [← hbefore] at hnow
    have horder := Scene.meets_play Scene.ordering_upheld horderly early
    rw [← hbefore] at horder
    exact (Scene.IsOrderly.inOrder_after horder hnow moment.turn).mp hnext
  · rintro hfound early late rfl
    refine horderly.inOrder_play ⟨nofun, nofun, nofun, nofun⟩ fun moment hmoment => ?_
    refine hfound moment ?_
    rw [Scene.moments_append]
    exact List.mem_append_left _ hmoment

/-- A target whose listing goes back. -/
def listingBackwards : Channel Simulator.Link where
  peer := { machine := {
    script := [("disasm", [[.line "#disasm 001000", .line "- $000500 nop", .line "##"]])] } }

/-- A user who goes to an address with the focus on the disassembly, once the target has stopped. -/
def disassemblingAt (address : Nat) : List Turn :=
  .begin .pauseOrResume :: List.replicate 4 (.proceed true) ++ List.replicate 5 (.watch 0) ++
    .begin (.setFocus .disassembly) :: List.replicate 2 (.proceed true) ++
    .begin (.goto address) :: List.replicate 8 (.proceed true)

/-- A listing puts the last line of the position before its first. -/
theorem listing_spoils_order :
    let target := ((Scene.opening {} listingBackwards 0).play
      (disassemblingAt 0x1000)).world.target
    target.first = some 0x1000 ∧ target.last = some 0x500 ∧ ¬ target.InOrder := by
  intro target
  have hfirst : target.first = some 0x1000 := by decide +kernel
  have hlast : target.last = some 0x500 := by decide +kernel
  refine ⟨hfirst, hlast, fun h => ?_⟩
  exact absurd (h.ordered _ _ hfirst hlast) (by decide)

end RemoteDebug
