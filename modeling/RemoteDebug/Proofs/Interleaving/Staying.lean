import Mathlib.Tactic.MkIffOfInductiveProp
import RemoteDebug.Proofs.Address.Resting
import RemoteDebug.Proofs.Interleaving.Looks

/-!
# Where a screen stays

A goto shows the screen nearest to its address, and that screen holds the address, unless it is the
highest one, where windows have ended already (`goto_shows_address_iff`).

Where a refresh or a goto has led to, the focused view rests (`Session.HasLooked.rests`). A refresh
without a move then plans the windows at the same address over again, for the view that has the
focus as well as for the others. So all refreshes without a move show the windows of the first of
them, whatever the replies to them were (`plain_refreshes_do_not_drift`).
-/

namespace RemoteDebug

open RemoteDebug.Decode RemoteDebug.Wire Dialogue Window

variable {σ : Type}

/-! ## What decides the windows -/

/-- What decides the windows of a session besides the address at which it looks. -/
structure Layout where
  focus : View
  views : PerView Bool
  lines : Nat
deriving DecidableEq, Repr

/-- The layout of a session. -/
def Session.layout (session : Session) : Layout where
  focus := session.focus
  views := session.views
  lines := session.settings.lines

/-- Whether a view that has the focus shows an address at the start of a screen. -/
def Session.RestsAt (session : Session) (first : Nat) : Prop :=
  session.startAt first = first

/-- The windows of a screen that is shown at an address. -/
def Session.windowsAt (session : Session) (first : Nat) :
    Except Error (PerView (Option Window)) :=
  session.plannedWindows { first } .stay

namespace Session

variable {session other : Session} {cursor : Cursor} {move : Move} {target : TargetState}

theorem startAt_of_layout (h : session.layout = other.layout) (first : Nat) :
    session.startAt first = other.startAt first := by
  obtain ⟨hfocus, -, hlines⟩ := Layout.mk.inj h
  unfold startAt
  rw [hfocus, hlines]

theorem plannedWindow_of_layout (h : session.layout = other.layout) (view : View) :
    session.plannedWindow cursor move view = other.plannedWindow cursor move view := by
  obtain ⟨hfocus, hviews, hlines⟩ := Layout.mk.inj h
  unfold plannedWindow
  rw [hfocus, hviews, hlines]

theorem windowsAt_of_layout (h : session.layout = other.layout) (first : Nat) :
    session.windowsAt first = other.windowsAt first := by
  unfold windowsAt plannedWindows
  simp only [plannedWindow_of_layout h]

/-- Without a move no view looks at what continues a screen. -/
theorem plannedWindow_of_isStay (hmove : move.isStay = true) (view : View) :
    session.plannedWindow cursor move view =
      session.plannedWindow { first := cursor.first } .stay view := by
  have hstay : (if view = session.focus then move else .stay).isStay = true := by
    split
    · exact hmove
    · rfl
  unfold plannedWindow
  rw [View.window?_of_isStay _ _ hstay, ite_self]

theorem windowsAt_of_isStay (hmove : move.isStay = true) :
    session.plannedWindows cursor move = session.windowsAt cursor.first := by
  unfold windowsAt plannedWindows
  simp only [plannedWindow_of_isStay hmove]

/-- Where the focused view has no window, it rests everywhere. -/
theorem restsAt_registers (h : session.focus = .registers) (first : Nat) :
    session.RestsAt first := by
  unfold RestsAt startAt
  rw [h]
  rfl

theorem restsAt_of_view (haddressed : session.focus ≠ .registers) {first : Nat}
    (h : session.focus.RestsAt session.settings.lines first) : session.RestsAt first := by
  obtain ⟨window, hwindow, hfirst, -⟩ :=
    View.window?_stay haddressed first session.settings.lines
  unfold RestsAt startAt
  rw [hwindow]
  exact Int.ofNat_inj.mp (hfirst.trans h)

/-- Where a refresh or a goto has led to, the focused view rests. -/
theorem HasLooked.rests (h : session.HasLooked cursor move target)
    (hspace : cursor.second.isSome = true → cursor.first ≤ maxAddress) :
    ∃ first, target.first = some first ∧ session.RestsAt first := by
  have hfirst := h.first
  have hfocused := h.focused
  by_cases hview : session.focus = .registers
  · exact ⟨_, hfirst, restsAt_registers hview _⟩
  · obtain ⟨found, hfound, haddressed, -⟩ :=
      session.focus.window?_fills cursor move session.settings.lines
    rw [View.isAddressed_of_ne hview] at haddressed
    obtain ⟨window, rfl⟩ := Option.isSome_iff_exists.mp haddressed
    rw [hfound] at hfocused
    rw [← Except.ok.inj hfocused] at hfirst
    exact ⟨window.first, hfirst, restsAt_of_view hview (View.restsAt_of_window? hfound hspace)⟩

/-- A refresh without a move plans the windows at the address at which it looks, and ends where the
focused view starts to show it. -/
theorem HasLooked.of_isStay (h : session.HasLooked cursor move target)
    (hmove : move.isStay = true) :
    session.windowsAt cursor.first = .ok session.windows ∧
      target.first = some (session.startAt cursor.first) := by
  have hfirst := h.first
  have hfocused := h.focused
  rw [View.window?_of_isStay _ _ hmove] at hfocused
  refine ⟨(windowsAt_of_isStay hmove).symm.trans h.planned, ?_⟩
  unfold startAt
  rw [hfirst, hfocused]
  cases session.windows.get session.focus <;> rfl

end Session

/-! ## Moments -/

/-- Whether an action refreshes the views where they are, and does nothing else. -/
def Action.staysPut : Action → Bool
  | refresh move => move.isStay
  | _ => false

namespace Moment

variable [Peer σ]

/-- Whether a refresh or a goto succeeds. -/
def looks (moment : Moment σ) : Bool :=
  moment.success?.any Action.isLook

/-- Whether a moment is plain: if an action ends there that has refreshed the views, it is a refresh
without a move in a given layout, and if not, it has not let the target go. -/
def isPlain (layout : Layout) (moment : Moment σ) : Bool :=
  moment.ending?.all fun (task, outcome) =>
    if task.action.hasRefreshed outcome task.replies then
      task.action.staysPut && decide (outcome.2.layout = layout)
    else !task.action.hasLetGo outcome task.replies

end Moment

/-! ## Runs -/

namespace Scene

variable [Peer σ] {scene : Scene σ} {display : Display}

theorem KeepsDisplay.refreshes_of_looks (h : scene.KeepsDisplay display) {turn : Turn}
    (hlooks : (Moment.mk scene turn).looks = true) : (Moment.mk scene turn).refreshes = true := by
  obtain ⟨action, hsuccess, hlook⟩ := (Option.any_eq_true _ _).mp hlooks
  exact (h.refreshes_of_success hsuccess hlook).1

/-- Behind a refresh the focused view rests where the position starts. -/
theorem KeepsDisplay.rests (h : scene.KeepsDisplay display) (hspace : display.StartsInSpace)
    {turn : Turn} (hrefreshes : (Moment.mk scene turn).refreshes = true) :
    ∃ first, (scene.after turn).world.target.first = some first ∧
      (scene.after turn).session.RestsAt first := by
  obtain ⟨task, cursor, move, -, hlooks, hlooked, -⟩ := h.hasLooked hrefreshes
  refine hlooked.rests fun hsecond => ?_
  have hforgotten (hnone : cursor.second = none) : cursor.first ≤ maxAddress := by
    rw [hnone] at hsecond
    cases hsecond
  cases haction : task.action with
  | refresh wanted =>
    rw [haction] at hlooks
    obtain ⟨-, hsame, -, hfirst⟩ := hlooks
    rw [hsame] at hsecond
    obtain ⟨first, hknown, hinside⟩ := hspace hsecond
    rw [hfirst first hknown]
    exact hinside
  | goto address =>
    rw [haction] at hlooks
    exact hforgotten (congrArg Cursor.second hlooks.2.2)
  | _ =>
    rw [haction] at hlooks
    exact hforgotten hlooks

/-- A refresh without a move at an address where the focused view rests stays there, and plans the
windows of a screen at it. -/
theorem KeepsDisplay.staysPut (h : scene.KeepsDisplay display) {session : Session} {first : Nat}
    (hrests : session.RestsAt first) (hfirst : display.first = some first) {turn : Turn}
    {task : Task} {outcome : Except Error (List String) × Session}
    (hending : (Moment.mk scene turn).ending? = some (task, outcome))
    (hrefreshed : task.action.hasRefreshed outcome task.replies = true)
    (hstays : task.action.staysPut = true) (hlayout : outcome.2.layout = session.layout) :
    (scene.after turn).world.target.first = some first ∧
      session.windowsAt first = .ok (scene.after turn).session.windows := by
  have hrefreshes : (Moment.mk scene turn).refreshes = true := by
    simp [Moment.refreshes, hending, hrefreshed]
  obtain ⟨other, cursor, move, htask, hlooks, hlooked, -⟩ := h.hasLooked hrefreshes
  rw [(Moment.of_ending hending).1] at htask
  obtain rfl := Option.some.inj htask
  obtain ⟨hafter, -, -, -⟩ := h.ends hending
  have hsame : (scene.after turn).session.layout = session.layout := by rwa [hafter]
  cases haction : task.action with
  | refresh wanted =>
    rw [haction] at hlooks hstays
    obtain ⟨rfl, -, -, hstart⟩ := hlooks
    obtain ⟨hwindows, hplaced⟩ := hlooked.of_isStay hstays
    rw [hstart first hfirst] at hwindows hplaced
    rw [Session.startAt_of_layout hsame, hrests] at hplaced
    rw [Session.windowsAt_of_layout hsame] at hwindows
    exact ⟨hplaced, hwindows⟩
  | _ =>
    rw [haction] at hstays
    cases hstays

/-- A plain turn keeps the first address where the focused view rests. A refresh there plans the
windows at it, and nothing else changes them. -/
theorem KeepsDisplay.after_plain (h : scene.KeepsDisplay display) {session : Session} {first : Nat}
    (hrests : session.RestsAt first) (hfirst : display.first = some first) {turn : Turn}
    (hplain : (Moment.mk scene turn).isPlain session.layout = true) :
    ∃ now, (scene.after turn).KeepsDisplay now ∧ now.first = some first ∧
      if (Moment.mk scene turn).refreshes then session.windowsAt first = .ok now.windows
      else now.windows = display.windows := by
  unfold Moment.isPlain at hplain
  cases hending : (Moment.mk scene turn).ending? with
  | none =>
    refine ⟨display, h.after_of_going (looking_carried display) turn hending, hfirst, ?_⟩
    simp [Moment.refreshes, hending]
  | some ending =>
    obtain ⟨task, outcome⟩ := ending
    obtain ⟨hafter, -, -, hpromise⟩ := h.ends hending
    have hrefreshes : (Moment.mk scene turn).refreshes =
        task.action.hasRefreshed outcome task.replies := by
      simp [Moment.refreshes, hending]
    refine ⟨_, (h.renewed (Option.isSome_of_mem hending)).2, ?_⟩
    rw [hending, Option.all_some] at hplain
    dsimp only at hplain
    rw [hrefreshes]
    cases hrefreshed : task.action.hasRefreshed outcome task.replies with
    | true =>
      rw [hrefreshed, if_pos rfl, Bool.and_eq_true, decide_eq_true_eq] at hplain
      rw [if_pos rfl]
      exact h.staysPut hrests hfirst hending hrefreshed hplain.1 hplain.2
    | false =>
      rw [hrefreshed, if_neg Bool.false_ne_true, Bool.not_eq_true'] at hplain
      rw [hrefreshed, if_neg Bool.false_ne_true] at hpromise
      rw [if_neg Bool.false_ne_true, hafter]
      obtain ⟨hsame, hwindows⟩ := (hpromise.2 hplain).1
      exact ⟨hsame.trans hfirst, hwindows⟩

/-- So do plain turns, and the windows are those at the first address from the first refresh on. -/
theorem KeepsDisplay.play_plain (h : scene.KeepsDisplay display) {session : Session} {first : Nat}
    (hrests : session.RestsAt first) (hfirst : display.first = some first) {turns : List Turn}
    (hplain : ∀ moment ∈ scene.moments turns, moment.isPlain session.layout = true) :
    ∃ now, (scene.play turns).KeepsDisplay now ∧ now.first = some first ∧
      (session.windowsAt first = .ok display.windows ∨
        (∃ moment ∈ scene.moments turns, moment.refreshes = true) →
      session.windowsAt first = .ok now.windows) := by
  induction turns generalizing scene display with
  | nil =>
    refine ⟨display, h, hfirst, ?_⟩
    rintro (hsettled | ⟨moment, hmoment, -⟩)
    · exact hsettled
    · cases hmoment
  | cons turn rest ih =>
    rw [moments, List.forall_mem_cons] at hplain
    obtain ⟨next, hnext, hnextFirst, hwindows⟩ := h.after_plain hrests hfirst hplain.1
    obtain ⟨now, hnow, hnowFirst, hsettles⟩ := ih hnext hnextFirst hplain.2
    refine ⟨now, hnow, hnowFirst, fun hbefore => hsettles ?_⟩
    rw [moments, List.exists_mem_cons_iff] at hbefore
    cases hrefreshes : (Moment.mk scene turn).refreshes with
    | true =>
      rw [if_pos hrefreshes] at hwindows
      exact .inl hwindows
    | false =>
      rw [hrefreshes, if_neg Bool.false_ne_true] at hwindows
      rw [hrefreshes, hwindows.symm] at hbefore
      rcases hbefore with hsettled | hnow | hlater
      · exact .inl hsettled
      · cases hnow
      · exact .inr hlater

end Scene

/-! ## Going to an address -/

/-- A goto that succeeds with the focus on a view of addresses went to one of the address space, and
the window that it asked for holds this address exactly if it is not the highest one. -/
theorem goto_shows_address_iff [Peer σ] {settings : Settings} {channel : Channel σ}
    {tokensTaken : Nat} {early : List Turn} {last : Turn} {address : Nat} :
    let before := (Scene.opening settings channel tokensTaken).play early
    let session := (before.after last).session
    (Moment.mk before last).success? = some (.goto address) → session.focus ≠ .registers →
      address ≤ maxAddress ∧ ∃ window, session.currentWindow = some window ∧
        (window.Contains address ↔ address < maxAddress) := by
  intro before session hsuccess haddressed
  obtain ⟨display, hkeeps, -⟩ := Scene.exists_keepsDisplay settings channel tokensTaken early
  obtain ⟨hrefreshes, haction⟩ := hkeeps.refreshes_of_success hsuccess rfl
  obtain ⟨task, cursor, move, htask, hlooks, hlooked, -⟩ := hkeeps.hasLooked hrefreshes
  rw [htask] at haction
  rw [Option.some.inj haction] at hlooks
  obtain ⟨hinside, rfl, rfl⟩ := hlooks
  refine ⟨hinside, ?_⟩
  obtain ⟨window, hwindow, -⟩ := View.window?_stay haddressed address session.settings.lines
  have hcurrent : session.currentWindow = some window :=
    Except.ok.inj (hlooked.focused.symm.trans hwindow)
  exact ⟨window, hcurrent, View.contains_of_stay_iff hwindow hinside⟩

/-- A target that answers the first requests for memory and for instructions with nothing. -/
def tellingNothing : Channel Simulator.Link where
  peer := { machine := {
    script := [("memory", List.replicate 3 []), ("disasm", List.replicate 3 [])] } }

/-- The memory at an address below the highest one is shown. -/
theorem goto_shows_middle :
    let before := (Scene.opening {} tellingNothing 0).play (visiting [.memory] 0x1000)
    let session := (before.after (.proceed true)).session
    ((Moment.mk before (.proceed true)).success? = some (.goto 0x1000) ∧
      session.focus ≠ .registers) ∧
    ∃ window, session.currentWindow = some window ∧ window.Contains 0x1000 := by
  intro before session
  have hrun : (Moment.mk before (.proceed true)).success? = some (.goto 0x1000) ∧
      session.focus ≠ .registers := by decide +kernel
  obtain ⟨hsuccess, hfocus⟩ := hrun
  obtain ⟨-, window, hwindow, hcontains⟩ := goto_shows_address_iff hsuccess hfocus
  exact ⟨⟨hsuccess, hfocus⟩, window, hwindow, hcontains.mpr (by decide)⟩

/-- The highest address can be gone to, but the window ends before it. -/
theorem goto_misses_highest :
    let before := (Scene.opening {} tellingNothing 0).play (visiting [.memory] maxAddress)
    let session := (before.after (.proceed true)).session
    (Moment.mk before (.proceed true)).success? = some (.goto maxAddress) ∧
    session.focus = .memory ∧
    ∃ window, session.currentWindow = some window ∧ ¬ window.Contains maxAddress := by
  intro before session
  have hrun : (Moment.mk before (.proceed true)).success? = some (.goto maxAddress) ∧
      session.focus = .memory ∧ session.currentWindow.isSome = true := by decide +kernel
  obtain ⟨hsuccess, hfocus, hsome⟩ := hrun
  obtain ⟨window, hwindow⟩ := Option.isSome_iff_exists.mp hsome
  -- no window holds the highest address, since it would have to end behind it
  exact ⟨hsuccess, hfocus, window, hwindow, fun h => Nat.not_lt.mpr window.last_le_max h.2⟩

/-! ## Refreshing in place -/

/-- A run in which a screen is refreshed in place: some turns, the turn at which a refresh or a goto
succeeds, and plain turns, at one of which a refresh succeeds again, up to the end of an action. -/
@[mk_iff] structure RefreshedInPlace [Peer σ] (start : Scene σ) (early : List Turn) (shown : Turn)
    (calm : List Turn) (again : Turn) (later : List Turn) : Prop where
  shows : (Moment.mk (start.play early) shown).looks = true
  plain : ∀ moment ∈ ((start.play early).after shown).moments (calm ++ again :: later),
    moment.isPlain ((start.play early).after shown).session.layout = true
  showsAgain : (Moment.mk (((start.play early).after shown).play calm) again).looks = true
  idle : (((start.play early).after shown).play (calm ++ again :: later)).task.isNone = true

instance [Peer σ] (start : Scene σ) (early : List Turn) (shown : Turn) (calm : List Turn)
    (again : Turn) (later : List Turn) :
    Decidable (RefreshedInPlace start early shown calm again later) :=
  decidable_of_iff _ (refreshedInPlace_iff ..).symm

/-- Refreshes in place leave the first address where the refresh or the goto before them has led to,
and from the first of them on the windows of all views stay the same. -/
theorem plain_refreshes_do_not_drift [Peer σ] {settings : Settings} {channel : Channel σ}
    {tokensTaken : Nat} {early calm later : List Turn} {shown again : Turn}
    (h : RefreshedInPlace (.opening settings channel tokensTaken) early shown calm again later) :
    let behind := ((Scene.opening settings channel tokensTaken).play early).after shown
    let refreshed := behind.play (calm ++ [again])
    let now := behind.play (calm ++ again :: later)
    now.world.target.first = behind.world.target.first ∧
      now.session.windows = refreshed.session.windows := by
  intro behind refreshed now
  obtain ⟨display, hkeeps, hspace⟩ := Scene.exists_keepsDisplay settings channel tokensTaken early
  have hshows := hkeeps.refreshes_of_looks h.shows
  obtain ⟨first, hfirst, hrests⟩ := hkeeps.rests hspace hshows
  have hbehind : behind.KeepsDisplay behind.display :=
    (hkeeps.renewed (Moment.ends_of_refreshes hshows)).2
  -- the plain turns split at the refresh: those up to it settle the windows
  have hplain := h.plain
  rw [List.append_cons, Scene.moments_append, List.forall_mem_append] at hplain
  have hcalm := hplain.1
  rw [Scene.moments_append, List.forall_mem_append] at hcalm
  obtain ⟨quiet, hquiet, -⟩ := hbehind.play_plain hrests hfirst hcalm.1
  have hagain := hquiet.refreshes_of_looks h.showsAgain
  have hmoment : ∃ moment ∈ behind.moments (calm ++ [again]), moment.refreshes = true := by
    refine ⟨⟨behind.play calm, again⟩, ?_, hagain⟩
    rw [Scene.moments_append]
    exact List.mem_append_right _ List.mem_cons_self
  obtain ⟨settled, hsettled, hsettledFirst, hsettles⟩ := hbehind.play_plain hrests hfirst hplain.1
  have hwindows := hsettles (.inr hmoment)
  obtain ⟨last, hlast, hlastFirst, hstays⟩ := hsettled.play_plain hrests hsettledFirst hplain.2
  have hlastWindows := hstays (.inl hwindows)
  rw [← Scene.play_append, ← List.append_cons] at hlast
  -- both scenes stand between two actions, so they display what they keep
  have hidleAgain : refreshed.task = none := by
    rw [show refreshed = (behind.play calm).after again from Scene.play_append _ _ _]
    exact (hquiet.renewed (Moment.ends_of_refreshes hagain)).1
  obtain rfl := hlast.of_idle (Option.isNone_iff_eq_none.mp h.idle)
  obtain rfl := hsettled.of_idle hidleAgain
  exact ⟨hlastFirst.trans hfirst.symm, Except.ok.inj (hlastWindows.symm.trans hwindows)⟩

/-- With the focus on the memory near the upper end of the space, a goto shows the disassembly at
its address, and the first refresh in place at the start of the memory window; there it stays. -/
theorem refreshes_stay_near_the_end :
    RefreshedInPlace (.opening {} tellingNothing 0) (visiting [.disassembly, .memory] 0xFFFF80)
      (.proceed true) untilRefreshed (.proceed true) (untilRefreshed ++ [.proceed true]) ∧
    let behind := ((Scene.opening {} tellingNothing 0).play
      (visiting [.disassembly, .memory] 0xFFFF80)).after (.proceed true)
    let refreshed := behind.play (untilRefreshed ++ [.proceed true])
    let now := behind.play (untilRefreshed ++ .proceed true :: (untilRefreshed ++ [.proceed true]))
    behind.session.windows ≠ refreshed.session.windows ∧
    now.world.target.first = behind.world.target.first ∧
      now.session.windows = refreshed.session.windows := by
  have h : RefreshedInPlace (.opening {} tellingNothing 0)
      (visiting [.disassembly, .memory] 0xFFFF80) (.proceed true) untilRefreshed (.proceed true)
      (untilRefreshed ++ [.proceed true]) := by decide +kernel
  have hmoves :
      let behind := ((Scene.opening {} tellingNothing 0).play
        (visiting [.disassembly, .memory] 0xFFFF80)).after (.proceed true)
      behind.session.windows ≠
        (behind.play (untilRefreshed ++ [.proceed true])).session.windows := by decide +kernel
  have hstays := plain_refreshes_do_not_drift h
  -- from here on the run counts no more
  generalize ((Scene.opening {} tellingNothing 0).play
    (visiting [.disassembly, .memory] 0xFFFF80)).after (.proceed true) = behind at hmoves hstays ⊢
  exact ⟨h, hmoves, hstays⟩

end RemoteDebug
