import RemoteDebug.Proofs.Session.ScriptedTarget
import RemoteDebug.Proofs.Session.Action
import RemoteDebug.Proofs.Session.ShownBlocks

/-!
# Views do not disturb each other

The reply to the requests of a refresh holds blocks for several views, and a target may leave some
of them out, repeat them or send nonsense in their place. What a view shows depends on its own
blocks alone, and so does everything else that a refresh does but for the addresses that a listing
tells (`view_is_isolated`). Up to the reply a refresh does not know the blocks (`World.decided`),
and what it does with the reply (`Session.takingIn`) does not fail whatever they are.
-/

namespace RemoteDebug

open RemoteDebug.Wire RemoteDebug.Decode

variable {σ τ : Type} [Peer σ] [Peer τ]

/-! ## A refresh in two halves -/

namespace World

/-- Where a refresh looks and which windows it asks for, with the world in which it asks for the
views. -/
def decided (world : World σ) (session : Session) (address : Option Nat) (move : Move) :
    Except Error ((Cursor × PerView (Option Window)) × World σ) := do
  let (answer, behind) := world.exchange session.settings.replyLimit [.status]
  let status ← answer
  let cursor ← anchor world.target (status.block? .status) address
  let windows ← session.plannedWindows cursor move
  return ((cursor, windows), behind)

/-- The outcome of the exchange in which a refresh asks for the views, if it gets there. -/
def viewsAnswer? (world : World σ) (session : Session) (address : Option Nat) (move : Move) :
    Option (Except Error Reply) :=
  (world.decided session address move).toOption.map fun (plan, behind) =>
    (behind.exchange session.settings.replyLimit (session.viewRequests plan.2)).1

/-- What a refresh decides depends on the status alone. -/
theorem decided_congr {world : World σ} {other : World τ} {session : Session}
    (htarget : other.target = world.target)
    (hstatus : (other.exchange session.settings.replyLimit [.status]).1 =
      (world.exchange session.settings.replyLimit [.status]).1)
    (address : Option Nat) (move : Move) :
    (other.decided session address move).map (·.1) =
      (world.decided session address move).map (·.1) := by
  unfold decided
  rw [htarget]
  dsimp only
  rw [hstatus]
  cases (world.exchange session.settings.replyLimit [.status]).1 with
  | error cause => rfl
  | ok status =>
    simp only [bind, Except.bind]
    cases anchor world.target (status.block? .status) address with
    | error cause => rfl
    | ok cursor =>
      obtain ⟨windows, hplan, -⟩ := session.plannedWindows_ok cursor move
      simp only [hplan]
      rfl

end World

/-- What a refresh of a stopped target makes of the answer to its requests for the views. -/
def Session.takingIn (session : Session) (target : TargetState)
    (plan : Cursor × PerView (Option Window)) :
    Except Error Reply → (Except Error Unit × Session) × TargetState
  | .error cause => ((.error cause, session), target)
  | .ok reply =>
    let shown := session.shownIn reply.blocks
    ((.ok (), { session.withShown plan.2 shown with phase := .stopped }),
      target.moveTo (session.positionAfter plan.1 plan.2 shown))

/-- What a refresh of a stopped target leaves behind: where it fails, nothing but the error. -/
theorem outcome_refresh_of_stopped {world : World σ} (hstopped : world.target.stopped = true)
    (session : Session) (address : Option Nat) (move : Move) :
    outcome (refresh address move) session world =
      match world.decided session address move with
      | .error cause => ((.error cause, session), world.target)
      | .ok (plan, behind) =>
        session.takingIn world.target plan
          (behind.exchange session.settings.replyLimit (session.viewRequests plan.2)).1 := by
  have htarget := world.exchange_target_of_stopped session.settings.replyLimit [.status] hstopped
  unfold outcome World.decided
  simp only [runIn_refresh, runIn_refreshCycle, hstopped, if_true, bind, Except.bind]
  rcases hask : world.exchange session.settings.replyLimit [.status] with ⟨cause | status, behind⟩
  · rw [hask] at htarget
    exact Prod.ext rfl htarget
  · rw [hask] at htarget
    dsimp only at htarget ⊢
    cases anchor world.target (status.block? .status) address with
    | error cause => exact Prod.ext rfl htarget
    | ok cursor =>
      obtain ⟨windows, hplan, -⟩ := session.plannedWindows_ok cursor move
      have hstays := behind.exchange_target_of_stopped session.settings.replyLimit
        (session.viewRequests windows) (by rw [htarget, hstopped])
      simp only [lookAt, hplan, pure, Except.pure]
      rcases hlook : behind.exchange session.settings.replyLimit (session.viewRequests windows) with
        ⟨cause | reply, after⟩
      · rw [hlook] at hstays
        exact Prod.ext rfl (hstays.trans htarget)
      · rw [hlook] at hstays
        dsimp only at hstays ⊢
        rw [hstays, htarget]
        rfl

/-! ## Two refreshes -/

/-- The blocks that an answer holds for a view. -/
def View.blocksIn (view : View) (answer : Except Error Reply) : Except Error (List Block) :=
  answer.map fun reply => reply.blocks.filter (·.isFor view)

/-- Whether two refreshes of a session come to the same as far as a view is concerned. What a
listing told of the position is no concern of the other views. -/
structure SameFor (view : View) (session : Session)
    (one other : (Except Error Unit × Session) × TargetState) : Prop where
  result : other.1.1 = one.1.1
  shown : other.1.2.shown.get view = one.1.2.shown.get view
  windows : other.1.2.windows = one.1.2.windows
  first : other.2.first = one.2.first
  position : (session.focus = .disassembly → view = .disassembly) → other.2 = one.2

theorem SameFor.refl (view : View) (session : Session)
    (one : (Except Error Unit × Session) × TargetState) : SameFor view session one one :=
  ⟨rfl, rfl, rfl, rfl, fun _ => rfl⟩

namespace Session

/-- A position depends on what the disassembly shows only, and on that only if it has the focus. -/
theorem positionAfter_congr {session : Session} {cursor : Cursor}
    {windows : PerView (Option Window)} {shown other : PerView (Option Shown)}
    (h : session.focus = .disassembly → other.get .disassembly = shown.get .disassembly) :
    session.positionAfter cursor windows other = session.positionAfter cursor windows shown := by
  unfold positionAfter
  cases hfocus : session.focus with
  | registers => rfl
  | memory => rfl
  | disassembly =>
    have hshown : other.disassembly = shown.disassembly := h hfocus
    rw [hshown]

/-- Answers with the same blocks for a view come to the same for it. -/
theorem sameFor_takingIn {session : Session} {view : View} {answer found : Except Error Reply}
    (h : view.blocksIn found = view.blocksIn answer) (target : TargetState)
    (plan : Cursor × PerView (Option Window)) :
    SameFor view session (session.takingIn target plan answer)
      (session.takingIn target plan found) := by
  rcases answer with cause | reply <;> rcases found with other | found
  · cases h
    exact .refl _ _ _
  · cases h
  · cases h
  · have hblocks : found.blocks.filter (·.isFor view) = reply.blocks.filter (·.isFor view) :=
      Except.ok.inj h
    have hshown : (session.shownIn found.blocks).get view =
        (session.shownIn reply.blocks).get view := by
      rw [get_shownIn, get_shownIn, hblocks]
    refine ⟨rfl, hshown, rfl, ?_, fun hview => ?_⟩
    · exact congrArg some ((positionAfter_first ..).trans (positionAfter_first ..).symm)
    · refine congrArg target.moveTo (positionAfter_congr fun hfocus => ?_)
      rw [hview hfocus] at hshown
      exact hshown

end Session

/-- A refresh that succeeds shows in a view what the last of its blocks does. -/
theorem shown_of_refresh {world : World σ} (hstopped : world.target.stopped = true)
    {session : Session} {address : Option Nat} {move : Move}
    (hok : (outcome (refresh address move) session world).1.1 = .ok ()) (view : View) :
    ∃ reply, world.viewsAnswer? session address move = some (.ok reply) ∧
      (outcome (refresh address move) session world).1.2.shown.get view =
        if session.views.get view then
          (reply.blocks.filter (·.isFor view)).getLast?.map (content view · session.snapshot)
        else none := by
  rw [outcome_refresh_of_stopped hstopped] at hok ⊢
  unfold World.viewsAnswer?
  generalize world.decided session address move = decided at hok ⊢
  rcases decided with cause | ⟨plan, behind⟩
  · cases hok
  · dsimp only at hok ⊢
    cases hreply :
        (behind.exchange session.settings.replyLimit (session.viewRequests plan.2)).1 with
    | error cause =>
      rw [hreply] at hok
      cases hok
    | ok reply => exact ⟨reply, congrArg some hreply, session.get_shownIn reply.blocks view⟩

/-- A view is isolated from the others. Let a stopped target answer a refresh in two worlds: the
request for the status in the same way, and the requests for the views with the same blocks for one
view, whatever the other blocks are. Then the refresh has the same result in both, the view shows
the same, the windows and the first address of the position are the same, and so is the whole
position unless a listing may tell it that is of another view. If the refresh succeeds, the view
shows its last block, if it is active and has one, read against the registers from before the
refresh. -/
theorem view_is_isolated (session : Session) (view : View) (address : Option Nat) (move : Move)
    (world : World σ) (other : World τ) (hstopped : world.target.stopped = true)
    (htarget : other.target = world.target)
    (hstatus : (other.exchange session.settings.replyLimit [.status]).1 =
      (world.exchange session.settings.replyLimit [.status]).1)
    (hviews : (other.viewsAnswer? session address move).map view.blocksIn =
      (world.viewsAnswer? session address move).map view.blocksIn) :
    SameFor view session (outcome (refresh address move) session world)
        (outcome (refresh address move) session other) ∧
      ((outcome (refresh address move) session world).1.1 = .ok () →
        ∃ reply, world.viewsAnswer? session address move = some (.ok reply) ∧
          (outcome (refresh address move) session world).1.2.shown.get view =
            if session.views.get view then
              (reply.blocks.filter (·.isFor view)).getLast?.map (content view · session.snapshot)
            else none) := by
  refine ⟨?_, fun hok => shown_of_refresh hstopped hok view⟩
  have hother : other.target.stopped = true := by rw [htarget, hstopped]
  have hdecided := World.decided_congr htarget hstatus address move
  rw [outcome_refresh_of_stopped hstopped, outcome_refresh_of_stopped hother, htarget]
  unfold World.viewsAnswer? at hviews
  generalize world.decided session address move = decided at hdecided hviews ⊢
  generalize other.decided session address move = otherDecided at hdecided hviews ⊢
  rcases decided with cause | ⟨plan, behind⟩ <;>
    rcases otherDecided with otherCause | ⟨otherPlan, otherBehind⟩
  · cases hdecided
    exact .refl _ _ _
  · cases hdecided
  · cases hdecided
  · obtain rfl : otherPlan = plan := Except.ok.inj hdecided
    exact Session.sameFor_takingIn (Option.some.inj hviews) _ _

/-- A world in which a stopped target at `$002000` answers the request for the registers with some
lines, and the one for the memory with two bytes. -/
def tellingRegisters (registers : List String) : World Script where
  channel := Script.channel [] [] [[.line "#status PC:002000", .line "##"], [.line "#echo sync-1"],
    registers.map .line, [.line "#mem OK 002000 000002 4e71", .line "##"], [.line "#echo sync-2"]]
  target := { stopped := true }

/-- The memory view does not mind registers that cannot be read, nor an unknown block. -/
theorem memory_is_isolated_from_registers :
    let session : Session := { views := .ofList [.registers, .memory], focus := .memory }
    let world := tellingRegisters ["#registers D0:00000001", "##"]
    let other := tellingRegisters ["#trace on", "#registers D0:nonsense", "##"]
    SameFor .memory session (outcome (refresh none .stay) session world)
        (outcome (refresh none .stay) session other) ∧
      (outcome (refresh none .stay) session other).1.1 = .ok () ∧
      (outcome (refresh none .stay) session other).1.2.shown.memory =
        some (.ok (.memory { start := 0x2000, bytes := [0x4E, 0x71] })) ∧
      (outcome (refresh none .stay) session other).1.2.shown.registers ≠
        (outcome (refresh none .stay) session world).1.2.shown.registers := by
  intro session world other
  have hsame := view_is_isolated session .memory none .stay world other rfl rfl
    (by decide +kernel) (by decide +kernel)
  refine ⟨hsame.1, by decide +kernel, by decide +kernel, by decide +kernel⟩

end RemoteDebug
