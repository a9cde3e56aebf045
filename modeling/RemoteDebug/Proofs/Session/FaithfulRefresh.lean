import RemoteDebug.Proofs.Session.Action
import RemoteDebug.Proofs.Session.MirrorTarget
import RemoteDebug.Proofs.Session.Planning
import RemoteDebug.Proofs.Session.ShownBlocks

/-!
# Refreshing from a faithful target

A refresh of a stopped, faithful target shows what the target holds and nothing else
(`refresh_shows_what_is_held`): in each active view the content of its window, and the position at
the window of the focused view. The time of its reader must not run out before the echo is read: a
reader looks at its clock behind every item but the awaited one, and gives up when its limit is
reached, however complete the reply is by then (`Channel.isOk_awaitTimed_iff`). While items remain
the clock of a channel stands still, so a reader whose limit it reaches gives up at the first line
(`refresh_without_time_fails`).

The proof goes the way of the refresh. The first exchange brings a block that tells the program
counter, which is all that can be needed to know where to look (`anchor_of_faithful`). The second
brings a block for each active view, in order, and each is read as what it tells
(`block?_of_writes`); collecting them gives each view its own (`isShownIn_of_writes`).
-/

namespace RemoteDebug

open RemoteDebug.Wire RemoteDebug.Decode

/-! ## What the views show -/

/-- What a view shows of a target, of a window if the view has one. -/
def Held.content (held : Held) (previous : Option Snapshot) : View → Option Window → Content
  | .memory, some window => .memory (held.dump window)
  | .disassembly, some window => .disassembly (held.listing window)
  | _, _ => .registers (held.report previous)

/-- Whether a table shows, in the active views of a session, what a target holds, and nothing in the
others. -/
def Held.IsShownIn (held : Held) (session : Session) (windows : PerView (Option Window))
    (shown : PerView (Option Shown)) : Prop :=
  ∀ view, shown.get view =
    if session.views.get view then
      some (.ok (held.content session.snapshot view (windows.get view)))
    else none

theorem replyKind?_ofView (view : View) (window : Option Window) :
    (Request.ofView view window).replyKind?.isSome = true := by
  cases view <;> cases window <;> rfl

/-- A block that tells what a view asks for is shown as what the target holds. -/
theorem block?_of_writes {held : Held} {view : View} {window : Option Window} {block : Block}
    (hfits : window.isSome = view.isAddressed) (h : held.Writes (.ofView view window) block)
    (previous : Option Snapshot) :
    Decode.block? block previous = some (view, .ok (held.content previous view window)) := by
  have hkind := Held.replyKind?_of_writes h
  unfold Decode.block?
  cases view with
  | registers =>
    obtain rfl : window = none :=
      Option.isNone_iff_eq_none.mp (by simpa [View.isAddressed] using hfits)
    rw [← Option.some.inj hkind]
    simp only [viewOfKind?, Option.map_some, Decode.content,
      registers_of_writes h held.registers_some held.registers_le]
    rfl
  | memory =>
    obtain ⟨asked, rfl⟩ := Option.isSome_iff_exists.mp hfits
    have hstop : (held.dump asked).stop ≤ maxAddress + 1 := by
      have hwidth : (held.dump asked).stop = asked.first + (asked.last - asked.first) := by
        simp [Held.dump, MemoryDump.stop, MemoryDump.size, Window.width]
      have hfirst := asked.first_lt_last
      have hlast := asked.last_le_max
      omega
    rw [← Option.some.inj hkind]
    simp only [viewOfKind?, Option.map_some, Decode.content,
      memory_of_writes h asked.first_le_max hstop]
    rfl
  | disassembly =>
    obtain ⟨asked, rfl⟩ := Option.isSome_iff_exists.mp hfits
    have hbound : asked.first < wordBound :=
      Nat.lt_of_le_of_lt asked.first_le_max (by decide)
    rw [← Option.some.inj hkind]
    simp only [viewOfKind?, Option.map_some, Decode.content,
      disassembly_of_writes h hbound (held.instructions_writable _ _)]
    rfl

namespace Session

theorem shownIn_filter_isKnown (session : Session) (blocks : List Block) :
    session.shownIn (blocks.filter (·.kind.isKnown)) = session.shownIn blocks := by
  rw [shownIn_eq_foldl, shownIn_eq_foldl, List.foldl_filter]
  congr 1
  funext shown block
  split
  · rfl
  · rename_i hunknown
    have hnone : Decode.block? block session.snapshot = none := by
      unfold Decode.block?
      cases hkind : block.kind <;> simp_all [BlockKind.isKnown, viewOfKind?]
    unfold showBlock
    rw [hnone]

/-- One block for each of some active views gives each of them its content. -/
theorem get_foldl_showBlock {session : Session} {views : List View} {blocks : List Block}
    {content : View → Shown}
    (h : List.Forall₂ (fun view block => Decode.block? block session.snapshot =
      some (view, content view)) views blocks)
    (hactive : ∀ view ∈ views, session.views.get view = true) (start : PerView (Option Shown))
    (view : View) :
    (blocks.foldl session.showBlock start).get view =
      if view ∈ views then some (content view) else start.get view := by
  induction h generalizing start with
  | nil => rfl
  | @cons first block rest later hblock _ ih =>
    obtain ⟨hfirst, hrest⟩ := List.forall_mem_cons.mp hactive
    have hshow : session.showBlock start block = start.set first (some (content first)) := by
      unfold showBlock
      rw [hblock]
      dsimp only
      rw [if_pos hfirst]
    rw [List.foldl_cons, hshow, ih hrest, PerView.get_set]
    by_cases hlater : view ∈ rest
    · rw [if_pos hlater, if_pos (List.mem_cons_of_mem _ hlater)]
    · by_cases hsame : first = view
      · subst hsame
        rw [if_neg hlater, if_pos rfl, if_pos List.mem_cons_self]
      · rw [if_neg hlater, if_neg hsame, if_neg]
        exact fun hmem => (List.mem_cons.mp hmem).elim (fun heq => hsame heq.symm) hlater

end Session

/-- Blocks that tell what the active views ask for show what the target holds. -/
theorem isShownIn_of_writes {held : Held} {session : Session} {windows : PerView (Option Window)}
    (hfits : ∀ view, session.views.get view = true →
      (windows.get view).isSome = view.isAddressed) {blocks : List Block}
    (h : List.Forall₂ held.Writes (session.viewRequests windows)
      (blocks.filter (·.kind.isKnown))) :
    held.IsShownIn session windows (session.shownIn blocks) := by
  have hactive : ∀ view ∈ session.views.toList, session.views.get view = true :=
    fun view => (PerView.mem_toList_iff _ view).mp
  unfold Session.viewRequests at h
  rw [List.forall₂_map_left_iff] at h
  have hread : List.Forall₂ (fun view block => Decode.block? block session.snapshot =
      some (view, .ok (held.content session.snapshot view (windows.get view))))
      session.views.toList (blocks.filter (·.kind.isKnown)) :=
    ((List.forall₂_and_left _ _).mpr ⟨hactive, h⟩).imp fun view block hblock =>
      block?_of_writes (hfits view hblock.1) hblock.2 _
  intro view
  rw [← session.shownIn_filter_isKnown, Session.shownIn_eq_foldl,
    Session.get_foldl_showBlock hread hactive, PerView.get_const]
  simp only [PerView.mem_toList_iff]

/-! ## The refresh -/

theorem block?_filter_isKnown (reply : Reply) {kind : BlockKind} (hknown : kind.isKnown = true) :
    (reply.blocks.filter (·.kind.isKnown)).find? (·.kind == kind) = reply.block? kind := by
  unfold Reply.block?
  rw [List.find?_filter]
  congr 1
  funext block
  by_cases hkind : block.kind = kind
  · simp [hkind, hknown]
  · simp [hkind]

/-- The position at which a refresh looks: the one before, or else the program counter. -/
def Held.cursor (held : Held) (target : TargetState) : Cursor where
  first := target.first.getD held.counter
  second := target.second
  last := target.last

/-- The position is known behind the first exchange. -/
theorem anchor_of_faithful {held : Held} {target : TargetState} {reply : Reply}
    (h : List.Forall₂ held.Writes [.status] (reply.blocks.filter (·.kind.isKnown))) :
    anchor target (reply.block? .status) none = .ok (held.cursor target) := by
  unfold Held.cursor
  cases hfirst : target.first with
  | some first => exact anchor_of_known hfirst _
  | none =>
    obtain ⟨block, _, hwrites, hrest, hknown⟩ := List.forall₂_cons_left_iff.mp h
    obtain rfl := List.forall₂_nil_left_iff.mp hrest
    have hkind := Option.some.inj (Held.replyKind?_of_writes hwrites)
    have hblock : reply.block? .status = some block := by
      rw [← block?_filter_isKnown reply rfl, hknown]
      exact List.find?_cons_of_pos (beq_iff_eq.mpr hkind.symm)
    have hbound : held.counter < wordBound := Nat.lt_of_le_of_lt held.counter_le (by decide)
    rw [hblock, anchor_of_status hfirst, programCounter_of_writes hwrites hbound]
    rfl

variable {σ : Type} [Peer σ] {held : Held} {states : σ → Prop}

/-- A refresh of a stopped target that is faithful to what it holds, through a channel with nothing
queued, succeeds if time does not run out before the echo is read: if the clock of the reader stays
below the limit while items remain. Each active view shows what the target holds in the window
planned for it, and no other view shows anything. The position starts where the focused view's
window does, or else where the refresh looked. -/
theorem refresh_shows_what_is_held (hfaithful : held.Faithful states) (session : Session)
    (world : World σ) (hstopped : world.target.stopped = true)
    (hqueue : world.channel.queue = []) (hopen : world.channel.closed = false)
    (hpeer : states world.channel.peer)
    (htime : ∀ polls, (Channel.stillClock polls).nanoseconds <
      session.settings.replyLimit.nanoseconds) (move : Move) :
    ∃ session' world' windows,
      (refresh none move).runIn session world = ((.ok (), session'), world') ∧
      session.plannedWindows (held.cursor world.target) move = .ok windows ∧
      session'.windows = windows ∧
      held.IsShownIn session windows session'.shown ∧
      world'.target.first = some (match windows.get session.focus with
        | some window => window.first
        | none => (held.cursor world.target).first) := by
  have hready : world.channel.IsReady states := by
    refine ⟨[], ⟨hopen, hpeer, ?_, ?_⟩, .nil⟩
    · rw [hqueue]
      exact fun _ hmem => nomatch hmem
    · rw [hqueue]
      rfl
  have hlimit : session.settings.replyLimit.nanoseconds ≠ 0 := Nat.ne_zero_of_lt (htime 0)
  have hone : ∀ request ∈ [Request.status], request.replyKind?.isSome = true :=
    List.forall_mem_singleton.mpr rfl
  -- the status tells where to look
  obtain ⟨status, mid, hask, hstatus, hmid⟩ := exchange_of_faithful hfaithful hone hready hlimit
  obtain ⟨windows, hplan, hfits⟩ := session.plannedWindows_ok (held.cursor world.target) move
  have hviews : ∀ request ∈ session.viewRequests windows, request.replyKind?.isSome = true := by
    intro request hrequest
    obtain ⟨view, -, rfl⟩ := List.mem_map.mp hrequest
    exact replyKind?_ofView view _
  -- the other exchange is made through a channel that is ready again
  obtain ⟨reply, after, hlook, hreply, -⟩ := exchange_of_faithful hfaithful hviews hmid hlimit
  have hviewed : lookAt session move (held.cursor world.target) mid = ((.ok (),
      Session.withShown { session with phase := .awaitingReply } windows
        (session.shownIn reply.blocks)),
      { after with target := after.target.moveTo (session.positionAfter (held.cursor world.target)
        windows (session.shownIn reply.blocks)) }) := by
    unfold lookAt
    simp only [hplan, hlook]
  have hcycle := runIn_refreshCycle none move session world
  simp only [hask, anchor_of_faithful hstatus, hviewed] at hcycle
  have hrun := runIn_refresh none move session world
  simp only [hstopped, if_true, hcycle] at hrun
  refine ⟨_, _, windows, hrun, hplan, rfl, isShownIn_of_writes hfits hreply, ?_⟩
  exact congrArg some (session.positionAfter_first _ _ _)

/-- A target that is stopped at `$002000`, whose memory holds at each address the low byte of the
address, and in which every instruction does nothing. -/
def idleAt2000 : Held where
  counter := 0x2000
  registers := Snapshot.ofList [(.pc, 0x2000), (.sr, 0x2700)]
  memory address := UInt8.ofNat address
  instructions first _ := [{ address := first % 0x1000000, symbol := "-", text := "nop" }]
  counter_le := by decide
  registers_some := ⟨.pc, 0x2000, rfl⟩
  registers_le := by
    intro register value h
    cases register <;> cases h <;> decide
  instructions_writable := by
    intro first _ told htold
    obtain rfl := List.mem_singleton.mp htold
    refine ⟨?_, by simp, ?_, ?_⟩
    · exact Nat.lt_trans (Nat.mod_lt first (by decide)) (by decide)
    · show Text.HasNoBlank "-".toList
      decide
    · show Text.IsTrimmed "nop".toList
      decide

/-- An open channel to a mirror of this target, which is known to be stopped. -/
def mirroring : World Mirror where
  channel := { peer := { held := idleAt2000 } }
  target := { stopped := true }

/-- A screen further on, the memory view shows the bytes there, and the position is there. -/
theorem refresh_shows_next_screen :
    ∃ session' world',
      (refresh none ⟨.large, .forward⟩).runIn
        { views := .ofList [.registers, .memory], focus := .memory } mirroring =
        ((.ok (), session'), world') ∧
      session'.shown.get .registers = some (.ok (.registers (idleAt2000.report none))) ∧
      session'.shown.get .memory = some (.ok (.memory {
        start := 0x20C0
        bytes := (List.range 192).map fun offset => UInt8.ofNat (0x20C0 + offset) })) ∧
      session'.shown.get .disassembly = none ∧ world'.target.first = some 0x20C0 := by
  obtain ⟨session', world', windows, hrun, hplan, -, hshown, hfirst⟩ :=
    refresh_shows_what_is_held (Mirror.faithful idleAt2000)
      { views := .ofList [.registers, .memory], focus := .memory } mirroring
      rfl rfl rfl rfl (fun _ => show 0 < 5000000000 by decide) ⟨.large, .forward⟩
  obtain rfl : windows = {
      registers := none
      memory := some {
        first := 0x20C0, last := 0x2180, second := some 0x20D0, last_le_max := (by decide) }
      disassembly := none } := Except.ok.inj (hplan.symm.trans rfl)
  exact ⟨session', world', hrun, hshown .registers, hshown .memory, hshown .disassembly, hfirst⟩

/-- A session whose time runs out before the echo is read cannot refresh, though the target is
faithful and answers at once: with a limit of zero it runs out behind the first line. -/
theorem refresh_without_time_fails :
    idleAt2000.Faithful (fun mirror : Mirror => mirror.held = idleAt2000) ∧
    mirroring.target.stopped = true ∧ mirroring.channel.queue = [] ∧
    mirroring.channel.closed = false ∧ mirroring.channel.peer.held = idleAt2000 ∧
    ∃ session' world',
      (refresh none .stay).runIn { settings := { replyLimit := .ofMilliseconds 0 } } mirroring =
        ((.error (.noReply "sync-1" (.ofMilliseconds 0)), session'), world') :=
  ⟨Mirror.faithful idleAt2000, rfl, rfl, rfl, rfl, _, _, rfl⟩

end RemoteDebug
