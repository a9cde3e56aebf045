import RemoteDebug.Proofs.Channel.Leftovers
import RemoteDebug.Proofs.Session.Action
import RemoteDebug.Proofs.Session.ScriptedTarget
import RemoteDebug.Simulator.Machine

/-!
# Refreshes behind leftovers

An exchange that finds leftovers in front of its reply has their blocks in front of its own
(`exchange_behind_of_ok`). Of a status the first block counts, so a status block among leftovers is
taken for the answer to a question that was asked later; `leftovers_make_no_difference_iff` says
when this matters, and that nothing else does.
-/

namespace RemoteDebug

open RemoteDebug.Wire RemoteDebug.Decode Operation

variable {σ : Type}

/-! ## Exchanges behind leftovers -/

namespace World

/-- The world in whose channel lines come before what is queued. -/
def behind (world : World σ) (lines : List String) : World σ :=
  { world with channel := world.channel.behind lines }

variable [Peer σ] {limit : Duration} {requests : List Request}

/-- Whether an exchange that asks for the status finds first neither the echo that it waits for nor
a fault. -/
def StatusComesFirst (world : World σ) : Prop :=
  Channel.FirstIsPassed (.echo world.nextToken)
    (world.channel.sendAll (world.exchangeLines [.status])).2.queue

/-- An exchange that has time and succeeds does the same behind leftovers, but that it finds their
blocks. -/
theorem exchange_behind_of_ok {world world' : World σ} {taken : Nat} {reply : Reply}
    (htaken : world.tokensTaken = taken) (leftovers : List (Leftover taken))
    (htime : limit.nanoseconds ≠ 0)
    (h : world.exchange limit requests = (.ok reply, world')) :
    ∃ found, (world.behind (leftovers.flatMap Leftover.lines)).exchange limit requests =
        (.ok found, world') ∧
      found.blocks = leftovers.flatMap Leftover.blocks ++ reply.blocks := by
  subst htaken
  rcases hread : world.channel.converse (world.exchangeLines requests) (.echo world.nextToken) limit
    with ⟨_ | lines, after⟩
  · simp [exchange_of_error hread] at h
  · rw [exchange_of_ok hread] at h
    cases h
    have hbehind : (world.behind (leftovers.flatMap Leftover.lines)).exchange limit requests = _ :=
      exchange_of_ok (Channel.converse_behind_of_ok leftovers htime hread)
    rw [Leftover.splitReply_kept] at hbehind
    exact ⟨_, hbehind, rfl⟩

theorem exchange_behind_of_error {world world' : World σ} {taken : Nat} {cause : Error}
    (htaken : world.tokensTaken = taken) (leftovers : List (Leftover taken))
    (htime : limit.nanoseconds ≠ 0)
    (h : world.exchange limit requests = (.error cause, world')) :
    ((world.behind (leftovers.flatMap Leftover.lines)).exchange limit requests).1 =
      .error cause := by
  subst htaken
  rcases hread : world.channel.converse (world.exchangeLines requests) (.echo world.nextToken) limit
    with ⟨_ | lines, after⟩
  · rw [exchange_of_error hread] at h
    cases h
    obtain ⟨other, hbehind⟩ := Channel.converse_behind_of_error leftovers htime hread
    have hfails : (world.behind (leftovers.flatMap Leftover.lines)).exchange limit requests = _ :=
      exchange_of_error hbehind
    rw [hfails]
  · simp [exchange_of_ok hread] at h

/-- An exchange without time fails with leftovers and without them. -/
theorem exchange_behind_of_no_time {world : World σ} {taken : Nat}
    (htaken : world.tokensTaken = taken) (leftovers : List (Leftover taken))
    (hnone : limit.nanoseconds = 0) (hfirst : world.StatusComesFirst) :
    ∃ cause, (world.exchange limit [.status]).1 = .error cause ∧
      ((world.behind (leftovers.flatMap Leftover.lines)).exchange limit [.status]).1 =
        .error cause := by
  subst htaken
  obtain ⟨cause, hplain, hbehind⟩ :=
    Channel.converse_behind_of_no_time leftovers hnone hfirst
  refine ⟨cause, ?_, ?_⟩
  · rw [exchange_of_error (Prod.ext hplain rfl)]
  · have hfails : (world.behind (leftovers.flatMap Leftover.lines)).exchange limit [.status] = _ :=
      exchange_of_error (Prod.ext hbehind rfl)
    rw [hfails]

end World

/-! ## Refreshes behind leftovers -/

variable [Peer σ]

/-- A refresh whose first exchange fails has changed nothing. -/
theorem outcome_refresh_of_error {address : Option Nat} {move : Move} {session : Session}
    {world : World σ} {cause : Error} (hstopped : world.target.stopped = true)
    (h : (world.exchange session.settings.replyLimit [.status]).1 = .error cause) :
    outcome (refresh address move) session world = ((.error cause, session), world.target) := by
  have htarget := world.exchange_target_of_stopped session.settings.replyLimit [.status] hstopped
  rcases hask : world.exchange session.settings.replyLimit [.status] with ⟨_ | _, after⟩
  · rw [hask] at h htarget
    cases h
    unfold outcome
    simp only [runIn_refresh, runIn_refreshCycle, hstopped, hask, if_true]
    exact Prod.ext rfl htarget
  · rw [hask] at h
    cases h

/-- A refresh goes on from the world behind its first exchange and from the anchor alone. -/
theorem outcome_refresh_congr {address : Option Nat} {move : Move} {session : Session}
    {world other after : World σ} {reply found : Reply}
    (htarget : other.target = world.target)
    (hask : world.exchange session.settings.replyLimit [.status] = (.ok reply, after))
    (hother : other.exchange session.settings.replyLimit [.status] = (.ok found, after))
    (hanchor : anchor world.target (found.block? .status) address =
      anchor world.target (reply.block? .status) address) :
    outcome (refresh address move) session other =
      outcome (refresh address move) session world := by
  unfold outcome
  simp only [runIn_refresh, runIn_refreshCycle, htarget, hask, hother, hanchor]
  cases hstopped : world.target.stopped with
  | true => simp
  | false => simp [htarget]

/-- Whether a refresh may ask leftovers for the status: nothing else says where to look. -/
def AsksStatus (session : Session) (target : TargetState) (address : Option Nat) : Prop :=
  session.settings.replyLimit.nanoseconds ≠ 0 ∧ address = none ∧ target.first = none

/-- A refresh does the same behind leftovers unless it asks them for the status. -/
theorem outcome_refresh_behind {address : Option Nat} {move : Move} {session : Session}
    {world : World σ} {taken : Nat} (htaken : world.tokensTaken = taken)
    (leftovers : List (Leftover taken)) (hstopped : world.target.stopped = true)
    (hfirst : session.settings.replyLimit.nanoseconds = 0 → world.StatusComesFirst)
    (hquiet : AsksStatus session world.target address →
      ∀ block ∈ leftovers.flatMap Leftover.blocks, block.kind ≠ .status) :
    outcome (refresh address move) session (world.behind (leftovers.flatMap Leftover.lines)) =
      outcome (refresh address move) session world := by
  have hstill : (world.behind (leftovers.flatMap Leftover.lines)).target.stopped = true := hstopped
  by_cases hnone : session.settings.replyLimit.nanoseconds = 0
  · -- without time both give up behind the first line, be it a leftover or the status itself
    obtain ⟨cause, hplain, hbehind⟩ :=
      World.exchange_behind_of_no_time htaken leftovers hnone (hfirst hnone)
    rw [outcome_refresh_of_error hstopped hplain, outcome_refresh_of_error hstill hbehind]
    rfl
  · rcases hask : world.exchange session.settings.replyLimit [.status] with ⟨cause | reply, after⟩
    · have hbehind := World.exchange_behind_of_error htaken leftovers hnone hask
      rw [outcome_refresh_of_error hstopped (by rw [hask]),
        outcome_refresh_of_error hstill hbehind]
      rfl
    · obtain ⟨found, hbehind, hblocks⟩ := World.exchange_behind_of_ok htaken leftovers hnone hask
      refine outcome_refresh_congr rfl hask hbehind ?_
      -- the status reply, which is all that differs, matters only where nothing else says where
      cases address with
      | some address => rfl
      | none =>
        cases hplace : world.target.first with
        | some first => rw [anchor_of_known hplace, anchor_of_known hplace]
        | none =>
          have hno : (leftovers.flatMap Leftover.blocks).find? (·.kind == .status) = none := by
            refine List.find?_eq_none.mpr fun block hblock => ?_
            rw [beq_iff_eq]
            exact hquiet ⟨hnone, rfl, hplace⟩ block hblock
          unfold Reply.block?
          rw [hblocks, List.find?_append, hno, Option.none_or]

/-! ## When leftovers make a difference -/

/-- Whether an operation on a stopped target has the same result, leaves the same session and the
same of what is known of the target, whether or not leftovers stand in front of what is queued,
whatever the target does. A reader without time has to find the status reply first, as it gives up
behind the first line. -/
def Unaffected (operation : Operation Unit) (session : Session) (target : TargetState) {taken : Nat}
    (leftovers : List (Leftover taken)) : Prop :=
  ∀ (τ : Type) [Peer τ] (world : World τ), world.target = target → world.tokensTaken = taken →
    (session.settings.replyLimit.nanoseconds = 0 → world.StatusComesFirst) →
    outcome operation session (world.behind (leftovers.flatMap Leftover.lines)) =
      outcome operation session world

/-- A refresh that asks an obliging target for the status fails because of the status exactly if the
first status block, be it a leftover or the target's own, tells no program counter. -/
theorem refresh_obliging_behind {session : Session} {target : TargetState} {taken : Nat}
    {status : List String} {block : Block} (leftovers : List (Leftover taken)) (move : Move)
    (hstopped : target.stopped = true) (hplace : target.first = none)
    (htime : session.settings.replyLimit.nanoseconds ≠ 0)
    (hplain : ∀ line ∈ status, isEcho line = false)
    (hblock : (leftovers.flatMap Leftover.blocks ++ (splitReply status).blocks).find?
      (·.kind == .status) = some block) :
    FailsOnStatus (outcome (refresh none move) session
        ((World.obliging session target taken status).behind
          (leftovers.flatMap Leftover.lines))).1.1 ↔
      ∃ failed, programCounter block = .error failed := by
  obtain ⟨after, hask, hready⟩ := World.exchange_obliging session target taken htime hplain
  have htaken : (World.obliging session target taken status).tokensTaken = taken := rfl
  obtain ⟨found, hfound, hblocks⟩ := World.exchange_behind_of_ok htaken leftovers htime hask
  have hstatus : found.block? .status = some block := by
    unfold Reply.block?
    rw [hblocks, hblock]
  have hstill : ((World.obliging session target taken status).behind
      (leftovers.flatMap Leftover.lines)).target.stopped = true := hstopped
  have hanchor : anchor ((World.obliging session target taken status).behind
      (leftovers.flatMap Leftover.lines)).target (some block) none =
      (programCounter block).map fun pc =>
        { first := pc, second := target.second, last := target.last } :=
    anchor_of_status hplace block
  unfold outcome
  simp only [runIn_refresh, runIn_refreshCycle, hstill, hfound, hstatus, hanchor, if_true]
  rcases hcounter : programCounter block with failed | pc
  · refine iff_of_true ⟨failed, rfl, isOfStatus_of_programCounter hcounter⟩ ⟨failed, rfl⟩
  · have hlook := lookAt_of_ready hready htime move
      { first := pc, second := target.second, last := target.last }
    refine iff_of_false ?_ (by simp)
    simp only [Except.map]
    rcases hlooked : lookAt session move
      { first := pc, second := target.second, last := target.last } after with
      ⟨⟨_ | _, _⟩, _⟩
    · rw [hlooked] at hlook
      exact hlook
    · exact fun ⟨_, hfailed, _⟩ => nomatch hfailed

/-- A refresh that asks leftovers for the status can be told from one that does not. -/
theorem not_unaffected_of_status {session : Session} {target : TargetState} {taken : Nat}
    {leftovers : List (Leftover taken)} {move : Move} (hstopped : target.stopped = true)
    (hplace : target.first = none) (htime : session.settings.replyLimit.nanoseconds ≠ 0)
    {block : Block} (hmem : block ∈ leftovers.flatMap Leftover.blocks)
    (hkind : block.kind = .status) : ¬ Unaffected (refresh none move) session target leftovers := by
  intro hsame
  obtain ⟨stale, hstale⟩ : ∃ stale,
      (leftovers.flatMap Leftover.blocks).find? (·.kind == .status) = some stale :=
    Option.isSome_iff_exists.mp (List.find?_isSome.mpr ⟨block, hmem, beq_iff_eq.mpr hkind⟩)
  have hboth (status : List String) (own : Block) (hplain : ∀ line ∈ status, isEcho line = false)
      (hown : (splitReply status).blocks.find? (·.kind == .status) = some own) :
      (∃ failed, programCounter stale = .error failed) ↔
        ∃ failed, programCounter own = .error failed := by
    have hbehind := refresh_obliging_behind leftovers move hstopped hplace htime hplain
      (by rw [List.find?_append, hstale, Option.some_or])
    have hplainly := refresh_obliging_behind ([] : List (Leftover taken)) move hstopped hplace htime
      hplain hown
    have hrun := hsame Script (World.obliging session target taken status) rfl rfl
      fun hnone => absurd hnone htime
    rw [hrun] at hbehind
    exact hbehind.symm.trans hplainly
  -- the target's own status is made such that just one of the two tells a program counter
  rcases hcounter : programCounter stale with failed | pc
  · obtain ⟨failed', hfailed⟩ := (hboth ["#status PC:0", "##"] { tagLine := "#status PC:0" }
      (by decide) (by decide)).mp ⟨failed, hcounter⟩
    cases hfailed
  · obtain ⟨failed, hfailed⟩ := (hboth ["#status", "##"] { tagLine := "#status" }
      (by decide) (by decide)).mpr ⟨.noProgramCounter, rfl⟩
    rw [hcounter] at hfailed
    cases hfailed

/-- Leftovers never make a difference to a refresh from an address that is given. To another one
they make none exactly if there is no time to read past them, or the position is known and the
status asked for nothing, or no status block is among them. -/
theorem leftovers_make_no_difference_iff (session : Session) (target : TargetState) {taken : Nat}
    (leftovers : List (Leftover taken)) (hstopped : target.stopped = true) :
    (∀ address, Unaffected (goto address) session target leftovers) ∧
    ∀ move, Unaffected (refresh none move) session target leftovers ↔
      session.settings.replyLimit.nanoseconds = 0 ∨ target.first ≠ none ∨
        ∀ block ∈ leftovers.flatMap Leftover.blocks, block.kind ≠ .status := by
  refine ⟨fun address τ _ world htarget htaken hfirst => ?_, fun move => ⟨fun hsame => ?_, ?_⟩⟩
  · unfold outcome
    rw [runIn_goto, runIn_goto]
    split
    · rfl
    · exact outcome_refresh_behind htaken leftovers (htarget ▸ hstopped) hfirst
        fun hasks => nomatch hasks.2.1
  · by_cases htime : session.settings.replyLimit.nanoseconds = 0
    · exact .inl htime
    · by_cases hplace : target.first = none
      · refine .inr (.inr fun block hmem hkind => ?_)
        exact not_unaffected_of_status hstopped hplace htime hmem hkind hsame
      · exact .inr (.inl hplace)
  · intro hquiet τ _ world htarget htaken hfirst
    subst htarget
    refine outcome_refresh_behind htaken leftovers hstopped hfirst ?_
    rintro ⟨htime, -, hplace⟩
    rcases hquiet with hnone | hknown | hquiet
    · exact absurd hnone htime
    · exact absurd hplace hknown
    · exact hquiet

/-- A memory block that a refresh did not wait for. -/
def lateMemory : WholeBlock where
  tag := "#mem OK 001000 000002 4e71"
  payload := []
  last := "##"
  tag_opens := by decide
  tag_closes_not := by decide
  kind_known := by rintro word ⟨⟩
  payload_opens_not := by decide
  last_closes := by decide

/-- The reply to a memory request and the echo behind it make no difference to the refresh of a
session that looks where the program counter is. -/
theorem late_memory_makes_no_difference :
    Unaffected (refresh none .stay) {} { stopped := true }
      ([.block lateMemory, .echo "#echo sync-1" ⟨1⟩ (by decide) (by decide)] :
        List (Leftover 1)) :=
  ((leftovers_make_no_difference_iff {} { stopped := true } _ rfl).2 .stay).mpr
    (.inr (.inr (by decide)))

/-- A status block that a refresh did not wait for. -/
def lateStatus : WholeBlock where
  tag := "#status VBL:1 PC:001000"
  payload := []
  last := "##"
  tag_opens := by decide
  tag_closes_not := by decide
  kind_known := by rintro word ⟨⟩
  payload_opens_not := by decide
  last_closes := by decide

/-- A stopped target whose program counter is at 0x2000, behind one exchange. -/
def stoppedAt2000 : World Simulator.Link where
  channel := { peer := { machine := { pc := 0x2000 } } }
  target := { stopped := true }
  tokensTaken := 1

/-- The refresh of a session that looks where the program counter is believes a status block that an
earlier one did not wait for, and not the answer to its own question. -/
theorem late_status_makes_a_difference :
    (outcome (refresh none .stay) {} (stoppedAt2000.behind
      (([.block lateStatus, .echo "#echo sync-1" ⟨1⟩ (by decide) (by decide)] :
        List (Leftover 1)).flatMap Leftover.lines))).2.first = some 0x1000 ∧
    (outcome (refresh none .stay) {} stoppedAt2000).2.first = some 0x2000 := by
  decide +kernel

end RemoteDebug
