import RemoteDebug.Proofs.Interleaving.Anchoring
import RemoteDebug.Proofs.Register.Entries
import RemoteDebug.Proofs.Session.ShownBlocks

/-!
# What changed since the last reading

A refresh tells which registers changed, and keeps what it read for the next comparison apart from
what the views show. What it compares with is what the last reading of the registers found, by
whatever action that was (`keepsSnapshot_play`): an action that fails, a refresh that reads no
registers, and one that shows other views leave the snapshot alone. So a register has changed
exactly if the last reading found another value in it (`changed_since_last_reading`).
-/

namespace RemoteDebug

open RemoteDebug.Decode RemoteDebug.Wire Dialogue

variable {σ : Type}

/-! ## What a refresh compares with -/

theorem Snapshot.mem_changedSince_iff (snapshot previous : Snapshot) (register : Register) :
    register ∈ snapshot.changedSince previous ↔ ∃ now before, snapshot.value register = some now ∧
      previous.value register = some before ∧ now ≠ before := by
  unfold changedSince changedIn
  rw [List.mem_filter]
  cases snapshot.value register <;> cases previous.value register <;> simp [Register.mem_all]

namespace Decode

/-- The changes that a report tells are those since the snapshot that it was read against. -/
theorem changed_of_registers {block : Block} {previous : Option Snapshot} {report : RegisterReport}
    (h : Decode.registers block previous = .ok report) :
    report.changed = changedSince? report.registers previous := by
  unfold Decode.registers at h
  split at h
  · cases hentries : registerEntries (registerTokens block) with
    | error cause => simp [hentries, bind, Except.bind] at h
    | ok entries =>
      simp only [hentries, bind, Except.bind] at h
      split at h
      · cases h
      · cases h
        rfl
  · cases h

end Decode

namespace Session

/-- The registers that a session shows, if it shows any. -/
def reading? (session : Session) : Option RegisterReport :=
  match session.shown.registers with
  | some (.ok (.registers report)) => some report
  | _ => none

/-- Whether what a session shows of the registers was compared with a snapshot, and replaces it. -/
structure HasCompared (session : Session) (previous : Option Snapshot) : Prop where
  replaced : session.snapshot = (session.reading?.map RegisterReport.registers).or previous
  compared : ∀ report, session.reading? = some report →
    report.changed = changedSince? report.registers previous

/-- A refresh compares the registers that it finds with the snapshot from before it. -/
theorem hasCompared_withFinding (session : Session) (plan : Cursor × PerView (Option Window))
    (views : List String) :
    (session.withFinding (session.findingIn plan views)).HasCompared session.snapshot := by
  have hshown := session.get_shownIn (splitReply views).blocks .registers
  have hreading : (session.withFinding (session.findingIn plan views)).reading? =
      match (session.shownIn (splitReply views).blocks).registers with
      | some (.ok (.registers report)) => some report
      | _ => none := rfl
  have hsnapshot : (session.withFinding (session.findingIn plan views)).snapshot =
      match (session.shownIn (splitReply views).blocks).registers with
      | some (.ok (.registers report)) => some report.registers
      | _ => session.snapshot := rfl
  constructor
  · rw [hsnapshot, hreading]
    split <;> rfl
  · intro report hreport
    rw [hreading] at hreport
    split at hreport
    · rename_i found hfound
      cases hreport
      -- the shown registers are those of a block, read against the snapshot
      replace hshown := hfound.symm.trans hshown
      split at hshown
      · obtain ⟨block, -, hblock⟩ := Option.map_eq_some_iff.mp hshown.symm
        replace hblock : (Decode.registers block session.snapshot).map Content.registers =
          .ok (.registers report) := hblock
        cases hdecoded : Decode.registers block session.snapshot with
        | error cause => simp [hdecoded, Except.map] at hblock
        | ok other =>
          rw [hdecoded] at hblock
          cases hblock
          exact changed_of_registers hdecoded
      · cases hshown
    · cases hreport

end Session

/-! ## Actions -/

namespace Action

/-- What an action promises of the snapshot that is kept when it begins: a refresh compares with it
and replaces it by what it read, and nothing else touches it. -/
def reading (kept : Option Snapshot) (action : Action) :
    Promise (Except Error (List String) × Session) where
  changes _ _ _ := True
  ends outcome replies _ :=
    if action.hasRefreshed outcome replies then outcome.2.HasCompared kept
    else outcome.2.snapshot = kept

variable {session : Session} {kept : Option Snapshot} {target : TargetState} {action : Action}
  {replies : List (List String)}

theorem keeps_reading_done {outcome : Except Error (List String) × Session}
    (hrefreshed : action.hasRefreshed outcome replies = false) (hkept : outcome.2.snapshot = kept) :
    (done outcome).Keeps (reading kept action) replies target := by
  intro now _
  show if action.hasRefreshed outcome replies then _ else _
  rw [hrefreshed]
  exact hkept

theorem keeps_reading_refreshed {outcome : Except Error (List String) × Session}
    (hrefreshed : action.hasRefreshed outcome replies = true)
    (hcompared : outcome.2.HasCompared kept) :
    (done outcome).Keeps (reading kept action) replies target := by
  intro now _
  show if action.hasRefreshed outcome replies then _ else _
  rw [hrefreshed]
  exact hcompared

theorem keeps_reading_failed (cause : Error) (hkept : session.snapshot = kept) :
    (failed session cause).Keeps (reading kept action) replies target :=
  keeps_reading_done (hasRefreshed_failed action cause session replies) hkept

theorem keeps_reading_refreshing {address : Option Nat} {move : Move}
    {next : Except Error Unit × Session → Dialogue (Except Error (List String) × Session)}
    (hkept : session.snapshot = kept)
    (hfails : ∀ cause more now,
      (next (.error cause, session)).Keeps (reading kept action) more now)
    (hfinds : ∀ after status views now, after.HasCompared kept →
      (next (.ok (), after)).Keeps (reading kept action) (replies ++ [status, views]) now) :
    (refreshing session address move next).Keeps (reading kept action) replies target := by
  refine keeps_refreshing (fun _ _ => trivial) (fun cause now more _ => hfails _ _ _) ?_
  intro now status plan views _ _ _
  have hcompared := session.hasCompared_withFinding plan views
  rw [hkept] at hcompared
  exact ⟨trivial, hfinds _ status views _ hcompared⟩

theorem keeps_reading_asking (request : Request) (hasks : action.needsStopped = false)
    (hkept : session.snapshot = kept) :
    (courseOfAsking session request).Keeps (reading kept action) [] target := by
  have hrefreshed (outcome replies) : action.hasRefreshed outcome replies = false := by
    unfold hasRefreshed
    rw [hasks]
    rfl
  exact keeps_exchanging (fun _ _ => trivial)
    (fun _ => keeps_reading_done (hrefreshed _ _) hkept)
    fun _ => keeps_reading_done (hrefreshed _ _) hkept

theorem keeps_reading (action : Action) (hkept : session.snapshot = kept) :
    (action.course session).Keeps (reading kept action) [] target := by
  cases action with
  | refresh move =>
    exact keeps_reading_refreshing hkept (fun cause _ _ => keeps_reading_failed cause hkept)
      fun _ _ _ _ hcompared => keeps_reading_refreshed rfl hcompared
  | goto address =>
    simp only [course]
    split
    · exact keeps_reading_failed _ hkept
    · exact keeps_reading_refreshing hkept (fun cause _ _ => keeps_reading_failed cause hkept)
        fun _ _ _ _ hcompared => keeps_reading_refreshed rfl hcompared
  | pauseOrResume =>
    intro now _
    dsimp only
    split
    · intro sent
      rcases sent with cause | _
      · exact keeps_reading_failed cause hkept
      · exact fun gone _ => ⟨trivial, fun cleared _ => ⟨trivial, fun started =>
          keeps_reading_done rfl hkept⟩⟩
    · intro sent
      rcases sent with cause | _
      · exact keeps_reading_failed cause hkept
      · exact fun started => keeps_reading_done rfl hkept
  | step into =>
    intro now _
    dsimp only
    split
    · intro noise
      rcases noise with cause | noise
      · exact keeps_reading_failed cause hkept
      · -- the windows are forgotten behind the stop, the snapshot is not
        exact fun halted _ => ⟨trivial, keeps_reading_refreshing hkept
          (fun cause _ _ => keeps_reading_failed cause hkept)
          fun _ _ _ _ hcompared => keeps_reading_refreshed rfl hcompared⟩
    · exact keeps_reading_done rfl hkept
  | askRaw text => exact keeps_reading_asking _ rfl hkept
  | loadMemory path address => exact keeps_reading_asking _ rfl hkept
  | saveMemory path address length => exact keeps_reading_asking _ rfl hkept
  | setFocus view =>
    simp only [course, courseOfFocus]
    split
    · exact keeps_reading_done rfl hkept
    · exact fun now _ => ⟨trivial, keeps_reading_done rfl hkept⟩
  | setActiveViews views => exact keeps_reading_done rfl hkept
  | setLines lines => exact keeps_reading_done rfl hkept
  | setFollowPc followPc => exact keeps_reading_done rfl hkept

end Action

/-! ## Whole runs -/

section

variable [Peer σ]

/-- The registers that an action has read, where it ends with a refresh that succeeded. -/
def Moment.reading? (moment : Moment σ) : Option RegisterReport :=
  if moment.refreshes then moment.after.session.reading? else none

/-- The last registers that were read in a history. -/
def lastReading? (history : List (Moment σ)) : Option RegisterReport :=
  (history.filterMap Moment.reading?).getLast?

theorem lastReading?_append_singleton (history : List (Moment σ)) (moment : Moment σ) :
    lastReading? (history ++ [moment]) = moment.reading?.or (lastReading? history) := by
  unfold lastReading?
  rw [List.filterMap_append, List.getLast?_append]
  congr 1
  cases hreading : moment.reading? <;> simp [hreading]

/-- The snapshot that a history leaves. -/
def keptSnapshot (history : List (Moment σ)) : Option Snapshot :=
  (lastReading? history).map RegisterReport.registers

theorem keptSnapshot_append_singleton (history : List (Moment σ)) (moment : Moment σ) :
    keptSnapshot (history ++ [moment]) =
      (moment.reading?.map RegisterReport.registers).or (keptSnapshot history) := by
  unfold keptSnapshot
  rw [lastReading?_append_singleton]
  cases moment.reading? <;> rfl

namespace Scene

/-- Whether a scene keeps a snapshot: between two actions it is that of the session, and during one
the action compares with it. -/
def KeepsSnapshot (kept : Option Snapshot) (scene : Scene σ) : Prop :=
  scene.Meets (fun session _ => session.snapshot = kept) fun _ task target =>
    task.rest.Keeps (task.action.reading kept) task.replies target

theorem reading_carried (kept : Option Snapshot) :
    Carried σ (fun session _ => session.snapshot = kept) fun _ task target =>
      task.rest.Keeps (task.action.reading kept) task.replies target where
  begins := fun action h => action.keeps_reading h
  advances := Keeps.advance
  onward := fun _ h => h
  onwardDuring := fun hnow h => h.onward hnow

/-- An action that ends has kept its promise. -/
theorem KeepsSnapshot.ends {kept : Option Snapshot} {scene : Scene σ} (h : scene.KeepsSnapshot kept)
    {turn : Turn} {task : Task} {outcome : Except Error (List String) × Session}
    (hending : (Moment.mk scene turn).ending? = some (task, outcome)) :
    (Moment.mk scene turn).refreshes = task.action.hasRefreshed outcome task.replies ∧
      (Moment.mk scene turn).after = { scene with session := outcome.2, task := none } ∧
      if task.action.hasRefreshed outcome task.replies then outcome.2.HasCompared kept
      else outcome.2.snapshot = kept := by
  obtain ⟨htask, hdone, hafter⟩ := Moment.of_ending hending
  have hkeeps := h.of_task htask
  rw [hdone] at hkeeps
  refine ⟨?_, hafter, hkeeps _ (.refl _)⟩
  unfold Moment.refreshes
  rw [hending]
  rfl

/-- Behind a moment, what was read there is kept, or else what was kept before. -/
theorem KeepsSnapshot.after {kept : Option Snapshot} {scene : Scene σ}
    (h : scene.KeepsSnapshot kept) (turn : Turn) : (scene.after turn).KeepsSnapshot
      (((Moment.mk scene turn).reading?.map RegisterReport.registers).or kept) := by
  cases hending : (Moment.mk scene turn).ending? with
  | none =>
    have hnone : (Moment.mk scene turn).reading? = none := by
      simp [Moment.reading?, Moment.refreshes, hending]
    rw [hnone]
    exact h.after_of_going (reading_carried kept) turn hending
  | some ending =>
    obtain ⟨hrefreshes, hafter, hpromise⟩ := h.ends hending
    unfold Moment.reading?
    rw [hrefreshes, hafter, show scene.after turn = _ from hafter]
    show ending.2.2.snapshot = _
    split
    · rename_i hrefreshed
      rw [if_pos hrefreshed] at hpromise
      exact hpromise.replaced
    · rename_i hrefreshed
      rw [if_neg hrefreshed] at hpromise
      exact hpromise

/-- In every run, the snapshot that is kept is that of the last reading. -/
theorem keepsSnapshot_play (settings : Settings) (channel : Channel σ) (tokensTaken : Nat)
    (turns : List Turn) :
    ((opening settings channel tokensTaken).play turns).KeepsSnapshot
      (keptSnapshot ((opening settings channel tokensTaken).moments turns)) := by
  refine history_induction (fun history scene => scene.KeepsSnapshot (keptSnapshot history)) ?_ ?_
    turns
  · intro history scene turn h
    rw [keptSnapshot_append_singleton]
    exact h.after turn
  · show ({ settings } : Session).snapshot = none
    rfl

/-- What is read is compared with what is kept. -/
theorem KeepsSnapshot.changed_of_reading {kept : Option Snapshot} {scene : Scene σ}
    (h : scene.KeepsSnapshot kept) {turn : Turn} {report : RegisterReport}
    (hreading : (Moment.mk scene turn).reading? = some report) :
    report.changed = changedSince? report.registers kept := by
  obtain ⟨hrefreshes, hshown⟩ := Option.ite_none_right_eq_some.mp hreading
  cases hending : (Moment.mk scene turn).ending? with
  | none => simp [Moment.refreshes, hending] at hrefreshes
  | some ending =>
    obtain ⟨hsame, hafter, hpromise⟩ := h.ends hending
    rw [hrefreshes] at hsame
    rw [if_pos hsame.symm] at hpromise
    rw [hafter] at hshown
    exact hpromise.compared report hshown

end Scene

end

/-- The registers that a refresh reports as changed are exactly those in which it found another
value than the last reading before it. A register that the last reading did not find has not
changed, and none has if there was no reading before. -/
theorem changed_since_last_reading [Peer σ] {settings : Settings} {channel : Channel σ}
    {tokensTaken : Nat} {turns : List Turn} {front back : List (Moment σ)} {moment : Moment σ}
    {report : RegisterReport}
    (hpath : (Scene.opening settings channel tokensTaken).moments turns = front ++ moment :: back)
    (hreading : moment.reading? = some report) (register : Register) :
    register ∈ report.changed ↔
      ∃ last now before, lastReading? front = some last ∧
        report.registers.value register = some now ∧
        last.registers.value register = some before ∧ now ≠ before := by
  obtain ⟨early, late, -, rfl, hbefore, -⟩ := Scene.exists_turns_of_moments hpath
  have hkept := Scene.keepsSnapshot_play settings channel tokensTaken early
  rw [← hbefore] at hkept
  rw [hkept.changed_of_reading hreading, keptSnapshot]
  cases lastReading? ((Scene.opening settings channel tokensTaken).moments early) with
  | none => simp [changedSince?]
  | some last => simp [changedSince?, Snapshot.mem_changedSince_iff]

/-- A step behind a reading, up to the turn at which it ends. -/
def steppingOn : List Turn :=
  goingTo 0x2000 ++ .begin (.step true) :: List.replicate 10 (.proceed true)

/-- A step tells that the program counter has changed, and what the instruction changed. -/
theorem changed_by_step :
    let start := Scene.opening {} haltingAt2000 0
    let ending := Moment.mk (start.play steppingOn) (.proceed true)
    ∃ report, ending.reading? = some report ∧ report.changed = [.d0, .pc] ∧
      ∃ last now before, lastReading? (start.moments steppingOn) = some last ∧
        report.registers.value .d0 = some now ∧ last.registers.value .d0 = some before ∧
        now ≠ before := by
  intro start ending
  have hread : ending.reading?.map RegisterReport.changed = some [.d0, .pc] := by decide +kernel
  obtain ⟨report, hreading, hchanged⟩ := Option.map_eq_some_iff.mp hread
  have hpath : start.moments (steppingOn ++ [.proceed true]) =
      start.moments steppingOn ++ ending :: [] := Scene.moments_append _ _ _
  refine ⟨report, hreading, hchanged, (changed_since_last_reading hpath hreading .d0).mp ?_⟩
  rw [hchanged]
  exact List.mem_cons_self

end RemoteDebug
