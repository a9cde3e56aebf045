import RemoteDebug.Proofs.Interleaving.Sights
import RemoteDebug.Simulator.Machine

/-!
# Stop markers from before

A stop marker carries nothing that tells which stop it is about. One that is queued when the target
is let go, the second of two for the same stop for example, waits there for the next reader, who
takes it for a stop of the target that runs now; and a step takes it for its own.
`stale_marker_counts_iff` says exactly when that happens: when the reader would have seen no stop
without the markers from before, and when a marker was queued as the step was sent.
-/

namespace RemoteDebug

open RemoteDebug.Wire Dialogue

variable {α σ : Type} [Peer σ]

/-! ## What is left of a queue -/

namespace Ledger

variable {ledger : Ledger} {scene : Scene σ} {items : List Item}

/-- Whether the items that a ledger counts as old are what is left of some items. -/
structure CountsRestOf (items : List Item) (ledger : Ledger) (scene : Scene σ) : Prop where
  le : ledger.leftover ≤ scene.world.channel.queue.length
  rest : scene.world.channel.queue.take ledger.leftover <:+ items

theorem leftover_behind {moment : Moment σ} (hgoing : moment.sendsResume = false) :
    (ledger.behind moment).leftover = ledger.leftover - moment.taken.length := by
  obtain ⟨before, turn⟩ := moment
  cases turn with
  | begin action => rfl
  | proceed spawns =>
    show (before.task.elim ledger _).leftover = _ - (before.task.elim [] _).length
    unfold Moment.sendsResume at hgoing
    cases htask : before.task with
    | none => rfl
    | some task =>
      rw [htask] at hgoing
      replace hgoing : task.rest.sendsResume before.world = false := hgoing
      show (ledger.behindStep task.rest before.world).leftover =
        ledger.leftover - (task.rest.taken before.world).length
      cases hrest : task.rest with
      | send lines next =>
        rw [hrest] at hgoing
        simp only [behindStep, hgoing]
        rfl
      | _ => rfl
  | watch index =>
    show (before.watchers[index]?.elim ledger _).leftover =
      _ - (before.watchers[index]?.elim [] _).length
    cases before.watchers[index]? with
    | none => rfl
    | some stage => cases stage <;> rfl
  | arrive items closes => rfl

/-- What is taken and what is left start with the old items. -/
theorem CountsRestOf.take_leftover (h : ledger.CountsRestOf items scene) (turn : Turn) :
    ((Moment.mk scene turn).taken ++ (scene.after turn).world.channel.queue).take ledger.leftover =
      scene.world.channel.queue.take ledger.leftover := by
  obtain ⟨added, hadded⟩ := (Moment.mk scene turn).exists_added
  replace hadded : scene.world.channel.queue ++ added =
    (Moment.mk scene turn).taken ++ (scene.after turn).world.channel.queue := hadded
  rw [← hadded, List.take_append_of_le_length h.le]

/-- What is taken comes off the old items first. -/
theorem CountsRestOf.behind (h : ledger.CountsRestOf items scene) {turn : Turn}
    (hgoing : (Moment.mk scene turn).sendsResume = false) :
    (ledger.behind ⟨scene, turn⟩).CountsRestOf items (scene.after turn) := by
  have hold := h.take_leftover turn
  refine ⟨?_, ?_⟩
  · rw [leftover_behind hgoing]
    have hle := h.le
    have hlength := congrArg List.length hold
    simp only [List.length_take, List.length_append] at hlength
    omega
  · rw [leftover_behind hgoing]
    have hleft : (scene.after turn).world.channel.queue.take
          (ledger.leftover - (Moment.mk scene turn).taken.length) =
        (scene.world.channel.queue.take ledger.leftover).drop
          (Moment.mk scene turn).taken.length := by
      rw [← hold, List.drop_take, List.drop_left]
    rw [hleft]
    exact (List.drop_suffix _ _).trans h.rest

/-- The old lines that a read shows are among what was there before. -/
theorem CountsRestOf.mem_of_old (h : ledger.CountsRestOf items scene) {turn : Turn}
    {keeps : String → Bool} {line : String}
    (hline : line ∈ (Sight.ofItems keeps ledger.leftover (Moment.mk scene turn).taken).old) :
    line ∈ linesOf items := by
  obtain ⟨item, hitem, hsome⟩ := List.mem_filterMap.mp (List.mem_filter.mp hline).1
  -- what is taken and old stands before what is queued and old ends
  have hold : item ∈ scene.world.channel.queue.take ledger.leftover := by
    rw [← h.take_leftover turn, List.take_append]
    exact List.mem_append_left _ hitem
  exact List.mem_filterMap.mpr ⟨item, h.rest.subset hold, hsome⟩

/-! ## Along a run -/

theorem ofMoments_append_cons (front : List (Moment σ)) (moment : Moment σ)
    (back : List (Moment σ)) :
    ofMoments (front ++ moment :: back) =
      back.foldl Ledger.behind ((ofMoments front).behind moment) := by
  unfold ofMoments
  rw [List.foldl_append, List.foldl_cons]

theorem CountsRestOf.play (h : ledger.CountsRestOf items scene) {turns : List Turn}
    (hgoing : ∀ moment ∈ scene.moments turns, moment.sendsResume = false) :
    ((scene.moments turns).foldl Ledger.behind ledger).CountsRestOf items (scene.play turns) := by
  induction turns generalizing scene ledger with
  | nil => exact h
  | cons turn rest ih =>
    rw [Scene.moments, List.forall_mem_cons] at hgoing
    exact ih (h.behind hgoing.1) hgoing.2

/-- Every mark stands on a sight that shows a stop. -/
theorem Fits.play_shows (h : ledger.Fits (·.shows = true) scene) (turns : List Turn) :
    ((scene.moments turns).foldl Ledger.behind ledger).Fits (·.shows = true)
      (scene.play turns) := by
  induction turns generalizing scene ledger with
  | nil => exact h
  | cons turn rest ih =>
    refine ih (h.behind turn (fun _ sight hshows => ?_) fun _ hshows => hshows)
    rw [Sight.shows_aged]
    exact hshows

/-- If the target was let go with no marker queued, and is not let go again, every mark stands on a
marker that came since. -/
theorem Fits.play_showsNew (hnone : ∀ line ∈ linesOf items, isStopMarker line = false)
    (h : ledger.Fits Sight.ShowsNew scene) (hrest : ledger.CountsRestOf items scene)
    {turns : List Turn} (hgoing : ∀ moment ∈ scene.moments turns, moment.sendsResume = false) :
    ((scene.moments turns).foldl Ledger.behind ledger).Fits Sight.ShowsNew (scene.play turns) := by
  induction turns generalizing scene ledger with
  | nil => exact h
  | cons turn rest ih =>
    rw [Scene.moments, List.forall_mem_cons] at hgoing
    refine ih (h.behind turn (fun hresume => ?_) fun keeps hshows => ?_)
      (hrest.behind hgoing.1) hgoing.2
    · rw [hgoing.1] at hresume
      cases hresume
    · exact Sight.showsNew_of_no_old_marker hshows fun line hline =>
        hnone line (hrest.mem_of_old hline)

end Ledger

namespace Moment

/-- Whether nothing that is there at a moment can be taken for a later stop: no stop marker is
queued, and no watcher has seen one that it has yet to mark. -/
def LeavesNoMarker (moment : Moment σ) : Prop :=
  (∀ line ∈ linesOf moment.before.world.channel.queue, isStopMarker line = false) ∧
    WatchStage.marking ∉ moment.before.watchers

/-- Whether the stop that a step waits for is found at a moment. -/
def findsStop (moment : Moment σ) : Bool :=
  match moment.turn, moment.before.task with
  | .proceed _, some task =>
    match task.rest with
    | .converse lines .stop limit _ =>
      (moment.before.world.channel.converse lines .stop limit).1.isOk
    | _ => false
  | _, _ => false

/-- A request to resume is sent by a step of the session that takes nothing off the queue; all that
is there becomes old. -/
theorem of_sendsResume {moment : Moment σ} (h : moment.sendsResume = true) (ledger : Ledger) :
    ∃ task spawns lines next, moment.before.task = some task ∧ task.rest = .send lines next ∧
      moment.after = moment.before.carryOn task spawns ∧ moment.taken = [] ∧
      ledger.behind moment = ledger.aged moment.before.world.channel.queue.length := by
  obtain ⟨before, turn⟩ := moment
  cases turn with
  | proceed spawns =>
    unfold sendsResume at h
    cases htask : before.task with
    | none =>
      rw [htask] at h
      cases h
    | some task =>
      rw [htask] at h
      replace h : task.rest.sendsResume before.world = true := h
      cases hrest : task.rest with
      | send lines next =>
        rw [hrest] at h
        refine ⟨task, spawns, lines, next, rfl, hrest, ?_, ?_, ?_⟩
        · show before.proceed spawns = _
          simp only [Scene.proceed, htask, hrest, result?]
        · simp only [taken, htask, hrest, Option.elim_some, Dialogue.taken]
        · simp only [Ledger.behind, htask, hrest, Option.elim_some, Ledger.behindStep, h, if_true]
      | _ =>
        rw [hrest] at h
        cases h
  | _ => cases h

theorem countsRestOf_of_sendsResume {moment : Moment σ} (h : moment.sendsResume = true)
    (ledger : Ledger) :
    (ledger.behind moment).CountsRestOf moment.before.world.channel.queue moment.after := by
  obtain ⟨task, spawns, lines, next, -, -, -, htaken, hbehind⟩ := of_sendsResume h ledger
  obtain ⟨added, hadded⟩ := moment.exists_added
  rw [htaken, List.nil_append] at hadded
  rw [hbehind]
  constructor
  · rw [← hadded, List.length_append]
    exact Nat.le_add_right _ _
  · have htake : moment.after.world.channel.queue.take moment.before.world.channel.queue.length =
        moment.before.world.channel.queue := by
      rw [← hadded, List.take_left]
    exact ⟨[], htake⟩

/-- Behind a resume that leaves no marker, nothing is marked but on what comes after it. -/
theorem fits_of_sendsResume {moment : Moment σ} (h : moment.sendsResume = true)
    (hnone : moment.LeavesNoMarker) {ledger : Ledger}
    (hfits : ledger.Fits (·.shows = true) moment.before) :
    (ledger.behind moment).Fits Sight.ShowsNew moment.after := by
  obtain ⟨task, spawns, lines, next, htask, hrest, hafter, -, hbehind⟩ := of_sendsResume h ledger
  rw [hbehind, hafter]
  refine ⟨?_, fun index hindex => ?_⟩
  · rintro _ ⟨⟩
    have hmarks := hfits.session task htask
    show (task.rest.advance moment.before.world).1.MarksSeen _
    rw [hrest] at hmarks ⊢
    exact MarksSeen.of_false (hmarks _)
  · exact absurd (List.mem_of_getElem? (Scene.marking_of_carryOn hindex)) hnone.2

theorem of_findsStop {moment : Moment σ} (h : moment.findsStop = true) :
    ∃ lines reply after limit,
      moment.before.world.channel.converse lines .stop limit = (.ok reply, after) ∧
      moment.taken = itemsTaken (moment.before.world.channel.sendAll lines).2.queue
        (moment.before.world.channel.converse lines .stop limit).2.queue := by
  obtain ⟨before, turn⟩ := moment
  cases turn with
  | proceed spawns =>
    unfold findsStop at h
    cases htask : before.task with
    | none =>
      rw [htask] at h
      cases h
    | some task =>
      rw [htask] at h
      dsimp only at h
      split at h
      · rename_i lines limit next hrest
        rcases hconverse : before.world.channel.converse lines .stop limit with ⟨_ | reply, after⟩
        · rw [hconverse] at h
          cases h
        · refine ⟨lines, reply, after, limit, hconverse, ?_⟩
          show before.task.elim [] _ = _
          rw [htask]
          show task.rest.taken before.world = _
          rw [hrest]
          rfl
      · cases h
  | _ => cases h

/-- A step goes on from a marker that came behind its request exactly if none was queued before. -/
theorem stop_comes_behind_iff {moment : Moment σ} (h : moment.findsStop = true) :
    moment.before.world.channel.queue.length < moment.taken.length ↔
      ∀ line ∈ linesOf moment.before.world.channel.queue, isStopMarker line = false := by
  obtain ⟨lines, reply, after, limit, hconverse, htaken⟩ := of_findsStop h
  obtain ⟨front, last, hfront, hlast, hnone, -⟩ := Channel.converse_of_ok hconverse
  obtain ⟨added, hadded⟩ := moment.exists_added
  rw [htaken, hconverse, hfront] at hadded ⊢
  have hqueue : moment.before.world.channel.queue <+:
      front ++ [.line last] ++ moment.after.world.channel.queue := ⟨added, hadded⟩
  have hmarker := (Awaited.sight_stop_eq_arrived_iff last).mp hlast
  constructor
  · intro hlength line hline
    rw [List.length_append, List.length_singleton] at hlength
    have hbefore : moment.before.world.channel.queue <+: front := by
      refine List.prefix_of_prefix_length_le hqueue ?_ (by omega)
      rw [List.append_assoc]
      exact List.prefix_append _ _
    have hsight := hnone line ((hbefore.sublist.filterMap Item.line?).subset hline)
    rwa [Ne, Awaited.sight_stop_eq_arrived_iff, Bool.not_eq_true] at hsight
  · intro hplain
    by_contra hlength
    have hbefore : front ++ [.line last] <+: moment.before.world.channel.queue :=
      List.prefix_of_prefix_length_le (List.prefix_append _ _) hqueue (by omega)
    have hmem : last ∈ linesOf (front ++ [.line last]) := by
      rw [linesOf_append]
      exact List.mem_append_right _ List.mem_cons_self
    rw [hplain last ((hbefore.sublist.filterMap Item.line?).subset hmem)] at hmarker
    cases hmarker

end Moment

/-! ## Whole runs -/

/-- When stop markers from before count. Along every run, what the ledger counts as old is what is
left of the queue that the last resume found. A running target is marked on a read that shows a
stop; a marker that came since shows it exactly if the read would show a stop without the markers
from before. So it is if the last resume found no marker queued, and no watcher that was about to
mark. And a step goes on from a marker that came behind its request exactly if none was queued
before. -/
theorem stale_marker_counts_iff (settings : Settings) (channel : Channel σ) (tokensTaken : Nat)
    (turns : List Turn) :
    let start := Scene.opening settings channel tokensTaken
    let path := start.moments turns
    (∀ front resume between, path = front ++ resume :: between → resume.sendsResume = true →
      (∀ moment ∈ between, moment.sendsResume = false) →
      (Ledger.ofMoments path).CountsRestOf resume.before.world.channel.queue (start.play turns)) ∧
    (∀ front stop back, path = front ++ stop :: back → stop.stops = true →
      let sight := (Ledger.ofMoments front).sightAt stop
      sight.shows = true ∧ (sight.ShowsNew ↔ sight.withoutOldMarkers.shows = true)) ∧
    (∀ front resume between stop back, path = front ++ resume :: (between ++ stop :: back) →
      resume.sendsResume = true → resume.LeavesNoMarker →
      (∀ moment ∈ between, moment.sendsResume = false) → stop.stops = true →
      ((Ledger.ofMoments (front ++ resume :: between)).sightAt stop).ShowsNew) ∧
    (∀ moment ∈ path, moment.findsStop = true →
      (moment.before.world.channel.queue.length < moment.taken.length ↔
        ∀ line ∈ linesOf moment.before.world.channel.queue, isStopMarker line = false)) := by
  intro start path
  have hopening : ({} : Ledger).Fits (·.shows = true) start := by
    refine ⟨fun task htask => ?_, fun index hindex => ?_⟩
    · cases htask
    · cases hindex
  have hshows (early : List Turn) :
      (Ledger.ofMoments (start.moments early)).Fits (·.shows = true) (start.play early) :=
    hopening.play_shows early
  refine ⟨?_, ?_, ?_, fun moment _ hfinds => moment.stop_comes_behind_iff hfinds⟩
  · intro front resume between hpath hresume hgoing
    obtain ⟨early, late, hturns, -, hbefore, hlate⟩ := Scene.exists_turns_of_moments hpath
    rw [← hlate] at hgoing
    have hrest := Moment.countsRestOf_of_sendsResume hresume (Ledger.ofMoments front)
    have hplayed := hrest.play hgoing
    rw [hlate, ← Ledger.ofMoments_append_cons, ← hpath] at hplayed
    have hend : resume.after.play late = start.play turns := by
      rw [hturns, Scene.play_append, ← hbefore]
      rfl
    rw [hend] at hplayed
    exact hplayed
  · intro front stop back hpath hstops sight
    obtain ⟨early, late, -, hfront, hbefore, -⟩ := Scene.exists_turns_of_moments hpath
    have hfits := hshows early
    rw [hfront, ← hbefore] at hfits
    exact ⟨hfits.of_stops hstops, sight.showsNew_iff_withoutOldMarkers⟩
  · intro front resume between stop back hpath hresume hnone hgoing hstops
    obtain ⟨early, late, -, hfront, hbefore, hlate⟩ := Scene.exists_turns_of_moments hpath
    obtain ⟨middle, _, -, hbetween, hstop, -⟩ := Scene.exists_turns_of_moments hlate
    have hfits := hshows early
    rw [hfront, ← hbefore] at hfits
    rw [← hbetween] at hgoing
    have hrest := Moment.countsRestOf_of_sendsResume hresume (Ledger.ofMoments front)
    have hnew := Moment.fits_of_sendsResume hresume hnone hfits
    have hplayed := hnew.play_showsNew hnone.1 hrest hgoing
    rw [← hstop, hbetween] at hplayed
    rw [Ledger.ofMoments_append_cons]
    exact hplayed.of_stops hstops

/-- A user who pauses the target and, once it is found stopped, is about to let it go. -/
def pausedOnce : List Turn :=
  .begin .pauseOrResume :: List.replicate 4 (.proceed true) ++ List.replicate 5 (.watch 0) ++
    [.begin .pauseOrResume, .proceed true]

/-- The target, let go, that stops on its own, once the new watcher has seen so. -/
def stopsOnItsOwn : List Turn :=
  List.replicate 4 (.proceed true) ++ [.arrive [.line stopMarker] false, .watch 1, .watch 1]

/-- With nothing queued as it was let go, the target stops again on a marker that came since. -/
theorem new_marker_counts :
    let start := Scene.opening {} ({ peer := {} } : Channel Simulator.Link) 0
    let going := (start.play pausedOnce).after (.proceed true)
    let front := start.moments pausedOnce
    let resume : Moment Simulator.Link := ⟨start.play pausedOnce, .proceed true⟩
    let between := going.moments stopsOnItsOwn
    let stop : Moment Simulator.Link := ⟨going.play stopsOnItsOwn, .watch 1⟩
    resume.sendsResume = true ∧ stop.stops = true ∧
      ((Ledger.ofMoments (front ++ resume :: between)).sightAt stop).ShowsNew := by
  intro start going front resume between stop
  have hresume : resume.sendsResume = true := by decide +kernel
  have hstop : stop.stops = true := by decide +kernel
  refine ⟨hresume, hstop, ?_⟩
  have hpath : start.moments (pausedOnce ++ .proceed true :: (stopsOnItsOwn ++ [.watch 1])) =
      front ++ resume :: (between ++ stop :: []) := by
    rw [Scene.moments_append, Scene.moments, Scene.moments_append, Scene.moments, Scene.moments]
  obtain ⟨-, -, hnew, -⟩ := stale_marker_counts_iff {} ({ peer := {} } : Channel Simulator.Link) 0
    (pausedOnce ++ .proceed true :: (stopsOnItsOwn ++ [.watch 1]))
  exact hnew front resume between stop [] hpath hresume ⟨by decide +kernel, by decide +kernel⟩
    (by decide +kernel) hstop

/-- A user who pauses a target that also stops on its own, once the watcher has seen the first of
the two markers. -/
def pausedTwice : List Turn :=
  .begin .pauseOrResume :: List.replicate 4 (.proceed true) ++
    .arrive [.nothing, .line stopMarker] false :: List.replicate 5 (.watch 0)

/-- The second marker stops the target again though nothing came since it was let go, and a step
goes on from it at once. -/
theorem second_marker_counts_again :
    let start := Scene.opening {} ({ peer := {} } : Channel Simulator.Link) 0
    (∃ turns front stop, start.moments turns = front ++ [stop] ∧
      (∃ moment ∈ front, moment.sendsResume = true) ∧ stop.stops = true ∧
      ¬ ((Ledger.ofMoments front).sightAt stop).ShowsNew) ∧
    ∃ turns, ∃ moment ∈ start.moments turns, moment.findsStop = true ∧
      ¬ moment.before.world.channel.queue.length < moment.taken.length := by
  intro start
  refine ⟨?_, ?_⟩
  · let early := pausedTwice ++ .begin .pauseOrResume :: List.replicate 6 (.proceed true) ++
      [.watch 1, .watch 1]
    refine ⟨early ++ [.watch 1], start.moments early, ⟨start.play early, .watch 1⟩,
      start.moments_append early _, ?_⟩
    decide +kernel
  · refine ⟨pausedTwice ++ .begin (.step true) :: List.replicate 2 (.proceed true), ?_⟩
    decide +kernel

end RemoteDebug
