import RemoteDebug.Proofs.Watcher.Round
import RemoteDebug.Simulator.Machine

/-!
# How a stream is cut into polls

The watcher looks at each poll on its own, with a splitter that knows of no block. What it sees of a
stream therefore depends on how the stream is cut: `watch_stopped_iff` says that it sees every stop
that the stream as a whole shows, and beyond those the markers that come first in a piece which
starts inside a block. `cutting_makes_no_difference_iff` says when a cut does no harm.
-/

namespace RemoteDebug

open RemoteDebug.Wire

/-! ## Pieces of a stream -/

/-- The items by which each of several pieces of a stream is what one poll finds. -/
def itemsOfPieces (pieces : List (List String)) : List Item :=
  pieces.flatMap fun piece => piece.map .line ++ [.nothing]

theorem itemsOfPieces_cons (piece : List String) (rest : List (List String)) :
    itemsOfPieces (piece :: rest) = piece.map .line ++ .nothing :: itemsOfPieces rest := by
  simp [itemsOfPieces]

/-- Every piece takes a poll. -/
theorem length_le_itemsOfPieces (pieces : List (List String)) :
    pieces.length ≤ (itemsOfPieces pieces).length := by
  induction pieces with
  | nil => exact Nat.le_refl _
  | cons piece rest ih =>
    simp only [itemsOfPieces_cons, List.length_append, List.length_cons]
    omega

/-- Whether a piece of a stream starts inside a block of it and meets a stop marker before every
other line that opens or closes a block. -/
def MarkerInStraddledBlock (pieces : List (List String)) : Prop :=
  ∃ before piece after, pieces = before ++ piece :: after ∧
    (Splitter.pushAll {} before.flatten).1.isOpen = true ∧ MarkerFirst piece

/-- Pieces that are looked at one by one, each from outside, show a stop if the stream does, seen
from inside or outside, or if a marker comes first in a piece that starts inside a block. -/
theorem exists_piece_shows_iff (inside : Bool) (pieces : List (List String)) :
    (∃ piece ∈ pieces, stopsFrom false piece = true) ↔
      stopsFrom inside pieces.flatten = true ∨
      ∃ before piece after, pieces = before ++ piece :: after ∧
        insideAfterAll inside before.flatten = true ∧ MarkerFirst piece := by
  -- `inside` is what the pieces that have been looked at left open
  induction pieces generalizing inside with
  | nil => simp [stopsFrom]
  | cons first rest ih =>
    have hfirst : stopsFrom false first = true ↔
        stopsFrom inside first = true ∨ (inside = true ∧ MarkerFirst first) := by
      cases inside with
      | false => simp
      | true => simp [stopsFrom_outside_iff first]
    have hsplit : (∃ piece ∈ first :: rest, stopsFrom false piece = true) ↔
        stopsFrom false first = true ∨ ∃ piece ∈ rest, stopsFrom false piece = true := by simp
    rw [hsplit, hfirst, ih (insideAfterAll inside first), List.flatten_cons, stopsFrom_append,
      Bool.or_eq_true]
    constructor
    · rintro ((hstop | ⟨hinside, hmarker⟩) | hstop | ⟨before, piece, after, rfl, hopen, hmarker⟩)
      · exact .inl (.inl hstop)
      · exact .inr ⟨[], first, rest, rfl, hinside, hmarker⟩
      · exact .inl (.inr hstop)
      · refine .inr ⟨first :: before, piece, after, rfl, ?_, hmarker⟩
        rw [List.flatten_cons, insideAfterAll_append, hopen]
    · rintro ((hstop | hstop) | ⟨before, piece, after, heq, hopen, hmarker⟩)
      · exact .inl (.inl hstop)
      · exact .inr (.inl hstop)
      · cases before with
        | nil =>
          cases heq
          exact .inl (.inr ⟨hopen, hmarker⟩)
        | cons head before =>
          cases heq
          rw [List.flatten_cons, insideAfterAll_append] at hopen
          exact .inr (.inr ⟨before, piece, after, rfl, hopen, hmarker⟩)

/-! ## The watcher's rounds -/

namespace World

variable {σ : Type}

/-- A round of the watcher takes one piece, and stops at it if it shows a stop. -/
theorem watchOnce_piece {world : World σ} {piece : List String} {rest : List (List String)}
    (hqueue : world.channel.queue = itemsOfPieces (piece :: rest))
    (hwatching : world.watching = true) (hrunning : world.target.stopped = false) :
    world.watchOnce.channel.queue = itemsOfPieces rest ∧
      world.watchOnce.target.stopped = stopsFrom false piece ∧
      world.watchOnce.watching = !stopsFrom false piece := by
  have hdrain : world.channel.drain =
      (.ok piece, { world.channel with queue := itemsOfPieces rest }) := by
    unfold Channel.drain
    rw [hqueue, itemsOfPieces_cons, Channel.drainItems_lines]
  rw [watchOnce_of_ok hdrain]
  simp [hwatching, hrunning]

/-- A round of the watcher that finds nothing sees nothing, and is the last one. -/
theorem watchOnce_empty {world : World σ} (hqueue : world.channel.queue = [])
    (hrunning : world.target.stopped = false) :
    world.watchOnce.watchGoesOn = false ∧ world.watchOnce.target.stopped = false := by
  cases hclosed : world.channel.closed with
  | false =>
    have hdrain : world.channel.drain = (.ok [], { world.channel with queue := [] }) := by
      simp [Channel.drain, hqueue, hclosed]
    rw [watchOnce_of_ok hdrain]
    simp [watchGoesOn, hclosed, hrunning, stopsFrom]
  | true =>
    have hdrain : world.channel.drain =
        (.error .channelClosed, { world.channel with queue := [] }) := by
      simp [Channel.drain, hqueue, hclosed]
    rw [watchOnce_of_error hdrain]
    simp [watchGoesOn, hrunning]

/-- A watcher of a running target that has rounds enough for all pieces marks the target as stopped
if one of them shows a stop. -/
theorem watchUpTo_stopped_iff {pieces : List (List String)} {world : World σ} {rounds : Nat}
    (hqueue : world.channel.queue = itemsOfPieces pieces) (hwatching : world.watching = true)
    (hrunning : world.target.stopped = false) (hrounds : pieces.length < rounds) :
    (world.watchUpTo rounds).target.stopped = true ↔
      ∃ piece ∈ pieces, stopsFrom false piece = true := by
  obtain ⟨rounds, rfl⟩ : ∃ fewer, rounds = fewer + 1 := ⟨rounds - 1, by omega⟩
  induction pieces generalizing world rounds with
  | nil =>
    obtain ⟨hends, hunseen⟩ := watchOnce_empty hqueue hrunning
    simp [watchUpTo, hends, hunseen]
  | cons piece rest ih =>
    obtain ⟨hleft, hstopped, hactive⟩ := watchOnce_piece hqueue hwatching hrunning
    simp only [watchUpTo]
    cases hshown : stopsFrom false piece with
    | true => simp [watchGoesOn, hactive, hstopped, hshown]
    | false =>
      rw [hshown] at hstopped hactive
      have hlater : (∃ later ∈ piece :: rest, stopsFrom false later = true) ↔
          ∃ later ∈ rest, stopsFrom false later = true := by simp [hshown]
      rw [hlater]
      by_cases hgoes : world.watchOnce.watchGoesOn = true
      · rw [if_pos hgoes]
        obtain ⟨fewer, rfl⟩ : ∃ fewer, rounds = fewer + 1 :=
          ⟨rounds - 1, by rw [List.length_cons] at hrounds; omega⟩
        exact ih hleft hactive hstopped fewer (by simpa using hrounds)
      · rw [if_neg hgoes]
        -- an active watcher ends its rounds only if nothing is left to read
        have hnone : rest = [] := by
          cases rest with
          | nil => rfl
          | cons => simp [watchGoesOn, hactive, hleft, itemsOfPieces_cons] at hgoes
        simp [hnone, hstopped]

end World

/-- What the watcher of a running target sees of a stream that arrives in pieces: the stops that the
stream shows as a whole, and the markers that come first in a piece which starts inside a block. -/
theorem watch_stopped_iff {σ : Type} {world : World σ} {pieces : List (List String)}
    (hqueue : world.channel.queue = itemsOfPieces pieces) (hwatching : world.watching = true)
    (hrunning : world.target.stopped = false) :
    world.watch.target.stopped = true ↔
      (Splitter.pushAll {} pieces.flatten).1.stopObserved = true ∨
        MarkerInStraddledBlock pieces := by
  have hrounds : pieces.length < world.channel.queue.length + 1 := by
    rw [hqueue]
    exact Nat.lt_succ_of_le (length_le_itemsOfPieces pieces)
  unfold World.watch
  rw [if_pos hwatching, World.watchUpTo_stopped_iff hqueue hwatching hrunning hrounds,
    exists_piece_shows_iff false, stopObserved_pushAll]
  unfold MarkerInStraddledBlock
  simp only [isOpen_pushAll]
  rfl

/-- The watcher of a running target stops on a stream that arrives in pieces exactly if one splitter
fed with all of it observes a stop, as long as the stream shows a stop or no piece starts inside a
block and meets a marker first; in any other case it stops on a stream that shows none. -/
theorem cutting_makes_no_difference_iff {σ : Type} (world : World σ) (pieces : List (List String))
    (hqueue : world.channel.queue = itemsOfPieces pieces) (hwatching : world.watching = true)
    (hrunning : world.target.stopped = false) :
    (world.watch.target.stopped = true ↔
      (Splitter.pushAll {} pieces.flatten).1.stopObserved = true) ↔
    (Splitter.pushAll {} pieces.flatten).1.stopObserved = true ∨
      ¬ MarkerInStraddledBlock pieces := by
  rw [watch_stopped_iff hqueue hwatching hrunning]
  by_cases hshown : (Splitter.pushAll {} pieces.flatten).1.stopObserved = true
  · simp [hshown]
  · simp [hshown]

/-- The world of a watcher that finds a stream in pieces. -/
def worldOfPieces (pieces : List (List String)) : World Simulator.Link where
  channel := { queue := itemsOfPieces pieces, peer := {} }
  watching := true

/-- A block that is cut in two does no harm to the stop behind it. -/
theorem cut_before_payload_makes_no_difference :
    (worldOfPieces [["#mem OK 000000 000001"], ["00", "##", "!break"]]).watch.target.stopped =
        true ↔
      (Splitter.pushAll {} ["#mem OK 000000 000001", "00", "##", "!break"]).1.stopObserved =
        true :=
  (cutting_makes_no_difference_iff
    (worldOfPieces [["#mem OK 000000 000001"], ["00", "##", "!break"]])
    [["#mem OK 000000 000001"], ["00", "##", "!break"]] rfl rfl rfl).mpr (.inl (by decide +kernel))

/-- A marker in the payload of a block stops the watcher if the block is cut in two before it,
although it does not stop a splitter that is fed with the whole block. -/
theorem cut_before_marker_makes_a_difference :
    ¬ ((worldOfPieces [["#mem OK 000000 000010"], ["!break", "##"]]).watch.target.stopped = true ↔
      (Splitter.pushAll {} ["#mem OK 000000 000010", "!break", "##"]).1.stopObserved = true) := by
  decide +kernel

/-- Of all streams, those may be cut anywhere that show a stop or hold no stop marker at all. -/
theorem every_cut_makes_no_difference_iff (lines : List String) :
    (∀ pieces : List (List String), pieces.flatten = lines →
      ((∃ piece ∈ pieces, WatchStage.showsStop piece = true) ↔
        WatchStage.showsStop lines = true)) ↔
    WatchStage.showsStop lines = true ∨ ∀ line ∈ lines, isStopMarker line = false := by
  simp only [WatchStage.showsStop_eq]
  constructor
  · intro h
    by_cases hshown : stopsFrom false lines = true
    · exact .inl hshown
    · refine .inr fun marker hmem => Bool.eq_false_iff.mpr fun hmarker => hshown ?_
      obtain ⟨front, back, rfl⟩ := List.append_of_mem hmem
      -- a cut just before the marker shows it to the watcher
      refine (h [front, marker :: back] (by simp)).mp ⟨marker :: back, by simp, ?_⟩
      simp [stopsFrom, hmarker]
  · rintro (hshown | hplain) pieces rfl
    · rw [exists_piece_shows_iff false]
      simp [hshown]
    · rw [exists_piece_shows_iff false]
      refine ⟨fun h => h.elim id ?_, .inl⟩
      rintro ⟨before, piece, after, rfl, -, front, marker, back, rfl, hmarker, -⟩
      simp [hplain marker (by simp)] at hmarker

end RemoteDebug
