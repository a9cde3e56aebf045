import RemoteDebug.Proofs.Channel.Leftovers
import RemoteDebug.Proofs.Wire.StopMarkers

/-!
# The two who look for a stop

A step reads the channel until a stop marker comes, and takes any line that is one; a splitter
counts a marker only where no block is open. `Channel.linesToStop?` and `Splitter.linesToStop?` are
the numbers of lines after which each has found its stop, and `stop_detectors_agree_iff` says when
they are the same. With time to read, the reader is done at the first marker of all
(`linesToStop?_of_first_marker`), so the two agree unless a block is open there.
-/

namespace RemoteDebug

open RemoteDebug.Wire

namespace Wire

/-! ## The splitter -/

/-- How many lines a splitter has taken when it first observes a stop, if it ever does. -/
def Splitter.linesToStop? (lines : List String) : Option Nat :=
  (List.range (lines.length + 1)).find? fun count =>
    (Splitter.pushAll {} (lines.take count)).1.stopObserved

/-- Whether the first stop marker of a stream, if it has one, stands outside every block. -/
def FirstMarkerOutside (lines : List String) : Prop :=
  (∃ line ∈ lines, isStopMarker line = true) →
    (Splitter.pushAll {} (lines.takeWhile fun line => !isStopMarker line)).1.current = none

/-- A fresh splitter observes a stop where one is shown from outside. -/
theorem stopObserved_of_fresh (lines : List String) :
    (Splitter.pushAll {} lines).1.stopObserved = stopsFrom false lines :=
  splitReply_stopObserved lines

theorem current_of_fresh (lines : List String) :
    (Splitter.pushAll {} lines).1.current = none ↔ insideAfterAll false lines = false := by
  show _ ↔ insideAfterAll (Splitter.isOpen {}) lines = false
  rw [← isOpen_pushAll, Splitter.isOpen, Option.isSome_eq_false_iff, Option.isNone_iff_eq_none]

/-- A splitter finds no stop in a stream that shows none. -/
theorem Splitter.linesToStop?_eq_none_iff (lines : List String) :
    linesToStop? lines = none ↔ stopsFrom false lines = false := by
  simp only [linesToStop?, List.find?_eq_none, List.mem_range, stopObserved_of_fresh,
    Bool.not_eq_true]
  constructor
  · intro h
    have hall := h lines.length (Nat.lt_succ_self _)
    rwa [List.take_length] at hall
  · intro h count _
    -- what some of the lines show, all of them show
    rw [← List.take_append_drop count lines, stopsFrom_append, Bool.or_eq_false_iff] at h
    exact h.1

/-- Before its first marker a stream shows no stop, and at that marker it does exactly if no block
is open. -/
theorem Splitter.linesToStop?_at_first_marker_iff {front back : List String} {marker : String}
    (hfront : ∀ line ∈ front, isStopMarker line = false) (hmarker : isStopMarker marker = true) :
    linesToStop? (front ++ marker :: back) = some (front.length + 1) ↔
      insideAfterAll false front = false := by
  have hat : (front ++ marker :: back).take (front.length + 1) = front ++ [marker] := by
    rw [List.append_cons]
    exact List.take_left' (by simp)
  have hbefore (count : Nat) (hcount : count < front.length + 1) :
      stopsFrom false ((front ++ marker :: back).take count) = false := by
    rw [List.take_append_of_le_length (Nat.le_of_lt_succ hcount)]
    exact stopsFrom_of_no_marker (fun line hline => hfront line (List.mem_of_mem_take hline)) false
  simp only [linesToStop?, List.find?_range_eq_some, stopObserved_of_fresh, hat, stopsFrom_append,
    stopsFrom_of_no_marker hfront, stopsFrom, hmarker, Bool.false_or, Bool.or_false, Bool.and_true,
    Bool.not_eq_true', List.mem_range]
  exact ⟨fun h => h.1, fun h => ⟨h, by simp, hbefore⟩⟩

/-- A marker that comes at once is found at once. -/
theorem Splitter.linesToStop?_cons_marker {marker : String} (hmarker : isStopMarker marker = true)
    (back : List String) : linesToStop? (marker :: back) = some 1 := by
  have hnone : ∀ line ∈ ([] : List String), isStopMarker line = false := nofun
  exact (linesToStop?_at_first_marker_iff hnone hmarker).mpr rfl

theorem firstMarkerOutside_of_no_marker {lines : List String}
    (h : ∀ line ∈ lines, isStopMarker line = false) : FirstMarkerOutside lines := by
  rintro ⟨line, hline, hmarker⟩
  rw [h line hline] at hmarker
  cases hmarker

theorem firstMarkerOutside_append_cons_iff {front back : List String} {marker : String}
    (hfront : ∀ line ∈ front, isStopMarker line = false) (hmarker : isStopMarker marker = true) :
    FirstMarkerOutside (front ++ marker :: back) ↔ insideAfterAll false front = false := by
  have htake : (front ++ marker :: back).takeWhile (fun line => !isStopMarker line) = front := by
    rw [List.takeWhile_append_of_pos (by simpa using hfront),
      List.takeWhile_cons_of_neg (by simp [hmarker]), List.append_nil]
  rw [FirstMarkerOutside, htake, current_of_fresh]
  exact ⟨fun h => h ⟨marker, by simp, hmarker⟩, fun h _ => h⟩

/-- A stream has no marker, or a first one. -/
theorem exists_first_marker (lines : List String) :
    (∀ line ∈ lines, isStopMarker line = false) ∨
      ∃ front marker back, lines = front ++ marker :: back ∧
        (∀ line ∈ front, isStopMarker line = false) ∧ isStopMarker marker = true := by
  rcases hfind : lines.find? isStopMarker with _ | marker
  · exact .inl fun line hline => Bool.eq_false_iff.mpr (List.find?_eq_none.mp hfind line hline)
  · obtain ⟨hmarker, front, back, hlines, hfront⟩ := List.find?_eq_some_iff_append.mp hfind
    exact .inr ⟨front, marker, back, hlines, by simpa using hfront, hmarker⟩

end Wire

/-! ## The reader -/

namespace Channel

variable {σ : Type} {channel : Channel σ} {limit : Duration}

/-- How many lines a reader has taken when the stop that it waits for comes, if it comes. -/
def linesToStop? (channel : Channel σ) (limit : Duration) : Option Nat :=
  match channel.await .stop limit with
  | (.ok _, after) => some (linesTaken channel.queue after.queue).length
  | (.error _, _) => none

/-- A reader with time takes the first stop marker, wherever it stands. -/
theorem linesToStop?_of_first_marker {front back : List String} {marker : String}
    (htime : limit.nanoseconds ≠ 0) (hreadable : IsReadable channel.queue)
    (hlines : linesOf channel.queue = front ++ marker :: back)
    (hfront : ∀ line ∈ front, isStopMarker line = false) (hmarker : isStopMarker marker = true) :
    channel.linesToStop? limit = some (front.length + 1) := by
  have hpassed : ∀ line ∈ front, Awaited.stop.sight line ≠ .arrived := fun line hline => by
    rw [Ne, Awaited.sight_stop_eq_arrived_iff, hfront line hline]
    exact Bool.noConfusion
  obtain ⟨left, hread, hleft, -⟩ := awaitItems_of_linesOf htime hreadable hlines hpassed
    ((Awaited.sight_stop_eq_arrived_iff marker).mpr hmarker)
  obtain ⟨items, last, hqueue, -⟩ := awaitItems_of_ok hread
  -- as many lines are taken as are not left
  have htaken : (linesTaken channel.queue left).length + back.length =
      (linesOf channel.queue).length := by
    rw [hqueue, List.append_cons, linesTaken_append, linesOf_append _ left, hleft,
      List.length_append]
  rw [hlines, List.length_append, List.length_cons] at htaken
  have hcount : (linesTaken channel.queue left).length = front.length + 1 := by omega
  unfold linesToStop? await
  rw [hread]
  exact congrArg some hcount

/-- What a reader found was a stop marker. -/
theorem exists_marker_of_linesToStop? {count : Nat} (h : channel.linesToStop? limit = some count) :
    ∃ line ∈ linesOf channel.queue, isStopMarker line = true := by
  unfold linesToStop? await at h
  rcases hread : awaitItems .stop limit channel.queue with ⟨_ | lines, left⟩
  · rw [hread] at h
    cases h
  · obtain ⟨front, last, hqueue, hlast, -⟩ := awaitItems_of_ok hread
    refine ⟨last, ?_, (Awaited.sight_stop_eq_arrived_iff last).mp hlast⟩
    rw [hqueue, linesOf_append]
    exact List.mem_append_right _ List.mem_cons_self

/-- A reader finds no stop where there is no marker. -/
theorem linesToStop?_of_no_marker (h : ∀ line ∈ linesOf channel.queue, isStopMarker line = false) :
    channel.linesToStop? limit = none := by
  rcases hfound : channel.linesToStop? limit with _ | count
  · rfl
  · obtain ⟨line, hline, hmarker⟩ := exists_marker_of_linesToStop? hfound
    rw [h line hline] at hmarker
    cases hmarker

/-- Whether a stop marker is what a reader finds first. -/
def StopIsFirst (channel : Channel σ) : Prop :=
  ∃ marker rest, channel.queue = .line marker :: rest ∧ isStopMarker marker = true

theorem linesToStop?_of_stopIsFirst (h : channel.StopIsFirst) :
    channel.linesToStop? limit = some 1 := by
  obtain ⟨marker, rest, hqueue, hmarker⟩ := h
  unfold linesToStop? await
  rw [hqueue, awaitItems_arrived ((Awaited.sight_stop_eq_arrived_iff marker).mpr hmarker)]
  exact congrArg (fun lines => some lines.length) (linesTaken_append [.line marker] rest)

/-- A reader without time finds no stop but one that comes first. -/
theorem linesToStop?_of_no_time (hnone : limit.nanoseconds = 0)
    (hreadable : IsReadable channel.queue) (h : ¬ channel.StopIsFirst) :
    channel.linesToStop? limit = none := by
  have hpassed : FirstIsPassed .stop channel.queue := by
    refine ⟨fun text hfault => hreadable text (List.mem_of_mem_head? hfault), ?_⟩
    intro line hline hseen
    obtain ⟨rest, hqueue⟩ := List.head?_eq_some_iff.mp hline
    exact h ⟨line, rest, hqueue, (Awaited.sight_stop_eq_arrived_iff line).mp hseen⟩
  have hread := awaitItems_of_no_time hnone hpassed
  unfold linesToStop? await
  rcases hresult : awaitItems .stop limit channel.queue with ⟨_ | _, left⟩
  · rfl
  · rw [hresult] at hread
    cases hread

end Channel

/-! ## Both -/

/-- A reader that waits for a stop is done at the line at which a splitter first observes one, and
not at all if it observes none, exactly if no block is open at the first stop marker. A reader
without time is done at once or not at all, so there the two agree if a marker comes first or no
stop is shown. -/
theorem stop_detectors_agree_iff {σ : Type} (channel : Channel σ) (limit : Duration)
    (hreadable : Channel.IsReadable channel.queue) :
    channel.linesToStop? limit = Splitter.linesToStop? (linesOf channel.queue) ↔
      if limit.nanoseconds = 0 then
        channel.StopIsFirst ∨ (splitReply (linesOf channel.queue)).stopObserved = false
      else FirstMarkerOutside (linesOf channel.queue) := by
  by_cases htime : limit.nanoseconds = 0
  · rw [if_pos htime, splitReply_stopObserved, ← Splitter.linesToStop?_eq_none_iff]
    by_cases hfirst : channel.StopIsFirst
    · obtain ⟨marker, rest, hqueue, hmarker⟩ := id hfirst
      have hlines : linesOf channel.queue = marker :: linesOf rest := by rw [hqueue]; rfl
      rw [Channel.linesToStop?_of_stopIsFirst hfirst, hlines,
        Splitter.linesToStop?_cons_marker hmarker]
      exact ⟨fun _ => .inl hfirst, fun _ => rfl⟩
    · rw [Channel.linesToStop?_of_no_time htime hreadable hfirst, eq_comm]
      exact ⟨.inr, fun h => h.resolve_left hfirst⟩
  · rw [if_neg htime]
    rcases exists_first_marker (linesOf channel.queue) with hnone |
      ⟨front, marker, back, hlines, hfront, hmarker⟩
    · rw [Channel.linesToStop?_of_no_marker hnone, eq_comm, Splitter.linesToStop?_eq_none_iff,
        stopsFrom_of_no_marker hnone]
      exact ⟨fun _ => firstMarkerOutside_of_no_marker hnone, fun _ => rfl⟩
    · rw [Channel.linesToStop?_of_first_marker htime hreadable hlines hfront hmarker, eq_comm,
        hlines, Splitter.linesToStop?_at_first_marker_iff hfront hmarker,
        firstMarkerOutside_append_cons_iff hfront hmarker]

/-- Behind a whole block both find the marker, at the third line. -/
theorem stop_is_found_behind_block :
    let channel : Channel Unit :=
      { queue := ["#mem OK 000000 000001", "##", stopMarker].map .line, peer := () }
    channel.linesToStop? (.ofMilliseconds 5000) = Splitter.linesToStop? (linesOf channel.queue) ∧
      channel.linesToStop? (.ofMilliseconds 5000) = some 3 := by
  intro channel
  have hreadable : Channel.IsReadable channel.queue := fun text => by simp [channel]
  refine ⟨(stop_detectors_agree_iff channel _ hreadable).mpr ?_, by decide +kernel⟩
  rw [if_neg (by decide)]
  exact fun _ => by decide +kernel

/-- In an open block the reader takes the second line for a stop, and the splitter finds none. -/
theorem reader_stops_inside_block :
    let channel : Channel Unit :=
      { queue := ["#mem OK 000000 000001", stopMarker, "##"].map .line, peer := () }
    channel.linesToStop? (.ofMilliseconds 5000) = some 2 ∧
      Splitter.linesToStop? (linesOf channel.queue) = none := by
  decide +kernel

end RemoteDebug
