import RemoteDebug.Proofs.Session.Exchange
import RemoteDebug.Proofs.Watcher.Round
import RemoteDebug.Simulator.Machine

/-!
# Stop notices

Two calls take lines from the channel and look for stop markers in them: an exchange and a poll of
the watcher. A call that returns lines has seen every marker that stood outside the blocks of all
the lines that it took, although it looks only at those that it returns: the echoes left out open
blocks and close none. A call that fails returns no lines, and the markers that it took are lost.
`stopped_after_call_iff` is both halves.
-/

namespace RemoteDebug

open RemoteDebug.Wire Operation

variable {σ : Type} [Peer σ]

/-! ## Calls -/

/-- A call that takes lines from the channel and looks for stop markers in them. -/
inductive ReadCall where
  /-- An exchange of a session. -/
  | exchange (session : Session) (requests : List Request)
  /-- A poll of the watcher, with what follows from it. -/
  | poll

namespace ReadCall

/-- Whether a call succeeds, and the world behind it. -/
def run : ReadCall → World σ → Except Error Unit × World σ
  | exchange session requests, world =>
    let outcome := (RemoteDebug.exchange requests).runIn session world
    (outcome.1.1.map fun _ => (), outcome.2)
  | poll, world => (world.channel.drain.1.map fun _ => (), world.watchOnce)

/-- The queue that a call finds when it starts to read; an exchange has sent its requests by
then. -/
def found : ReadCall → World σ → List Item
  | exchange _ requests, world => (world.channel.sendAll (world.exchangeLines requests)).2.queue
  | poll, world => world.channel.queue

/-- The lines that a call takes. -/
def taken (call : ReadCall) (world : World σ) : List String :=
  linesTaken (call.found world) (call.run world).2.channel.queue

end ReadCall

/-! ## Calls that succeed, and calls that fail -/

omit [Peer σ] in
/-- A reader that found its echo gives every marker that stood outside the blocks of what it
took. -/
theorem stopsFrom_await {channel after : Channel σ} {token : SyncToken} {limit : Duration}
    {lines : List String} (h : channel.await (.echo token) limit = (.ok lines, after))
    (hstop : stopsFrom false (linesTaken channel.queue after.queue) = true) :
    stopsFrom false lines = true := by
  unfold Channel.await at h
  rcases hread : Channel.awaitItems (.echo token) limit channel.queue with ⟨_ | kept, left⟩
  · simp [hread] at h
  · simp only [hread, Prod.mk.injEq, Except.ok.injEq] at h
    obtain ⟨rfl, rfl⟩ := h
    obtain ⟨front, last, hqueue, hlast, -, rfl⟩ := Channel.awaitItems_of_ok hread
    have hecho : isEcho last = true := by
      rw [← isReply_or_isStaleReply_iff token,
        (Awaited.sight_echo_eq_arrived_iff token last).mp hlast, Bool.true_or]
    have hsplit : channel.queue = (front ++ [.line last]) ++ left := by simp [hqueue]
    -- the echo that ends the reading is no marker, so the marker stands before it
    have hfront : stopsFrom false (linesOf front) = true := by
      simp only [hsplit, linesTaken_append, linesOf_append, stopsFrom_append] at hstop
      simpa [linesOf, Item.line?, stopsFrom, isStopMarker_of_isEcho hecho] using hstop
    rw [Awaited.filter_ordinary]
    exact stopsFrom_filter_echo id (linesOf front) hfront

/-- An exchange that took a marker has marked the target exactly if it was answered. -/
theorem exchange_stopped_iff {world : World σ} {limit : Duration} {requests : List Request}
    (hstop : stopsFrom false (linesTaken
      (world.channel.sendAll (world.exchangeLines requests)).2.queue
      (world.exchange limit requests).2.channel.queue) = true) :
    (world.exchange limit requests).2.target.stopped = true ↔
      world.target.stopped = true ∨ ∃ reply, (world.exchange limit requests).1 = .ok reply := by
  rcases hread : world.channel.converse (world.exchangeLines requests) (.echo world.nextToken) limit
    with ⟨cause | lines, channel⟩
  · rw [World.exchange_of_error hread]
    simp
  · rw [World.exchange_of_ok hread] at hstop ⊢
    have hlines : stopsFrom false lines = true := by
      unfold Channel.converse at hread
      rcases hsend : world.channel.sendAll (world.exchangeLines requests) with ⟨_ | _, sent⟩
      · simp [hsend] at hread
      · simp only [hsend] at hread hstop
        rw [World.noticeStop_channel] at hstop
        exact stopsFrom_await hread hstop
    rw [World.noticeStop_target, splitReply_stopObserved, hlines]
    simp

omit [Peer σ] in
/-- A poll that took a marker has marked the target exactly if it succeeded. -/
theorem watchOnce_stopped_iff {world : World σ}
    (hstop : stopsFrom false
      (linesTaken world.channel.queue world.watchOnce.channel.queue) = true) :
    world.watchOnce.target.stopped = true ↔
      world.target.stopped = true ∨ ∃ lines, world.channel.drain.1 = .ok lines := by
  rw [World.watchOnce_channel] at hstop
  rcases hdrain : world.channel.drain with ⟨cause | lines, channel⟩
  · rw [World.watchOnce_of_error hdrain]
    simp
  · rw [hdrain, Channel.linesTaken_of_drain hdrain] at hstop
    rw [World.watchOnce_of_ok hdrain]
    simp [hstop]

/-- A call that takes a stop marker which stands outside every block of the lines that it takes
leaves the target marked as stopped if the target was so before or the call succeeds, and only
then. -/
theorem stopped_after_call_iff (call : ReadCall) (world : World σ) {front back : List String}
    {marker : String} (htaken : call.taken world = front ++ marker :: back)
    (hmarker : isStopMarker marker = true)
    (houtside : (Splitter.pushAll {} front).1.current = none) :
    (call.run world).2.target.stopped = true ↔
      world.target.stopped = true ∨ (call.run world).1 = .ok () := by
  have hclosed : insideAfterAll false front = false := by
    rw [show false = Splitter.isOpen {} from rfl, ← isOpen_pushAll, Splitter.isOpen, houtside]
    rfl
  have hstop : stopsFrom false (call.taken world) = true :=
    (stopsFrom_iff false _).mpr ⟨front, marker, back, htaken, hmarker, hclosed⟩
  cases call with
  | exchange session requests =>
    unfold ReadCall.taken ReadCall.found ReadCall.run at hstop
    unfold ReadCall.run
    simp only [runIn_exchange] at hstop ⊢
    rw [exchange_stopped_iff hstop]
    rcases (world.exchange session.settings.replyLimit requests).1 with _ | _ <;> simp [Except.map]
  | poll =>
    unfold ReadCall.run
    rw [watchOnce_stopped_iff hstop]
    rcases hdrain : world.channel.drain.1 with _ | _ <;> simp [Except.map, hdrain]

/-- The world behind a request to stop that a link was sent. -/
def worldAfterPause (link : Simulator.Link) : World Simulator.Link :=
  (pauseOrResume.runIn {} { channel := { peer := link } }).2

/-- A target that stops behind the end of a block, in one poll. -/
def stopBehindBlock : World Simulator.Link :=
  worldAfterPause { machine := {
    script := [("break", [[.line "#mem OK 000000 000001 00", .line "##", .line "!break"]])] } }

theorem stopped_after_poll :
    ReadCall.poll.taken stopBehindBlock = ["#mem OK 000000 000001 00", "##"] ++ "!break" :: [] ∧
    (ReadCall.poll.run stopBehindBlock).2.target.stopped = true := by
  have htaken : ReadCall.poll.taken stopBehindBlock =
      ["#mem OK 000000 000001 00", "##"] ++ "!break" :: [] := by decide +kernel
  exact ⟨htaken, (stopped_after_call_iff .poll stopBehindBlock htaken (by decide +kernel)
    (by decide +kernel)).mpr (.inr rfl)⟩

/-- A target that stops, and echoes no token. -/
def stopBehindMute : World Simulator.Link :=
  worldAfterPause { muted := true }

/-- A target that stops just before reading from it fails. -/
def stopBeforeFault : World Simulator.Link :=
  worldAfterPause { machine := { script := [("break", [[.line "!break", .fault "timed out"]])] } }

/-- A stop is lost to an exchange that is not answered, and to a poll that fails: both have taken
the marker, which no block surrounds, and the target counts as running. -/
theorem failing_calls_lose_stops :
    (ReadCall.exchange {} [.raw "help"]).taken stopBehindMute =
      ["!break", "unknown command: help"] ∧
    ((ReadCall.exchange {} [.raw "help"]).run stopBehindMute).2.target.stopped = false ∧
    ReadCall.poll.taken stopBeforeFault = ["!break"] ∧
    (ReadCall.poll.run stopBeforeFault).2.target.stopped = false := by
  refine ⟨?_, ?_, ?_, ?_⟩ <;> decide +kernel

end RemoteDebug
