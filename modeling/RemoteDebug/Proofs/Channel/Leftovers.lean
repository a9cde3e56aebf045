import RemoteDebug.Proofs.Channel.Taking
import RemoteDebug.Proofs.Wire.WholeBlocks

/-!
# Leftovers of requests that were given up

A request that was given up leaves its reply in the channel, where the next one finds it in front
of its own: whole blocks and echoes of outdated tokens. A reader that has time reads past them, and
what it gives has their blocks in front of its own and is the same otherwise
(`converse_behind_of_ok`).
-/

namespace RemoteDebug

open RemoteDebug.Wire

/-! ## Leftovers -/

/-- What a request that was given up left in the channel, when so many tokens had been taken. -/
inductive Leftover (taken : Nat) where
  /-- A reply block. -/
  | block (whole : WholeBlock)
  /-- The echo of a token. -/
  | echo (line : String) (token : SyncToken) (echoes : token.isReply line = true)
      (outdated : token.number ≤ taken)

namespace Leftover

variable {taken : Nat}

/-- The lines of a leftover. -/
def lines : Leftover taken → List String
  | block whole => whole.lines
  | echo line .. => [line]

/-- The lines that a reader keeps of a leftover when it waits for an echo. -/
def kept : Leftover taken → List String
  | block whole => whole.lines
  | echo .. => []

/-- The blocks of a leftover. -/
def blocks : Leftover taken → List Block
  | block whole => [whole.block]
  | echo .. => []

/-- No line of leftovers is the echo of the next token. -/
theorem isReply_of_mem {leftovers : List (Leftover taken)} {line : String}
    (h : line ∈ leftovers.flatMap lines) : (⟨taken + 1⟩ : SyncToken).isReply line = false := by
  obtain ⟨leftover, -, hline⟩ := List.mem_flatMap.mp h
  rw [Bool.eq_false_iff]
  intro hreply
  cases leftover with
  | block whole =>
    have hecho := isEcho_of_isReply hreply
    rw [WholeBlock.isEcho_of_mem hline] at hecho
    cases hecho
  | echo text token echoes outdated =>
    rw [lines, List.mem_singleton] at hline
    subst hline
    -- the token would be both the next one and one that has been taken
    have htoken := congrArg SyncToken.number (eq_of_isReply hreply echoes)
    simp only at htoken
    omega

theorem not_arrived_of_mem {leftovers : List (Leftover taken)} {line : String}
    (h : line ∈ leftovers.flatMap lines) : (Awaited.echo ⟨taken + 1⟩).sight line ≠ .arrived := by
  rw [Ne, Awaited.sight_echo_eq_arrived_iff, isReply_of_mem h]
  exact Bool.noConfusion

/-- A reader that waits for an echo keeps the blocks among leftovers. -/
theorem filter_lines (leftovers : List (Leftover taken)) (token : SyncToken) :
    (leftovers.flatMap lines).filter ((Awaited.echo token).sight · = .ordinary) =
      leftovers.flatMap kept := by
  rw [Awaited.filter_ordinary]
  induction leftovers with
  | nil => rfl
  | cons leftover rest ih =>
    rw [List.flatMap_cons, List.flatMap_cons, List.filter_append, ih]
    congr 1
    cases leftover with
    | block whole =>
      refine List.filter_eq_self.mpr fun line hline => ?_
      rw [WholeBlock.isEcho_of_mem hline, Bool.not_false]
    | echo line other echoes outdated => simp [lines, kept, isEcho_of_isReply echoes]

/-- The splitter takes the lines that are kept of leftovers for their blocks, and for nothing
else. -/
theorem pushAll_kept (leftovers : List (Leftover taken)) (stopped : Bool) (back : List String) :
    Splitter.pushAll { stopObserved := stopped } (leftovers.flatMap kept ++ back) =
      ((Splitter.pushAll { stopObserved := stopped } back).1,
        leftovers.flatMap blocks ++ (Splitter.pushAll { stopObserved := stopped } back).2) := by
  induction leftovers with
  | nil => rfl
  | cons leftover rest ih =>
    rw [List.flatMap_cons, List.append_assoc]
    cases leftover with
    | block whole =>
      rw [Splitter.pushAll_append, kept, Splitter.pushAll_wholeBlock]
      simp only [ih]
      rfl
    | echo => exact ih

/-- A reply behind leftovers has their blocks in front of its own, and shows a stop if it does so
on its own. -/
theorem splitReply_kept (leftovers : List (Leftover taken)) (back : List String) :
    splitReply (leftovers.flatMap kept ++ back) = {
      lines := leftovers.flatMap kept ++ back
      blocks := leftovers.flatMap blocks ++ (splitReply back).blocks
      stopObserved := (splitReply back).stopObserved } := by
  have hpush := pushAll_kept leftovers false back
  unfold splitReply
  simp only [hpush, List.append_assoc]

end Leftover

namespace Channel

variable {σ : Type}

/-! ## Channels with leftovers -/

/-- The channel in which lines come before what is queued. -/
def behind (channel : Channel σ) (lines : List String) : Channel σ :=
  { channel with queue := lines.map .line ++ channel.queue }

section

variable [Peer σ]

/-- What is queued makes no difference to sending. -/
theorem send_behind (channel : Channel σ) (front : List String) (line : String) :
    (channel.behind front).send line =
      ((channel.send line).1, (channel.send line).2.behind front) := by
  unfold send behind
  cases hclosed : channel.closed with
  | true => simp [hclosed]
  | false =>
    rcases hreact : Peer.receive channel.peer line with ⟨_ | _, _⟩ <;> simp

theorem sendAll_behind (channel : Channel σ) (front lines : List String) :
    (channel.behind front).sendAll lines =
      ((channel.sendAll lines).1, (channel.sendAll lines).2.behind front) := by
  induction lines generalizing channel with
  | nil => rfl
  | cons line rest ih =>
    rw [sendAll, sendAll, send_behind]
    rcases channel.send line with ⟨_ | _, after⟩
    · rfl
    · exact ih after

end

variable {taken : Nat} {limit : Duration}

/-- A reader that has time finds behind leftovers what it finds without them, behind what it keeps
of them. -/
theorem await_behind (channel : Channel σ) (leftovers : List (Leftover taken))
    (htime : limit.nanoseconds ≠ 0) :
    (channel.behind (leftovers.flatMap Leftover.lines)).await (.echo ⟨taken + 1⟩) limit =
      ((channel.await (.echo ⟨taken + 1⟩) limit).1.map (leftovers.flatMap Leftover.kept ++ ·),
        (channel.await (.echo ⟨taken + 1⟩) limit).2) := by
  unfold await behind
  rw [awaitItems_lines_append htime fun _ => Leftover.not_arrived_of_mem, Leftover.filter_lines]

/-- Whether what is queued first neither is the awaited line nor makes a reader fail. -/
def FirstIsPassed (awaited : Awaited) (queue : List Item) : Prop :=
  (∀ text, queue.head? ≠ some (.fault text)) ∧
    ∀ line, queue.head? = some (.line line) → awaited.sight line ≠ .arrived

/-- A reader without time waits in vain if what is queued first is not what it waits for. -/
theorem awaitItems_of_no_time {awaited : Awaited} {queue : List Item}
    (hnone : limit.nanoseconds = 0) (hfirst : FirstIsPassed awaited queue) :
    (awaitItems awaited limit queue).1 = .error (waitedInVain awaited limit) := by
  cases queue with
  | nil => rfl
  | cons item rest =>
    cases item with
    | fault text => exact absurd rfl (hfirst.1 text)
    | nothing => rw [awaitItems_nothing, if_pos hnone]
    | line text => rw [awaitItems_other (hfirst.2 text rfl), if_pos hnone]

/-- Leftovers in front of a queue are passed by whoever waits for the next echo. -/
theorem firstIsPassed_append (leftovers : List (Leftover taken)) {queue : List Item}
    (hfirst : FirstIsPassed (.echo ⟨taken + 1⟩) queue) :
    FirstIsPassed (.echo ⟨taken + 1⟩) ((leftovers.flatMap Leftover.lines).map .line ++ queue) := by
  rcases hlines : leftovers.flatMap Leftover.lines with _ | ⟨first, rest⟩
  · exact hfirst
  · refine ⟨fun text => by simp, fun line hline => ?_⟩
    have hmem : line ∈ leftovers.flatMap Leftover.lines := by
      rw [hlines]
      simp only [List.map_cons, List.cons_append, List.head?_cons, Option.some.injEq,
        Item.line.injEq] at hline
      exact hline ▸ List.mem_cons_self
    exact Leftover.not_arrived_of_mem hmem

variable [Peer σ] {channel after : Channel σ} {requests : List String}

/-- A conversation that succeeds succeeds behind leftovers, and keeps their blocks. -/
theorem converse_behind_of_ok {lines : List String} (leftovers : List (Leftover taken))
    (htime : limit.nanoseconds ≠ 0)
    (h : channel.converse requests (.echo ⟨taken + 1⟩) limit = (.ok lines, after)) :
    (channel.behind (leftovers.flatMap Leftover.lines)).converse requests (.echo ⟨taken + 1⟩)
      limit = (.ok (leftovers.flatMap Leftover.kept ++ lines), after) := by
  unfold converse at h ⊢
  rw [sendAll_behind]
  rcases hsend : channel.sendAll requests with ⟨_ | _, sent⟩
  · simp [hsend] at h
  · simp only [hsend] at h ⊢
    rw [await_behind sent leftovers htime, h]
    rfl

/-- A conversation that fails fails behind leftovers, and for the same reason. -/
theorem converse_behind_of_error {cause : Error} (leftovers : List (Leftover taken))
    (htime : limit.nanoseconds ≠ 0)
    (h : channel.converse requests (.echo ⟨taken + 1⟩) limit = (.error cause, after)) :
    ∃ other, (channel.behind (leftovers.flatMap Leftover.lines)).converse requests
      (.echo ⟨taken + 1⟩) limit = (.error cause, other) := by
  unfold converse at h ⊢
  rw [sendAll_behind]
  rcases hsend : channel.sendAll requests with ⟨_ | _, sent⟩
  · simp only [hsend, Prod.mk.injEq, Except.error.injEq] at h ⊢
    exact ⟨_, h.1, rfl⟩
  · simp only [hsend] at h ⊢
    rw [await_behind sent leftovers htime, h]
    exact ⟨after, rfl⟩

/-- A conversation without time fails with leftovers and without them, and for the same reason. -/
theorem converse_behind_of_no_time (leftovers : List (Leftover taken))
    (hnone : limit.nanoseconds = 0)
    (hfirst : FirstIsPassed (.echo ⟨taken + 1⟩) (channel.sendAll requests).2.queue) :
    ∃ cause, (channel.converse requests (.echo ⟨taken + 1⟩) limit).1 = .error cause ∧
      ((channel.behind (leftovers.flatMap Leftover.lines)).converse requests (.echo ⟨taken + 1⟩)
        limit).1 = .error cause := by
  unfold converse
  rw [sendAll_behind]
  rcases hsend : channel.sendAll requests with ⟨cause | _, sent⟩
  · exact ⟨cause, rfl, rfl⟩
  · rw [hsend] at hfirst
    refine ⟨waitedInVain (.echo ⟨taken + 1⟩) limit, ?_, ?_⟩
    · exact awaitItems_of_no_time hnone hfirst
    · exact awaitItems_of_no_time hnone (firstIsPassed_append leftovers hfirst)

end Channel

end RemoteDebug
