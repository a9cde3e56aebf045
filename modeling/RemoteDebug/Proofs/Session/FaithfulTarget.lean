import RemoteDebug.Proofs.Channel.Taking
import RemoteDebug.Proofs.Decode.InstructionLines
import RemoteDebug.Proofs.Decode.MemoryPayloads
import RemoteDebug.Proofs.Decode.RegisterTokens
import RemoteDebug.Proofs.Session.Exchange
import RemoteDebug.Proofs.Wire.Frames

/-!
# Faithful targets

A target is faithful to what it holds if it answers every question about it with a block that tells
it, and echoes every token (`Held.Faithful`). Nothing else is asked of it: fillers may stand around
each reply, each reply may come in as many pieces as it likes, and the target may be in any of its
states. An exchange with such a target succeeds and brings one block for each question, in order
(`exchange_of_faithful`), and leaves the channel ready for the next one.
-/

namespace RemoteDebug

open RemoteDebug.Wire RemoteDebug.Decode

/-! ## What a target holds -/

/-- What a target holds: its program counter, the registers that it tells, the bytes of its memory
and the instructions in each range, which has a first address and a width. -/
structure Held where
  counter : Nat
  registers : Snapshot
  memory : Nat → UInt8
  instructions : Nat → Nat → List Instruction
  counter_le : counter ≤ maxAddress
  registers_some : ∃ register value, registers.value register = some value
  registers_le : ∀ register value, registers.value register = some value →
    value ≤ register.maxValue
  instructions_writable : ∀ first width, ∀ told ∈ instructions first width, told.IsWritable

namespace Held

/-- The bytes in a window. -/
def dump (held : Held) (window : Window) : MemoryDump where
  start := window.first
  bytes := (List.range window.width).map fun offset => held.memory (window.first + offset)

/-- The instructions in a window. -/
def listing (held : Held) (window : Window) : Listing where
  address := window.first
  instructions := held.instructions window.first window.width

/-- The registers, compared with those of a snapshot. -/
def report (held : Held) (previous : Option Snapshot) : RegisterReport where
  registers := held.registers
  changed := changedSince? held.registers previous
  flags := held.registers.statusFlags

/-- Whether a block tells what a request asks for. -/
def Writes (held : Held) : Request → Block → Prop
  | .status, block => WritesStatus block held.counter
  | .registers, block => WritesRegisters block held.registers
  | .memory window, block => WritesMemory block (held.dump window)
  | .disassembly window, block => WritesListing block (held.listing window)
  | _, _ => False

/-- Whether lines echo a token, with fillers around the echo or none. -/
def Echoes (token : SyncToken) (lines : List String) : Prop :=
  ∃ front echo behind, lines = front ++ echo :: behind ∧ IsFiller front ∧
    token.isReply echo = true ∧ IsFiller behind

/-- Whether lines answer a request. -/
def Answers (held : Held) : Request → List String → Prop
  | .sync token, lines => Echoes token lines
  | request, lines => ∃ block, RepliesWith lines block ∧ held.Writes request block

end Held

/-- The kind of the block that answers a request, if there is one: other requests are not questions
about what a target holds. -/
def Wire.Request.replyKind? : Request → Option BlockKind
  | .status => some .status
  | .registers => some .registers
  | .memory _ => some .memory
  | .disassembly _ => some .disassembly
  | _ => none

/-- Whether a target takes a request and answers it, from whichever of some states and into one of
them. -/
def Held.IsAnsweredIn {σ : Type} [Peer σ] (held : Held) (states : σ → Prop) (request : Request) :
    Prop :=
  ∀ peer, states peer → ∃ items after, Peer.receive peer request.line =
      (.answered items false, after) ∧
    Channel.IsReadable items ∧ held.Answers request (linesOf items) ∧ states after

/-- Whether a target is faithful to what it holds, as long as it is in some states. -/
structure Held.Faithful {σ : Type} [Peer σ] (held : Held) (states : σ → Prop) : Prop where
  questions : ∀ request, request.replyKind?.isSome = true → held.IsAnsweredIn states request
  echoes : ∀ token, held.IsAnsweredIn states (.sync token)

/-! ## Blocks that tell what is held -/

namespace Held

theorem replyKind?_of_writes {held : Held} {request : Request} {block : Block}
    (h : held.Writes request block) : request.replyKind? = some block.kind := by
  cases request with
  | status =>
    obtain ⟨⟨_, htag⟩, -⟩ := h
    rw [kind_of_hasTag htag]
    rfl
  | registers =>
    obtain ⟨_, _, htag, -⟩ := h
    rw [kind_of_hasTag htag]
    rfl
  | memory window =>
    obtain ⟨_, _, _, htag, -⟩ := h
    rw [kind_of_hasTag htag]
    rfl
  | disassembly window =>
    obtain ⟨_, _, htag, -⟩ := h
    rw [kind_of_hasTag htag]
    rfl
  | _ => exact h.elim

theorem isKnown_of_replyKind? {request : Request} {kind : BlockKind}
    (h : request.replyKind? = some kind) : kind.isKnown = true := by
  cases request <;> cases h <;> rfl

theorem tells_of_answers {held : Held} {request : Request} {lines : List String}
    (hquestion : request.replyKind?.isSome = true) (h : held.Answers request lines) :
    ∃ block, Tells lines [block] ∧ held.Writes request block := by
  have hblock : ∃ block, RepliesWith lines block ∧ held.Writes request block := by
    cases request with
    | sync token => cases hquestion
    | _ => exact h
  obtain ⟨block, hreply, hwrites⟩ := hblock
  have hknown := isKnown_of_replyKind? (replyKind?_of_writes hwrites)
  exact ⟨block, tells_of_repliesWith hreply hknown, hwrites⟩

end Held

/-! ## Exchanges -/

variable {σ : Type} {states : σ → Prop}

/-- Whether a channel is open to a target in one of some states, and these are the lines that are
queued for the reader, who can read them all. -/
structure Channel.Holds (states : σ → Prop) (channel : Channel σ) (lines : List String) : Prop where
  isOpen : channel.closed = false
  peer : states channel.peer
  readable : IsReadable channel.queue
  lines : linesOf channel.queue = lines

/-- Whether a channel is ready for an exchange: open, with nothing but a filler queued. -/
def Channel.IsReady (states : σ → Prop) (channel : Channel σ) : Prop :=
  ∃ lines, channel.Holds states lines ∧ IsFiller lines

variable [Peer σ] {held : Held}

namespace Held

/-- A request that is answered is sent, and the answer stands behind what was queued. -/
theorem send_of_answered {request : Request} (h : held.IsAnsweredIn states request)
    {channel : Channel σ} {queued : List String} (hholds : channel.Holds states queued) :
    ∃ answer after, channel.send request.line = (.ok (), after) ∧ held.Answers request answer ∧
      after.Holds states (queued ++ answer) := by
  obtain ⟨items, peer, hreceive, hreadable, hanswers, hafter⟩ := h channel.peer hholds.peer
  have hsend : channel.send request.line = (.ok (), {
      queue := channel.queue ++ items
      sent := channel.sent ++ [request.line]
      peer := peer }) := by
    unfold Channel.send
    rw [hholds.isOpen, hreceive]
    rfl
  refine ⟨linesOf items, _, hsend, hanswers, rfl, hafter, fun text hmem => ?_, ?_⟩
  · exact (List.mem_append.mp hmem).elim (hholds.readable text) (hreadable text)
  · rw [linesOf_append, hholds.lines]

/-- Questions are sent, and the answers tell one block for each of them. -/
theorem sendAll_of_faithful (h : held.Faithful states) {requests : List Request}
    (hquestions : ∀ request ∈ requests, request.replyKind?.isSome = true) {channel : Channel σ}
    {queued : List String} (hholds : channel.Holds states queued) :
    ∃ answers told after, channel.sendAll (requests.map Request.line) = (.ok (), after) ∧
      Tells answers told ∧ List.Forall₂ held.Writes requests told ∧
      after.Holds states (queued ++ answers) := by
  induction requests generalizing channel queued with
  | nil =>
    refine ⟨[], [], channel, rfl, tells_nil, .nil, ?_⟩
    rw [List.append_nil]
    exact hholds
  | cons request rest ih =>
    obtain ⟨hfirst, hrest⟩ := List.forall_mem_cons.mp hquestions
    obtain ⟨answer, mid, hsend, hanswer, hmid⟩ :=
      send_of_answered (h.questions request hfirst) hholds
    obtain ⟨block, htells, hwrites⟩ := tells_of_answers hfirst hanswer
    obtain ⟨answers, told, after, hsendrest, htellsrest, hwritesrest, hafter⟩ := ih hrest hmid
    refine ⟨answer ++ answers, block :: told, after, ?_, tells_append htells htellsrest,
      .cons hwrites hwritesrest, ?_⟩
    · rw [List.map_cons, Channel.sendAll, hsend]
      exact hsendrest
    · rw [← List.append_assoc]
      exact hafter

end Held

theorem Channel.sendAll_append_of_ok {channel after : Channel σ} {front : List String}
    (h : channel.sendAll front = (.ok (), after)) (back : List String) :
    channel.sendAll (front ++ back) = after.sendAll back := by
  induction front generalizing channel with
  | nil =>
    cases h
    rfl
  | cons line rest ih =>
    rw [List.cons_append, sendAll]
    rw [sendAll] at h
    rcases hsend : channel.send line with ⟨_ | _, mid⟩
    · simp [hsend] at h
    · simp only [hsend] at h ⊢
      exact ih h

/-- A reader that waits for an echo keeps lines that tell something, since no echo is among them. -/
theorem sight_of_tells {lines : List String} {blocks : List Block} (h : Tells lines blocks)
    (token : SyncToken) :
    (∀ line ∈ lines, (Awaited.echo token).sight line ≠ .arrived) ∧
      lines.filter ((Awaited.echo token).sight · = .ordinary) = lines := by
  have hordinary : ∀ line ∈ lines, (Awaited.echo token).sight line = .ordinary :=
    fun line hline => (Awaited.sight_eq_ordinary_iff token line).mpr (h.1 line hline)
  refine ⟨fun line hline harrived => ?_, List.filter_eq_self.mpr fun line hline => ?_⟩
  · rw [hordinary line hline] at harrived
    cases harrived
  · exact decide_eq_true (hordinary line hline)

/-- An exchange of questions with a faithful target brings one block for each of them and nothing
else that is of a known kind; behind it the channel is ready again. -/
theorem exchange_of_faithful (h : held.Faithful states) {requests : List Request}
    (hquestions : ∀ request ∈ requests, request.replyKind?.isSome = true) {world : World σ}
    (hready : world.channel.IsReady states) {limit : Duration} (htime : limit.nanoseconds ≠ 0) :
    ∃ reply world', world.exchange limit requests = (.ok reply, world') ∧
      List.Forall₂ held.Writes requests (reply.blocks.filter (·.kind.isKnown)) ∧
      world'.channel.IsReady states := by
  obtain ⟨queued, hholds, hfiller⟩ := hready
  obtain ⟨answers, told, mid, hsend, htells, hwrites, hmid⟩ :=
    Held.sendAll_of_faithful h hquestions hholds
  obtain ⟨answer, after, hsendecho, ⟨front, echo, behind, rfl, hfront, hecho, hbehind⟩, hafter⟩ :=
    Held.send_of_answered (h.echoes world.nextToken) hmid
  have hsent : world.channel.sendAll (world.exchangeLines requests) = (.ok (), after) := by
    unfold World.exchangeLines
    rw [List.map_append, Channel.sendAll_append_of_ok hsend, List.map_singleton, Channel.sendAll,
      hsendecho]
    rfl
  -- what stands before the echo: what was queued, the answers, and the filler before the echo
  have hbefore : Tells (queued ++ answers ++ front) told := by
    have hall := tells_append (tells_append (tells_filler hfiller) htells) (tells_filler hfront)
    rwa [List.nil_append, List.append_nil] at hall
  obtain ⟨hpassed, hkept⟩ := sight_of_tells hbefore world.nextToken
  have hlines : linesOf after.queue = queued ++ answers ++ front ++ echo :: behind := by
    rw [hafter.lines, ← List.append_assoc]
  obtain ⟨left, hawait, hleft, hreadable⟩ := Channel.awaitItems_of_linesOf htime hafter.readable
    hlines hpassed ((Awaited.sight_echo_eq_arrived_iff _ _).mpr hecho)
  have hread : world.channel.converse (world.exchangeLines requests) (.echo world.nextToken) limit =
      (.ok (queued ++ answers ++ front), { after with queue := left }) := by
    unfold Channel.converse
    rw [hsent]
    simp only [Channel.await, hawait, hkept]
  refine ⟨_, _, World.exchange_of_ok hread, ?_, behind, ?_, hbehind⟩
  · rw [splitReply_of_tells hbefore]
    exact hwrites
  · rw [World.noticeStop_channel]
    exact ⟨hafter.isOpen, hafter.peer, hreadable, hleft⟩

end RemoteDebug
