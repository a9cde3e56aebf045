import Mathlib.Data.List.Basic
import RemoteDebug.Proofs.Interleaving.Sights

/-!
# What a session says to the target

Each step of a session that sends lines is a conversation: it sends the first of its lines or all of
them, and may take a reply. Nothing else along a run sends anything (`sentAlong_eq`). A conversation
that has a reply has sent all of its lines (`Moment.sent_of_conversation`) and, if it asked for the
echo of a token, has read that echo last (`Moment.taken_of_conversation`).
-/

namespace RemoteDebug

open RemoteDebug.Wire Dialogue

variable {α σ : Type}

/-! ## Conversations -/

/-- A step that sends: the lines to send, what is awaited behind them if anything is, the lines that
were sent, and the reply. -/
structure Conversation where
  lines : List String
  awaited : Option Awaited := none
  sent : List String
  reply : Except Error (List String)

namespace Conversation

/-- The token whose echo ends a conversation. -/
def token? (talk : Conversation) : Option SyncToken :=
  match talk.awaited with
  | some (.echo token) => some token
  | _ => none

/-- The conversation that asks for the replies to some requests and for the echo of a token. -/
def asking (requests : List Request) (token : SyncToken) (sent : List String)
    (reply : Except Error (List String)) : Conversation where
  lines := (requests ++ [Request.sync token]).map Request.line
  awaited := some (.echo token)
  sent
  reply

end Conversation

namespace Channel

variable [Peer σ]

/-- A send sends its line if it succeeds, and else nothing. -/
theorem sent_of_send (channel : Channel σ) (line : String) :
    ∃ sent, (channel.send line).2.sent = channel.sent ++ sent ∧ sent <+: [line] ∧
      ((channel.send line).1.isOk = true → sent = [line]) := by
  unfold send
  split
  · exact ⟨[], (List.append_nil _).symm, List.nil_prefix, nofun⟩
  · split
    · exact ⟨[], (List.append_nil _).symm, List.nil_prefix, nofun⟩
    · exact ⟨[line], rfl, List.prefix_rfl, fun _ => rfl⟩

/-- Of lines to be sent the first ones are, and all of them if that succeeds. -/
theorem sent_of_sendAll (channel : Channel σ) (lines : List String) :
    ∃ sent, (channel.sendAll lines).2.sent = channel.sent ++ sent ∧ sent <+: lines ∧
      ((channel.sendAll lines).1.isOk = true → sent = lines) := by
  induction lines generalizing channel with
  | nil => exact ⟨[], (List.append_nil _).symm, List.prefix_rfl, fun _ => rfl⟩
  | cons line rest ih =>
    have hsend := channel.sent_of_send line
    rw [sendAll]
    generalize channel.send line = outcome at hsend ⊢
    obtain ⟨sent, hsent, hpart, hall⟩ := hsend
    rcases outcome with ⟨cause | _, after⟩
    · exact ⟨sent, hsent, hpart.trans ⟨rest, rfl⟩, fun hok => by cases hok⟩
    · obtain ⟨more, hmore, hrest, hothers⟩ := ih after
      have hsentline : after.sent = channel.sent ++ [line] := by rw [← hall rfl]; exact hsent
      refine ⟨line :: more, hmore.trans ?_, (List.prefix_cons_inj line).mpr hrest, fun hok => ?_⟩
      · rw [hsentline, List.append_assoc]
        rfl
      · exact congrArg (line :: ·) (hothers hok)

/-- Reading sends nothing. -/
theorem sent_of_converse (channel : Channel σ) (lines : List String) (awaited : Awaited)
    (limit : Duration) :
    (channel.converse lines awaited limit).2.sent = (channel.sendAll lines).2.sent := by
  unfold converse
  rcases channel.sendAll lines with ⟨cause | _, after⟩ <;> rfl

/-- Who has a reply has sent its lines. -/
theorem isOk_sendAll_of_converse {channel : Channel σ} {lines : List String} {awaited : Awaited}
    {limit : Duration} (h : (channel.converse lines awaited limit).1.isOk = true) :
    (channel.sendAll lines).1.isOk = true := by
  unfold converse at h
  rcases hsend : channel.sendAll lines with ⟨cause | _, after⟩
  · rw [hsend] at h
    cases h
  · rfl

end Channel

/-- The conversation that the next step is, if it sends. -/
def Dialogue.conversation? [Peer σ] : Dialogue α → World σ → Option Conversation
  | send lines _, world =>
    let (outcome, after) := world.channel.sendAll lines
    some {
      lines
      sent := after.sent.drop world.channel.sent.length
      reply := outcome.map fun _ => [] }
  | converse lines awaited limit _, world =>
    let (outcome, after) := world.channel.converse lines awaited limit
    some {
      lines
      awaited := some awaited
      sent := after.sent.drop world.channel.sent.length
      reply := outcome }
  | _, _ => none

namespace Moment

variable [Peer σ]

/-- The conversation at a moment. -/
def conversation? (moment : Moment σ) : Option Conversation :=
  match moment.turn, moment.before.task with
  | .proceed _, some task => task.rest.conversation? moment.before.world
  | _, _ => none

/-- The token whose echo is asked for at a moment. -/
def token? (moment : Moment σ) : Option SyncToken :=
  moment.conversation?.bind Conversation.token?

/-- The lines that are sent at a moment. -/
def sent (moment : Moment σ) : List String :=
  moment.after.world.channel.sent.drop moment.before.world.channel.sent.length

end Moment

/-- The lines that are sent along some moments. -/
def sentAlong [Peer σ] (moments : List (Moment σ)) : List String :=
  moments.flatMap Moment.sent

/-! ## What is sent -/

section

variable [Peer σ]

/-- A step sends what its conversation says, and a step that is none sends nothing. -/
theorem Dialogue.sent_advance (dialogue : Dialogue α) (world : World σ) :
    (dialogue.advance world).2.channel.sent =
      world.channel.sent ++ (dialogue.conversation? world).elim [] Conversation.sent := by
  cases dialogue with
  | send lines next =>
    obtain ⟨sent, hsent, -⟩ := world.channel.sent_of_sendAll lines
    show (world.channel.sendAll lines).2.sent =
      _ ++ (world.channel.sendAll lines).2.sent.drop world.channel.sent.length
    rw [hsent, List.drop_left]
  | converse lines awaited limit next =>
    obtain ⟨sent, hsent, -⟩ := world.channel.sent_of_sendAll lines
    show (world.channel.converse lines awaited limit).2.sent =
      _ ++ (world.channel.converse lines awaited limit).2.sent.drop world.channel.sent.length
    rw [Channel.sent_of_converse, hsent, List.drop_left]
  | beginWatch next =>
    show world.beginWatch.2.channel.sent = world.channel.sent ++ []
    unfold World.beginWatch
    split <;> exact (List.append_nil _).symm
  | _ => exact (List.append_nil _).symm

/-- Of the lines of a conversation the first ones are sent, and all of them if it has a reply. -/
theorem Dialogue.sent_of_conversation {dialogue : Dialogue α} {world : World σ}
    {talk : Conversation} (h : dialogue.conversation? world = some talk) :
    talk.sent <+: talk.lines ∧ (talk.reply.isOk = true → talk.sent = talk.lines) := by
  cases dialogue with
  | send lines next =>
    obtain ⟨sent, hsent, hpart, hall⟩ := world.channel.sent_of_sendAll lines
    obtain rfl := Option.some.inj h
    show (world.channel.sendAll lines).2.sent.drop _ <+: lines ∧
      (_ → (world.channel.sendAll lines).2.sent.drop _ = lines)
    rw [hsent, List.drop_left]
    refine ⟨hpart, fun hok => hall ?_⟩
    rcases hresult : (world.channel.sendAll lines).1 with cause | _
    · rw [hresult] at hok
      cases hok
    · rfl
  | converse lines awaited limit next =>
    obtain ⟨sent, hsent, hpart, hall⟩ := world.channel.sent_of_sendAll lines
    obtain rfl := Option.some.inj h
    show (world.channel.converse lines awaited limit).2.sent.drop _ <+: lines ∧
      (_ → (world.channel.converse lines awaited limit).2.sent.drop _ = lines)
    rw [Channel.sent_of_converse, hsent, List.drop_left]
    exact ⟨hpart, fun hok => hall (Channel.isOk_sendAll_of_converse hok)⟩
  | _ => cases h

/-- A conversation that has its reply has read the echo that it awaited. -/
theorem Dialogue.taken_of_conversation {dialogue : Dialogue α} {world : World σ}
    {talk : Conversation} {token : SyncToken} {reply : List String}
    (h : dialogue.conversation? world = some talk) (htoken : talk.token? = some token)
    (hreply : talk.reply = .ok reply) :
    ∃ items echo, dialogue.taken world = items ++ [.line echo] ∧ token.isReply echo = true := by
  cases dialogue with
  | converse lines awaited limit next =>
    obtain rfl := Option.some.inj h
    cases awaited with
    | stop => cases htoken
    | echo awaitedToken =>
      obtain rfl := Option.some.inj htoken
      obtain ⟨items, echo, htaken, hecho, -⟩ := Channel.converse_of_ok (Prod.ext hreply rfl)
      exact ⟨items, echo, htaken, (Awaited.sight_echo_eq_arrived_iff awaitedToken echo).mp hecho⟩
  | send lines next =>
    obtain rfl := Option.some.inj h
    cases htoken
  | _ => cases h

theorem Dialogue.tokensTaken_le_advance (dialogue : Dialogue α) (world : World σ) :
    world.tokensTaken ≤ (dialogue.advance world).2.tokensTaken := by
  cases dialogue with
  | takeToken next => exact Nat.le_succ _
  | beginWatch next =>
    show world.tokensTaken ≤ world.beginWatch.2.tokensTaken
    unfold World.beginWatch
    split <;> exact Nat.le_refl _
  | _ => exact Nat.le_refl _

omit [Peer σ] in
/-- A watcher neither sends nor takes a token. -/
theorem WatchStage.step_silent (stage : WatchStage) (world : World σ) :
    (stage.step world).2.channel.sent = world.channel.sent ∧
      (stage.step world).2.tokensTaken = world.tokensTaken := by
  cases stage <;> exact ⟨rfl, rfl⟩

end

namespace Scene

variable [Peer σ]

theorem carryOn_world (scene : Scene σ) (task : Task) (spawns : Bool) :
    (scene.carryOn task spawns).world.channel = (task.rest.advance scene.world).2.channel ∧
      (scene.carryOn task spawns).world.tokensTaken =
        (task.rest.advance scene.world).2.tokensTaken := by
  unfold carryOn
  dsimp only
  split <;> exact ⟨rfl, rfl⟩

end Scene

namespace Moment

variable [Peer σ]

/-- What is sent at a moment is what is said there, and no token is given back. -/
theorem sent_after (moment : Moment σ) :
    moment.after.world.channel.sent =
        moment.before.world.channel.sent ++ moment.conversation?.elim [] Conversation.sent ∧
      moment.before.world.tokensTaken ≤ moment.after.world.tokensTaken := by
  obtain ⟨before, turn⟩ := moment
  show (before.after turn).world.channel.sent = _ ∧ _ ≤ (before.after turn).world.tokensTaken
  have hturn := before.turnsInto_after turn
  generalize before.after turn = next at hturn ⊢
  cases hturn with
  | idle spawns hidle =>
    unfold conversation?
    rw [hidle]
    exact ⟨(List.append_nil _).symm, Nat.le_refl _⟩
  | ends spawns htask hdone =>
    unfold conversation?
    rw [htask]
    dsimp only
    rw [hdone]
    exact ⟨(List.append_nil _).symm, Nat.le_refl _⟩
  | @goesOn task spawns htask =>
    obtain ⟨hchannel, htaken⟩ := before.carryOn_world task spawns
    unfold conversation?
    rw [htask, hchannel, htaken]
    exact ⟨task.rest.sent_advance before.world, task.rest.tokensTaken_le_advance before.world⟩
  | @watches stage index hstage =>
    obtain ⟨hsent, htaken⟩ := stage.step_silent before.world
    exact ⟨hsent.trans (List.append_nil _).symm, Nat.le_of_eq htaken.symm⟩
  | _ => exact ⟨(List.append_nil _).symm, Nat.le_refl _⟩

theorem sent_eq (moment : Moment σ) :
    moment.sent = moment.conversation?.elim [] Conversation.sent := by
  rw [sent, moment.sent_after.1, List.drop_left]

theorem exists_task_of_conversation {moment : Moment σ} {talk : Conversation}
    (h : moment.conversation? = some talk) :
    ∃ spawns task, moment.turn = .proceed spawns ∧ moment.before.task = some task ∧
      task.rest.conversation? moment.before.world = some talk := by
  obtain ⟨before, turn⟩ := moment
  cases turn with
  | proceed spawns =>
    unfold conversation? at h
    cases htask : before.task with
    | none =>
      rw [htask] at h
      cases h
    | some task =>
      rw [htask] at h
      exact ⟨spawns, task, rfl, rfl, h⟩
  | begin action => cases h
  | watch index => cases h
  | arrive items closes => cases h

/-- At a moment with a conversation the first of its lines are sent, and all of them if it has a
reply. -/
theorem sent_of_conversation {moment : Moment σ} {talk : Conversation}
    (h : moment.conversation? = some talk) :
    moment.sent = talk.sent ∧ talk.sent <+: talk.lines ∧
      (talk.reply.isOk = true → talk.sent = talk.lines) := by
  obtain ⟨_, task, -, -, htalk⟩ := exists_task_of_conversation h
  refine ⟨?_, Dialogue.sent_of_conversation htalk⟩
  rw [moment.sent_eq, h]
  rfl

/-- Behind a conversation that has its reply, the last item taken is the echo that it awaited. -/
theorem taken_of_conversation {moment : Moment σ} {talk : Conversation} {token : SyncToken}
    {reply : List String} (h : moment.conversation? = some talk)
    (htoken : talk.token? = some token) (hreply : talk.reply = .ok reply) :
    ∃ items echo, moment.taken = items ++ [.line echo] ∧ token.isReply echo = true := by
  obtain ⟨_, task, hturn, htask, htalk⟩ := exists_task_of_conversation h
  obtain ⟨items, echo, htaken, hecho⟩ := Dialogue.taken_of_conversation htalk htoken hreply
  refine ⟨items, echo, ?_, hecho⟩
  unfold taken
  rw [hturn, htask]
  exact htaken

theorem conversations_cons (moment : Moment σ) (rest : List (Moment σ)) :
    (moment :: rest).filterMap conversation? =
      moment.conversation?.toList ++ rest.filterMap conversation? := by
  rw [List.filterMap_eq_flatMap_toList, List.flatMap_cons, ← List.filterMap_eq_flatMap_toList]

end Moment

/-- What is sent along a run is what is said there. -/
theorem sentAlong_eq [Peer σ] (moments : List (Moment σ)) :
    sentAlong moments = (moments.filterMap Moment.conversation?).flatMap Conversation.sent := by
  induction moments with
  | nil => rfl
  | cons moment rest ih =>
    rw [sentAlong] at ih ⊢
    rw [List.flatMap_cons, ih, moment.sent_eq, Moment.conversations_cons, List.flatMap_append]
    cases moment.conversation? <;> simp

end RemoteDebug
