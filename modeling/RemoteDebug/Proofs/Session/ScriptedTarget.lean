import RemoteDebug.Proofs.Channel.Taking
import RemoteDebug.Proofs.Session.Exchange
import RemoteDebug.Proofs.Session.Planning
import RemoteDebug.Proofs.Wire.LineKinds

/-!
# A target that answers by a script

A scripted target answers one line after the other with what it was told to, whatever the lines are.
It makes runs that are needed to tell two behaviours apart: `World.obliging` is a world in which a
refresh gets the status reply of one's choice, and both echoes.
-/

namespace RemoteDebug

open RemoteDebug.Wire

/-- A peer that answers one line after the other with what it was told to, and then no more. -/
structure Script where
  replies : List (List Item)

instance : Peer Script where
  receive script _ :=
    match script.replies with
    | [] => (.answered [] false, script)
    | items :: later => (.answered items false, { replies := later })

/-- An open channel to a scripted target. -/
def Script.channel (queue : List Item) (sent : List String) (replies : List (List Item)) :
    Channel Script where
  queue := queue
  sent := sent
  peer := { replies := replies }

/-- Lines are answered by as many replies of the script. -/
theorem Script.sendAll_channel {queue : List Item} {sent lines : List String}
    {replies later : List (List Item)} (hlength : lines.length = replies.length) :
    (channel queue sent (replies ++ later)).sendAll lines =
      (.ok (), channel (queue ++ replies.flatten) (sent ++ lines) later) := by
  induction replies generalizing queue sent lines with
  | nil =>
    obtain rfl := List.eq_nil_of_length_eq_zero hlength
    simp [Channel.sendAll]
  | cons items replies ih =>
    cases lines with
    | nil => cases hlength
    | cons line rest =>
      have hsend : (channel queue sent (items :: replies ++ later)).send line =
          (.ok (), channel (queue ++ items) (sent ++ [line]) (replies ++ later)) := rfl
      rw [Channel.sendAll, hsend]
      simp only [ih (Nat.succ.inj hlength), List.flatten_cons, List.append_assoc,
        List.singleton_append]

namespace World

/-- Whether nothing is queued and the target is going to give some replies. -/
def Scripted (world : World Script) (replies : List (List Item)) : Prop :=
  ∃ sent, world.channel = Script.channel [] sent replies

/-- An exchange that has time succeeds if the replies to its lines are the reply and the echo. -/
theorem exchange_of_scripted {world : World Script} {replies later : List (List Item)}
    {requests : List Request} {lines : List String} {limit : Duration}
    (h : world.Scripted (replies ++ later)) (hlength : requests.length + 1 = replies.length)
    (hreplies : replies.flatten = lines.map .line ++ [.line world.nextToken.replyLine])
    (hplain : ∀ line ∈ lines, isEcho line = false) (htime : limit.nanoseconds ≠ 0) :
    ∃ after, world.exchange limit requests = (.ok (splitReply lines), after) ∧
      after.Scripted later ∧ after.tokensTaken = world.tokensTaken + 1 := by
  obtain ⟨sent, hchannel⟩ := h
  have hsend : world.channel.sendAll (world.exchangeLines requests) = (.ok (),
      Script.channel (lines.map .line ++ [.line world.nextToken.replyLine])
        (sent ++ world.exchangeLines requests) later) := by
    -- one reply for each request and one for the request to echo the token
    rw [hchannel, Script.sendAll_channel (by simp [exchangeLines, hlength]), hreplies]
    rfl
  have hnone : ∀ line ∈ lines, (Awaited.echo world.nextToken).sight line ≠ .arrived := by
    intro line hline
    rw [(Awaited.sight_eq_ordinary_iff _ line).mpr (hplain line hline)]
    exact Sighting.noConfusion
  have hall : lines.filter ((Awaited.echo world.nextToken).sight · = .ordinary) = lines := by
    rw [Awaited.filter_ordinary, List.filter_eq_self]
    intro line hline
    rw [hplain line hline, Bool.not_false]
  have hecho := (Awaited.sight_echo_eq_arrived_iff world.nextToken _).mpr
    (isReply_replyLine world.nextToken)
  have hread : world.channel.converse (world.exchangeLines requests) (.echo world.nextToken) limit =
      (.ok lines, Script.channel [] (sent ++ world.exchangeLines requests) later) := by
    unfold Channel.converse
    rw [hsend]
    simp only [Channel.await, Script.channel, Channel.awaitItems_lines_append htime hnone,
      Channel.awaitItems_arrived hecho, hall, Except.map, List.append_nil]
  refine ⟨_, exchange_of_ok hread, ⟨_, noticeStop_channel _ _⟩, ?_⟩
  rw [noticeStop_tokensTaken]
  rfl

/-- The replies to the requests for the views of a session, none of which shows anything, and the
echo behind them. -/
def viewReplies (session : Session) (token : SyncToken) : List (List Item) :=
  session.views.toList.map (fun _ => []) ++ [[.line token.replyLine]]

/-- Whether the target is going to answer the requests for the views of a session. -/
def ReadyFor (world : World Script) (session : Session) : Prop :=
  world.Scripted (viewReplies session world.nextToken)

/-- A world in which a request for the status is answered by some lines, the views show nothing, and
both tokens of a refresh are echoed. -/
def obliging (session : Session) (target : TargetState) (taken : Nat) (status : List String) :
    World Script where
  channel := Script.channel [] []
    ([status.map .line, [.line (SyncToken.replyLine ⟨taken + 1⟩)]] ++
      viewReplies session ⟨taken + 2⟩)
  target := target
  tokensTaken := taken

theorem exchange_obliging (session : Session) (target : TargetState) (taken : Nat)
    {status : List String} {limit : Duration} (htime : limit.nanoseconds ≠ 0)
    (hplain : ∀ line ∈ status, isEcho line = false) :
    ∃ after, (obliging session target taken status).exchange limit [.status] =
      (.ok (splitReply status), after) ∧ after.ReadyFor session := by
  have hscript : (obliging session target taken status).Scripted
      ([status.map .line, [.line (SyncToken.replyLine ⟨taken + 1⟩)]] ++
        viewReplies session ⟨taken + 2⟩) := ⟨[], rfl⟩
  have hlength : [Request.status].length + 1 =
      [status.map Item.line, [.line (SyncToken.replyLine ⟨taken + 1⟩)]].length := rfl
  obtain ⟨after, hask, hrest, htaken⟩ := exchange_of_scripted hscript hlength rfl hplain htime
  refine ⟨after, hask, ?_⟩
  unfold ReadyFor nextToken
  rw [htaken]
  exact hrest

end World

/-- Whether an operation failed because of the status reply. -/
def FailsOnStatus (result : Except Error Unit) : Prop :=
  ∃ cause, result = .error cause ∧ cause.isOfStatus = true

/-- Looking at the views of a target that answers does not fail because of the status. -/
theorem lookAt_of_ready {session : Session} {world : World Script} (h : world.ReadyFor session)
    (htime : session.settings.replyLimit.nanoseconds ≠ 0) (move : Move) (cursor : Cursor) :
    ¬ FailsOnStatus (lookAt session move cursor world).1.1 := by
  obtain ⟨windows, hplan, -⟩ := session.plannedWindows_ok cursor move
  have hscript : world.Scripted (World.viewReplies session world.nextToken ++ []) := by
    rw [List.append_nil]
    exact h
  have hlength : (session.viewRequests windows).length + 1 =
      (World.viewReplies session world.nextToken).length := by
    simp [Session.viewRequests, World.viewReplies]
  have hreplies : (World.viewReplies session world.nextToken).flatten =
      ([] : List String).map .line ++ [.line world.nextToken.replyLine] := by
    simp [World.viewReplies]
  obtain ⟨after, hask, -, -⟩ :=
    World.exchange_of_scripted hscript hlength hreplies (by simp) htime
  unfold lookAt
  simp only [hplan, hask]
  rintro ⟨_, hfailed, -⟩
  cases hfailed

end RemoteDebug
