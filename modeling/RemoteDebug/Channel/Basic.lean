import RemoteDebug.Error

/-!
# The channel to the target

A channel is a queue of what a reader will find, one item a poll, together with the peer at its far
end. A line that is sent either is refused, or is recorded and answered by the peer at once, behind
what is queued already.

Time does not pass while items remain, however many there are, so a reader's time does not run out
before the last of them. An empty queue of an open channel means that nothing more will come: there
a reader that waits for something runs into its time limit.

How the peer answers is left to the type of peers; every statement about channels holds for any.
-/

namespace RemoteDebug

/-- What a poll of the channel finds. -/
inductive Item where
  /-- A whole line. -/
  | line (text : String)
  /-- Nothing that could be read yet. -/
  | nothing
  /-- A read that fails, with the system's text. -/
  | fault (text : String)
deriving DecidableEq, Repr

/-- How the far end takes a line. -/
inductive Reaction where
  /-- Writing fails, with the system's text, and the line is not sent. -/
  | refused (text : String)
  /-- The line is sent and answered by items; the channel may close behind them. -/
  | answered (items : List Item) (closes : Bool)
deriving DecidableEq, Repr

/-- A type of peers: what one does when it is sent a line. -/
class Peer (σ : Type) where
  receive : σ → String → Reaction × σ

/-- A channel: what is queued for the reader, whether the channel has been closed, the lines sent
so far in order, and the far end. -/
structure Channel (σ : Type) where
  queue : List Item := []
  closed : Bool := false
  sent : List String := []
  peer : σ

namespace Channel

variable {σ : Type} [Peer σ]

/-! ## Sending -/

/-- Sends a line. -/
def send (channel : Channel σ) (line : String) : Except Error Unit × Channel σ :=
  if channel.closed then (.error .channelClosed, channel)
  else match Peer.receive channel.peer line with
    | (.refused text, peer) => (.error (.io text), { channel with peer })
    | (.answered items closes, peer) =>
      (.ok (), {
        queue := channel.queue ++ items
        closed := closes
        sent := channel.sent ++ [line]
        peer })

/-- Sends lines in order, up to the first that cannot be sent. -/
def sendAll (channel : Channel σ) : List String → Except Error Unit × Channel σ
  | [] => (.ok (), channel)
  | line :: rest =>
    match channel.send line with
    | (.error cause, after) => (.error cause, after)
    | (.ok (), after) => after.sendAll rest

end Channel

end RemoteDebug
