import RemoteDebug.Channel.Basic
import RemoteDebug.Wire.Marker
import RemoteDebug.Wire.SyncToken

/-!
# Reading from the channel

There are three ways to read. A single poll takes one item. Draining takes lines as long as there
are any. Awaiting takes lines until the awaited one comes and gives those before it, leaving out
the echoes of outdated tokens; it fails if the awaited line does not come in time.

What a reader does behind a poll is a `ReadStep`, told by what the poll found and, for a reader that
waits, by the time since it began. The same steps read a queue here and a socket elsewhere. A read
of a queue takes a clock: what it shows behind each poll. On the clock of a channel time does not
pass while items remain (`Channel.stillClock`), so any time limit but zero outlasts them.

A read that fails gives no lines: what it had taken is lost. Each read therefore tells what it left
in the queue, and with it what it took.
-/

namespace RemoteDebug

open RemoteDebug.Wire

/-- What a reader waits for. -/
inductive Awaited where
  /-- The echo of a token. -/
  | echo (token : SyncToken)
  /-- A stop marker. -/
  | stop
deriving DecidableEq, Repr

/-- What a line is to a reader that waits. -/
inductive Sighting where
  /-- The awaited line. -/
  | arrived
  /-- A leftover of an earlier request. -/
  | leftover
  /-- A line of the reply. -/
  | ordinary
deriving DecidableEq, Repr

namespace Awaited

/-- The name by which an error tells what was awaited. -/
def name : Awaited → String
  | echo token => token.text
  | stop => stopMarker

/-- What a line is to a reader that waits. -/
def sight : Awaited → String → Sighting
  | echo token, line =>
    if token.isReply line then .arrived
    else if token.isStaleReply line then .leftover
    else .ordinary
  | stop, line => if isStopMarker line then .arrived else .ordinary

end Awaited

/-! ## Steps -/

/-- What a reader does behind a poll. -/
inductive ReadStep where
  /-- It is done, and gives the lines that it kept. -/
  | done
  /-- It fails. -/
  | fails (cause : Error)
  /-- It polls again. It keeps the line that was found, if that is one of those it gives. -/
  | goesOn (kept : Option String)
deriving DecidableEq, Repr

/-- The error of a reader that waited in vain for a span. -/
def Channel.waitedInVain (awaited : Awaited) (span : Duration) : Error :=
  .noReply awaited.name span

namespace ReadStep

/-- What a reader does that drains, by what it found. -/
def draining : Except Error (Option String) → ReadStep
  | .ok (some line) => goesOn (some line)
  | .ok none => done
  | .error cause => fails cause

/-- What a reader does that waits, by what it found and how long it has waited. Behind whatever is
not the awaited line it looks at the time, and gives up when its limit is reached. The end of the
channel is the end of waiting, too. -/
def awaiting (awaited : Awaited) (limit waited : Duration) :
    Except Error (Option String) → ReadStep
  | .error .channelClosed => fails (Channel.waitedInVain awaited waited)
  | .error cause => fails cause
  | .ok none => inTime none
  | .ok (some line) =>
    match awaited.sight line with
    | .arrived => done
    | .leftover => inTime none
    | .ordinary => inTime (some line)
where
  /-- Goes on unless the limit is reached. -/
  inTime (kept : Option String) : ReadStep :=
    if limit.nanoseconds ≤ waited.nanoseconds then fails (Channel.waitedInVain awaited waited)
    else goesOn kept

end ReadStep

/-- What a poll finds that takes an item. -/
def Item.found : Item → Except Error (Option String)
  | line text => .ok (some text)
  | nothing => .ok none
  | fault text => .error (.io text)

namespace Channel

variable {σ : Type}

/-- Takes one item: a line, or none if there is nothing to read yet. -/
def poll (channel : Channel σ) : Except Error (Option String) × Channel σ :=
  match channel.queue with
  | [] => (if channel.closed then .error .channelClosed else .ok none, channel)
  | item :: rest => (item.found, { channel with queue := rest })

/-- The lines that a reader gives, and the items behind its last poll. Its steps are told the number
of polls before; `behind` is how it ends behind the last item. -/
def readItems (step : Nat → Except Error (Option String) → ReadStep)
    (behind : Except Error (List String)) : List Item → Except Error (List String) × List Item
  | [] => (behind, [])
  | item :: rest =>
    match step 0 item.found with
    | .done => (.ok [], rest)
    | .fails cause => (.error cause, rest)
    | .goesOn kept =>
      let (result, left) := readItems (fun polls => step (polls + 1)) behind rest
      (result.map (kept.toList ++ ·), left)

/-! ## Draining -/

/-- The lines up to the first item that is none, and the items behind it. The end of the queue is
an error if the channel is closed. -/
def drainItems (closed : Bool) : List Item → Except Error (List String) × List Item :=
  readItems (fun _ => .draining) (if closed then .error .channelClosed else .ok [])

/-- Takes lines as long as there are any. -/
def drain (channel : Channel σ) : Except Error (List String) × Channel σ :=
  let (result, left) := drainItems channel.closed channel.queue
  (result, { channel with queue := left })

/-! ## Awaiting -/

/-- The lines before the awaited one and the items behind it, for a reader whose clock shows such
spans behind its polls. Behind the last item nothing comes any more, so it waits until its limit. -/
def awaitTimed (awaited : Awaited) (limit : Duration) (clock : Nat → Duration) :
    List Item → Except Error (List String) × List Item :=
  readItems (fun polls => .awaiting awaited limit (clock polls))
    (.error (waitedInVain awaited limit))

/-- What the clock shows that a channel is read by: time does not pass while items remain. -/
def stillClock (_polls : Nat) : Duration :=
  ⟨0⟩

/-- The lines before the awaited one, and the items behind it. As time does not pass while items
remain, a limit other than zero stands for one that is not reached before the last of them, however
short it is; a reader whose limit is zero gives up after the first item that is not what it waits
for. -/
def awaitItems (awaited : Awaited) (limit : Duration) :
    List Item → Except Error (List String) × List Item :=
  awaitTimed awaited limit stillClock

/-- Takes lines until the awaited one comes. -/
def await (channel : Channel σ) (awaited : Awaited) (limit : Duration) :
    Except Error (List String) × Channel σ :=
  let (result, left) := awaitItems awaited limit channel.queue
  (result, { channel with queue := left })

/-- Sends lines and, if all were sent, takes lines until the awaited one comes. -/
def converse [Peer σ] (channel : Channel σ) (lines : List String) (awaited : Awaited)
    (limit : Duration) : Except Error (List String) × Channel σ :=
  match channel.sendAll lines with
  | (.error cause, after) => (.error cause, after)
  | (.ok (), after) => after.await awaited limit

end Channel

end RemoteDebug
