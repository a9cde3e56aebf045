import RemoteDebug.Channel.Reading
import RemoteDebug.Text.Utf8

/-!
# Lines over a byte stream

The channel to a real target is a stream of bytes. A poll gives the next whole line, without its
line end. Bytes of a line whose end has not arrived are kept until it does; at the end of the
stream they are the last line. A poll that meets the end of the stream right behind new bytes
keeps them and gives nothing, and only the next one gives the line.
-/

namespace RemoteDebug

/-- The receiving side of a byte stream: the bytes kept, the bytes not looked at yet, and whether
more can arrive. -/
structure ByteStream where
  pending : List UInt8 := []
  arrived : List UInt8 := []
  ended : Bool := false
deriving DecidableEq, Repr

namespace ByteStream

/-- The byte that ends a line. -/
def newline : UInt8 :=
  10

/-- The bytes of a line that is sent. -/
def encodeLine (line : String) : List UInt8 :=
  line.toUTF8.toList ++ [newline]

/-- Bytes that arrive. -/
def receive (stream : ByteStream) (bytes : List UInt8) : ByteStream :=
  { stream with arrived := stream.arrived ++ bytes }

/-- The end of what arrives. -/
def finish (stream : ByteStream) : ByteStream :=
  { stream with ended := true }

/-- The text of a line, without its line ends. -/
def lineText (bytes : List UInt8) : String :=
  Text.chompOf (Text.Utf8.decode bytes)

/-- Takes the next line, or none if there is no whole line yet. -/
def poll (stream : ByteStream) : Except Error (Option String) × ByteStream :=
  let fresh := stream.arrived.takeWhile (· != newline)
  match stream.arrived.dropWhile (· != newline) with
  | _ :: rest =>
    (.ok (some (lineText (stream.pending ++ fresh))),
      { stream with pending := [], arrived := rest })
  | [] =>
    if stream.ended && fresh.isEmpty then
      if stream.pending.isEmpty then (.error .channelClosed, stream)
      else (.ok (some (lineText stream.pending)), { stream with pending := [] })
    else (.ok none, { stream with pending := stream.pending ++ fresh, arrived := [] })

/-- Takes lines as long as there are whole ones; `limit` bounds their number. -/
def drainUpTo (stream : ByteStream) : Nat → Except Error (List String) × ByteStream
  | 0 => (.ok [], stream)
  | limit + 1 =>
    let (found, after) := stream.poll
    match ReadStep.draining found with
    | .done => (.ok [], after)
    | .fails cause => (.error cause, after)
    | .goesOn kept =>
      let (result, final) := after.drainUpTo limit
      (result.map (kept.toList ++ ·), final)

/-- Takes lines as long as there are whole ones. Each line takes a byte, but for the one that the
bytes kept make at the end of the stream. -/
def drain (stream : ByteStream) : Except Error (List String) × ByteStream :=
  stream.drainUpTo (stream.arrived.length + 2)

end ByteStream

end RemoteDebug
