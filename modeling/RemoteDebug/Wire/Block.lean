import RemoteDebug.Text.Blank
import RemoteDebug.Wire.Marker

/-!
# Reply blocks

A reply is a stream of lines. A line that starts with `#` opens a block and is its tag line, a line
that starts with `##` closes it, and what stands between is its payload. A tag line also closes the
block that is still open, as does the end of the stream. Lines outside every block are noise, but
for the stop markers.

The splitter takes the stream line by line; `splitReply` takes all of it.
-/

namespace RemoteDebug.Wire

/-- What a block is about, by the first word of its tag line. -/
inductive BlockKind where
  | status
  | registers
  | memory
  | disassembly
  | unknown (word : String)
deriving DecidableEq, Repr

namespace BlockKind

/-- The kind that a word names. -/
def ofWord : String → BlockKind
  | "status" => status
  | "registers" | "regs" => registers
  | "mem" | "memory" => memory
  | "disasm" => disassembly
  | word => unknown word

/-- The word that names a kind. -/
def keyword : BlockKind → String
  | status => "status"
  | registers => "registers"
  | memory => "mem"
  | disassembly => "disasm"
  | unknown word => word

end BlockKind

/-- A reply block: its tag line and the lines behind it. -/
structure Block where
  tagLine : String
  payload : List String := []
deriving DecidableEq, Repr

namespace Block

/-- The kind of a block: the first word of its tag line behind all its leading `#`. -/
def kind (block : Block) : BlockKind :=
  .ofWord <| String.ofList <|
    ((Text.words (block.tagLine.toList.dropWhile (· == '#'))).head?).getD []

/-- The words of the tag line behind the first. -/
def tagFields (block : Block) : List String :=
  (Text.wordsOf block.tagLine).drop 1

/-- The tag line and the payload. -/
def lines (block : Block) : List String :=
  block.tagLine :: block.payload

end Block

/-! ## The splitter -/

/-- A block whose end has not been seen; the newest of its payload lines comes first. -/
structure OpenBlock where
  tagLine : String
  newestFirst : List String := []
deriving DecidableEq, Repr

/-- The block that an open block is when it ends. -/
def OpenBlock.close (block : OpenBlock) : Block :=
  { tagLine := block.tagLine, payload := block.newestFirst.reverse }

/-- What is known of a stream of lines so far: the open block, and whether a stop marker stood
outside every block. -/
structure Splitter where
  current : Option OpenBlock := none
  stopObserved : Bool := false
deriving DecidableEq, Repr

namespace Splitter

/-- Whether a line closes a block. -/
def isEnd (line : String) : Bool :=
  ['#', '#'].isPrefixOf line.toList

/-- Whether a line opens a block, unless it closes one. -/
def isTag (line : String) : Bool :=
  ['#'].isPrefixOf line.toList

/-- The block that ends with the stream, if one is open. -/
def finish (splitter : Splitter) : Splitter × Option Block :=
  ({ splitter with current := none }, splitter.current.map OpenBlock.close)

/-- Takes a line that has no line end, and gives the block that it completes. -/
def pushChomped (splitter : Splitter) (line : String) : Splitter × Option Block :=
  if isEnd line then splitter.finish
  else match splitter.current with
    | none =>
      if isStopMarker line then ({ splitter with stopObserved := true }, none)
      else if isTag line then ({ splitter with current := some { tagLine := line } }, none)
      else (splitter, none)
    | some block =>
      if isTag line then
        ({ splitter with current := some { tagLine := line } }, some block.close)
      else
        ({ splitter with
            current := some { block with newestFirst := line :: block.newestFirst } }, none)

/-- Takes a line, whatever line ends it has, and gives the block that it completes. -/
def push (splitter : Splitter) (line : String) : Splitter × Option Block :=
  splitter.pushChomped (Text.chompOf line)

/-- Takes lines in order, and gives the blocks that they complete. -/
def pushAll (splitter : Splitter) : List String → Splitter × List Block
  | [] => (splitter, [])
  | line :: rest =>
    let (next, completed) := splitter.push line
    let (final, blocks) := next.pushAll rest
    (final, completed.toList ++ blocks)

end Splitter

/-! ## Whole replies -/

/-- The lines of a reply, the blocks in it, and whether a stop marker stood outside them. -/
structure Reply where
  lines : List String
  blocks : List Block
  stopObserved : Bool
deriving DecidableEq, Repr

/-- Splits the lines of a reply. -/
def splitReply (lines : List String) : Reply :=
  let (splitter, blocks) := Splitter.pushAll {} lines
  let (final, unfinished) := splitter.finish
  { lines, blocks := blocks ++ unfinished.toList, stopObserved := final.stopObserved }

/-- The first block of a kind in a reply. -/
def Reply.block? (reply : Reply) (kind : BlockKind) : Option Block :=
  reply.blocks.find? fun block => block.kind == kind

end RemoteDebug.Wire
