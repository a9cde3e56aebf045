import RemoteDebug.Proofs.Wire.Frames

/-!
# Whole blocks in a stream

A whole block is what the target sends in answer to a request for the status or for a view: a tag
line that names the kind, payload lines that open no block, and a line that ends it. The splitter
takes a whole block as the block that it is and is left as it was before (`pushAll_wholeBlock`), so
blocks in front of other lines add to their blocks and to nothing else.
-/

namespace RemoteDebug.Wire

open RemoteDebug.Text

/-- A reply block as it is sent, from its tag line to its end. -/
structure WholeBlock where
  tag : String
  payload : List String
  last : String
  tag_opens : Splitter.isTag (chompOf tag) = true
  tag_closes_not : Splitter.isEnd (chompOf tag) = false
  kind_known : ∀ word, ({ tagLine := chompOf tag } : Block).kind ≠ .unknown word
  payload_opens_not : ∀ line ∈ payload, Splitter.isTag (chompOf line) = false
  last_closes : Splitter.isEnd (chompOf last) = true

namespace WholeBlock

/-- The lines of a whole block. -/
def lines (whole : WholeBlock) : List String :=
  whole.tag :: (whole.payload ++ [whole.last])

/-- The block that the lines are. -/
def block (whole : WholeBlock) : Block :=
  { tagLine := chompOf whole.tag, payload := whole.payload.map chompOf }

/-- A whole block as the frame of its block. -/
def frame (whole : WholeBlock) : Frame where
  tag := whole.tag
  payload := whole.payload
  last := whole.last
  opens := opensBlock_of_kind whole.tag_opens whole.tag_closes_not (whole.kind_known _)
    (whole.kind_known _)
  payload_opens_not := whole.payload_opens_not
  last_closes := whole.last_closes

/-- No line of a whole block is an echo. -/
theorem isEcho_of_mem {whole : WholeBlock} {line : String} (h : line ∈ whole.lines) :
    isEcho line = false :=
  whole.frame.isEcho_of_mem h

end WholeBlock

/-- A whole block is taken as the block that it is, and leaves no trace in the splitter. -/
theorem Splitter.pushAll_wholeBlock (whole : WholeBlock) (stopped : Bool) :
    pushAll { stopObserved := stopped } whole.lines =
      ({ stopObserved := stopped }, [whole.block]) :=
  pushAll_frame whole.frame stopped

end RemoteDebug.Wire
