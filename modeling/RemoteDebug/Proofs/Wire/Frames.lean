import RemoteDebug.Proofs.Wire.LineKinds

/-!
# Blocks among other lines

A frame is a block as it is sent, from its tag line to the line that ends it. The splitter takes a
frame as its block and is left as it was before (`pushAll_frame`). What a target may send between
two replies is a filler: lines outside every block, and blocks of kinds that nobody knows
(`IsFiller`). Lines tell some blocks if these are all the known ones in them (`Tells`), which adds
up along the stream: `tells_append` for lines behind lines, `tells_filler` and `tells_frame` for
what they are made of.
-/

namespace RemoteDebug.Wire

open RemoteDebug.Text

/-! ## Frames -/

/-- Whether a line opens a block and is neither a stop marker nor an echo, as all tag lines are
whose kind is neither `break` nor `echo`. -/
structure OpensBlock (line : String) : Prop where
  isTag : Splitter.isTag (chompOf line) = true
  isEnd : Splitter.isEnd (chompOf line) = false
  isStopMarker : isStopMarker line = false
  isEcho : isEcho line = false

/-- A block as it is sent: a tag line, payload lines that open no block, and a line that ends it. -/
structure Frame where
  tag : String
  payload : List String
  last : String
  opens : OpensBlock tag
  payload_opens_not : ∀ line ∈ payload, Splitter.isTag (chompOf line) = false
  last_closes : Splitter.isEnd (chompOf last) = true

/-- A tag line of another kind than those of stop markers and echoes opens a block. -/
theorem opensBlock_of_kind {line : String} (htag : Splitter.isTag (chompOf line) = true)
    (hend : Splitter.isEnd (chompOf line) = false)
    (hbreak : ({ tagLine := chompOf line } : Block).kind ≠ .unknown "break")
    (hecho : ({ tagLine := chompOf line } : Block).kind ≠ .unknown "echo") : OpensBlock line := by
  refine ⟨htag, hend, ?_, ?_⟩
  · rw [Bool.eq_false_iff]
    intro hmarker
    rw [← isStopMarker_chomp] at hmarker
    exact hbreak (kind_of_isStopMarker hmarker htag)
  · rw [Bool.eq_false_iff]
    exact fun h => hecho (kind_of_isEcho h)

theorem isEcho_of_not_isTag {line : String} (h : Splitter.isTag (chompOf line) = false) :
    isEcho line = false := by
  rw [Bool.eq_false_iff]
  intro hecho
  rw [(isTag_of_isEcho hecho).1] at h
  cases h

theorem isEcho_of_isEnd {line : String} (h : Splitter.isEnd (chompOf line) = true) :
    isEcho line = false := by
  rw [Bool.eq_false_iff]
  intro hecho
  rw [(isTag_of_isEcho hecho).2] at h
  cases h

namespace Frame

/-- The lines of a frame. -/
def lines (frame : Frame) : List String :=
  frame.tag :: (frame.payload ++ [frame.last])

/-- The block that the lines are. -/
def block (frame : Frame) : Block :=
  { tagLine := chompOf frame.tag, payload := frame.payload.map chompOf }

theorem isEcho_of_mem {frame : Frame} {line : String} (h : line ∈ frame.lines) :
    isEcho line = false := by
  simp only [lines, List.mem_cons, List.mem_append, List.not_mem_nil, or_false] at h
  rcases h with rfl | h | rfl
  · exact frame.opens.isEcho
  · exact isEcho_of_not_isTag (frame.payload_opens_not line h)
  · exact isEcho_of_isEnd frame.last_closes

end Frame

namespace Splitter

/-- A tag line ends the block before it and opens its own. -/
theorem push_tag {line : String} (htag : isTag (chompOf line) = true)
    (hend : isEnd (chompOf line) = false) (hmarker : isStopMarker line = false)
    (before : Option OpenBlock) (stopped : Bool) :
    push { current := before, stopObserved := stopped } line =
      ({ current := some { tagLine := chompOf line }, stopObserved := stopped },
        before.map OpenBlock.close) := by
  cases before <;> simp [push, pushChomped, htag, hend, hmarker]

/-- Inside a block a tag line ends it and opens its own, also if it is spelled like a marker. -/
theorem push_tag_inside {line : String} (htag : isTag (chompOf line) = true)
    (hend : isEnd (chompOf line) = false) (block : OpenBlock) (stopped : Bool) :
    push { current := some block, stopObserved := stopped } line =
      ({ current := some { tagLine := chompOf line }, stopObserved := stopped },
        some block.close) := by
  simp [push, pushChomped, htag, hend]

theorem push_payload {line : String} (htag : isTag (chompOf line) = false) (block : OpenBlock)
    (stopped : Bool) :
    push { current := some block, stopObserved := stopped } line =
      ({ current := some { block with newestFirst := chompOf line :: block.newestFirst }
         stopObserved := stopped }, none) := by
  simp [push, pushChomped, htag, isEnd_of_not_isTag htag]

theorem push_end {line : String} (hend : isEnd (chompOf line) = true) (before : Option OpenBlock)
    (stopped : Bool) :
    push { current := before, stopObserved := stopped } line =
      ({ stopObserved := stopped }, before.map OpenBlock.close) := by
  simp [push, pushChomped, hend, finish]

theorem push_noise {line : String} (htag : isTag (chompOf line) = false)
    (hmarker : isStopMarker line = false) (stopped : Bool) :
    push { stopObserved := stopped } line = ({ stopObserved := stopped }, none) := by
  simp [push, pushChomped, htag, isEnd_of_not_isTag htag, hmarker]

theorem push_marker {line : String} (hmarker : isStopMarker line = true) (stopped : Bool) :
    push { stopObserved := stopped } line = ({ stopObserved := true }, none) := by
  simp [push, pushChomped, isEnd_of_isStopMarker hmarker, hmarker]

theorem pushAll_append (splitter : Splitter) (front back : List String) :
    splitter.pushAll (front ++ back) =
      (((splitter.pushAll front).1.pushAll back).1,
        (splitter.pushAll front).2 ++ ((splitter.pushAll front).1.pushAll back).2) := by
  induction front generalizing splitter with
  | nil => rfl
  | cons line rest ih =>
    simp only [List.cons_append, pushAll, ih, List.append_assoc]

theorem pushAll_payload {lines : List String}
    (hlines : ∀ line ∈ lines, isTag (chompOf line) = false) (block : OpenBlock) (stopped : Bool) :
    pushAll { current := some block, stopObserved := stopped } lines =
      ({ current := some { block with
          newestFirst := (lines.map chompOf).reverse ++ block.newestFirst }
         stopObserved := stopped }, []) := by
  induction lines generalizing block with
  | nil => rfl
  | cons line rest ih =>
    have hline := hlines line List.mem_cons_self
    have hrest := ih fun later hlater => hlines later (List.mem_cons_of_mem _ hlater)
    simp [pushAll, push_payload hline, hrest]

/-- A frame is taken as its block, and leaves no trace in the splitter. -/
theorem pushAll_frame (frame : Frame) (stopped : Bool) :
    pushAll { stopObserved := stopped } frame.lines =
      ({ stopObserved := stopped }, [frame.block]) := by
  have hopen := push_tag frame.opens.isTag frame.opens.isEnd frame.opens.isStopMarker none stopped
  have hclose (block : OpenBlock) := push_end frame.last_closes (some block) stopped
  -- the tag line opens the block, the payload fills it, and the last line closes it
  rw [Frame.lines, pushAll, hopen]
  simp only [pushAll_append, pushAll_payload frame.payload_opens_not, pushAll, hclose]
  simp [OpenBlock.close, Frame.block]

end Splitter

/-! ## Fillers -/

/-- Whether a kind is that of a view or of the status. -/
def BlockKind.isKnown : BlockKind → Bool
  | .unknown _ => false
  | _ => true

/-- Whether lines say nothing: outside every block there are lines that open none and no stop
marker, and lines that would end one; and blocks are of unknown kinds. -/
inductive IsFiller : List String → Prop
  | nil : IsFiller []
  | noise {line : String} {rest : List String} (opens_not : Splitter.isTag (chompOf line) = false)
      (no_marker : isStopMarker line = false) (behind : IsFiller rest) : IsFiller (line :: rest)
  | ending {line : String} {rest : List String} (closes : Splitter.isEnd (chompOf line) = true)
      (behind : IsFiller rest) : IsFiller (line :: rest)
  | foreign (frame : Frame) {rest : List String} (unknown : frame.block.kind.isKnown = false)
      (behind : IsFiller rest) : IsFiller (frame.lines ++ rest)

/-! ## What lines tell -/

/-- Whether lines tell some blocks: none of them is an echo, the splitter is behind them as it was
before, and the blocks of known kinds in them are these. -/
def Tells (lines : List String) (blocks : List Block) : Prop :=
  (∀ line ∈ lines, isEcho line = false) ∧
  ∃ all, (∀ stopped, Splitter.pushAll { stopObserved := stopped } lines =
      ({ stopObserved := stopped }, all)) ∧
    all.filter (·.kind.isKnown) = blocks

theorem tells_nil : Tells [] [] :=
  ⟨List.forall_mem_nil _, [], fun _ => rfl, rfl⟩

theorem tells_append {front back : List String} {told later : List Block}
    (hfront : Tells front told) (hback : Tells back later) :
    Tells (front ++ back) (told ++ later) := by
  obtain ⟨hfrontplain, all, hfrontall, rfl⟩ := hfront
  obtain ⟨hbackplain, others, hbackall, rfl⟩ := hback
  refine ⟨List.forall_mem_append.mpr ⟨hfrontplain, hbackplain⟩, all ++ others, fun stopped => ?_,
    List.filter_append _ _⟩
  rw [Splitter.pushAll_append, hfrontall, hbackall]

/-- A line that leaves the splitter as it is tells nothing. -/
theorem tells_line {line : String} (hplain : isEcho line = false)
    (hpush : ∀ stopped, Splitter.push { stopObserved := stopped } line =
      ({ stopObserved := stopped }, none)) : Tells [line] [] := by
  refine ⟨List.forall_mem_singleton.mpr hplain, [], fun stopped => ?_, rfl⟩
  rw [Splitter.pushAll, hpush]
  rfl

theorem tells_frame (frame : Frame) :
    Tells frame.lines ([frame.block].filter (·.kind.isKnown)) :=
  ⟨fun _ => Frame.isEcho_of_mem, [frame.block], Splitter.pushAll_frame frame, rfl⟩

theorem tells_filler {lines : List String} (h : IsFiller lines) : Tells lines [] := by
  induction h with
  | nil => exact tells_nil
  | noise hopens hmarker _ ih =>
    have hline := tells_line (isEcho_of_not_isTag hopens) (Splitter.push_noise hopens hmarker)
    exact tells_append hline ih
  | ending hcloses _ ih =>
    have hline := tells_line (isEcho_of_isEnd hcloses) (Splitter.push_end hcloses none)
    exact tells_append hline ih
  | foreign frame hunknown _ ih =>
    have hframe : Tells frame.lines [] := by
      simpa [hunknown] using tells_frame frame
    exact tells_append hframe ih

/-- The known blocks of a reply are those that its lines tell. -/
theorem splitReply_of_tells {lines : List String} {blocks : List Block} (h : Tells lines blocks) :
    (splitReply lines).blocks.filter (·.kind.isKnown) = blocks := by
  obtain ⟨-, all, hall, rfl⟩ := h
  unfold splitReply
  rw [hall false]
  simp [Splitter.finish]

/-- Whether lines reply with a block, with fillers around it or none. -/
def RepliesWith (lines : List String) (block : Block) : Prop :=
  ∃ front frame behind, lines = front ++ (Frame.lines frame ++ behind) ∧ IsFiller front ∧
    IsFiller behind ∧ frame.block = block

theorem tells_of_repliesWith {lines : List String} {block : Block} (h : RepliesWith lines block)
    (hknown : block.kind.isKnown = true) : Tells lines [block] := by
  obtain ⟨front, frame, behind, rfl, hfront, hbehind, rfl⟩ := h
  have hframe : Tells frame.lines [frame.block] := by
    simpa [hknown] using tells_frame frame
  exact tells_append (tells_filler hfront) (tells_append hframe (tells_filler hbehind))

end RemoteDebug.Wire
