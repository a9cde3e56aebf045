import Mathlib.Tactic.MkIffOfInductiveProp
import RemoteDebug.Proofs.Decode.WrittenBlocks
import RemoteDebug.Proofs.Wire.Frames

/-!
# Streams of blocks

A stream is blocks with other lines between them. A block ends with a line that starts with `##`,
with the tag line of the next block or with the stream; behind a line that ends it, and in front of
the first block, there may be lines that open nothing. Each line may be sent with line ends behind
it. `splitReply_of_stream` says that the splitter gives exactly the blocks of a stream, and sees a
stop exactly if a marker stands outside them.

The splitter does not look at line ends (`pushAll_of_sentAs`), so the argument is about texts. It is
an induction over the blocks, which carries along the block that the one before may have left open
(`pushAll_stretches`).
-/

namespace RemoteDebug.Wire

open RemoteDebug.Text

/-! ## Lines as they are sent -/

/-- Whether a line is a text with line ends behind it. -/
def IsSentAs (text line : String) : Prop :=
  ∃ ends, line.toList = text.toList ++ ends ∧ ∀ c ∈ ends, isLineEnd c = true

/-- Whether a text does not end with a line end itself. -/
def EndsBare (text : String) : Prop :=
  ∀ c ∈ text.toList.getLast?, isLineEnd c = false

/-- Whether a text opens no block where none is open: it is noise, ends a block, or is a stop
marker. -/
def OpensNothing (text : String) : Prop :=
  Splitter.isTag text = false ∨ Splitter.isEnd text = true ∨ isStopMarker text = true

instance : DecidablePred EndsBare :=
  fun text => decidable_of_iff (text.toList.getLast?.all fun c => !isLineEnd c)
    (by simp [EndsBare, Option.all_eq_true])

instance : DecidablePred OpensNothing :=
  fun _ => inferInstanceAs (Decidable (_ ∨ _ ∨ _))

theorem chompOf_of_isSentAs {text line : String} (h : IsSentAs text line) :
    chompOf line = chompOf text := by
  obtain ⟨ends, hline, hends⟩ := h
  unfold chompOf
  rw [hline, dropEndWhile_append_of_all hends]

theorem isTag_chompOf {text : String} (h : Splitter.isTag text = false) :
    Splitter.isTag (chompOf text) = false := by
  obtain ⟨ends, htext, -⟩ := exists_eq_dropEndWhile_append isLineEnd text.toList
  rw [Bool.eq_false_iff] at h ⊢
  intro htag
  obtain ⟨rest, hrest⟩ := List.isPrefixOf_iff_prefix.mp htag
  rw [chompOf, String.toList_ofList] at hrest
  apply h
  unfold Splitter.isTag
  rw [htext, ← hrest]
  rfl

theorem isEnd_chompOf {text : String} (h : Splitter.isEnd text = true) :
    Splitter.isEnd (chompOf text) = true := by
  obtain ⟨rest, hrest⟩ := List.isPrefixOf_iff_prefix.mp h
  -- the second mark is no line end, so both stay
  have hkept : dropEndWhile isLineEnd text.toList = '#' :: '#' :: dropEndWhile isLineEnd rest := by
    rw [← hrest]
    exact dropEndWhile_append_of_last isLineEnd ['#'] rfl rest
  unfold Splitter.isEnd chompOf
  rw [String.toList_ofList, hkept]
  rfl

/-! ## Streams -/

/-- Whether a block can be sent: its tag line opens a block, its payload lines open none, and none
of its lines ends with a line end. -/
@[mk_iff] structure Block.IsSendable (block : Block) : Prop where
  tag_opens : Splitter.isTag block.tagLine = true
  tag_ends_not : Splitter.isEnd block.tagLine = false
  tag_marks_not : isStopMarker block.tagLine = false
  payload_opens_not : ∀ text ∈ block.payload, Splitter.isTag text = false
  bare : ∀ text ∈ block.lines, EndsBare text

instance (block : Block) : Decidable block.IsSendable :=
  decidable_of_iff _ (Block.isSendable_iff block).symm

/-- A block of which all lines have been seen, but not its end. -/
def Block.opened (block : Block) : OpenBlock :=
  { tagLine := block.tagLine, newestFirst := block.payload.reverse }

@[simp] theorem Block.close_opened (block : Block) : block.opened.close = block := by
  simp [opened, OpenBlock.close]

/-- A block of a stream and what stands between it and the next one: nothing, or a line that ends it
and then lines outside. -/
structure Stretch where
  block : Block
  behind : List String := []
  sendable : block.IsSendable
  behind_ends : ∀ text ∈ behind.head?, Splitter.isEnd text = true
  behind_opens_not : ∀ text ∈ behind, OpensNothing text

/-- A stream: lines outside, and blocks. -/
structure Stream where
  front : List String := []
  front_opens_not : ∀ text ∈ front, OpensNothing text
  stretches : List Stretch

namespace Stream

/-- The texts of a stream in order. -/
def texts (stream : Stream) : List String :=
  stream.front ++ stream.stretches.flatMap fun stretch => stretch.block.lines ++ stretch.behind

/-- The blocks of a stream in order. -/
def blocks (stream : Stream) : List Block :=
  stream.stretches.map Stretch.block

/-- The texts of a stream that stand where no block is open. -/
def outside (stream : Stream) : List String :=
  stream.front ++ stream.stretches.flatMap fun stretch => stretch.behind.drop 1

end Stream

/-! ## Splitting a stream -/

namespace Splitter

/-- The splitter does not look at line ends. -/
theorem pushAll_of_sentAs {texts lines : List String} (h : List.Forall₂ IsSentAs texts lines)
    (splitter : Splitter) : splitter.pushAll lines = splitter.pushAll texts := by
  induction h generalizing splitter with
  | nil => rfl
  | @cons text line texts lines hline _ ih =>
    have hpush : splitter.push line = splitter.push text := by
      unfold push
      rw [chompOf_of_isSentAs hline]
    simp only [pushAll, hpush, ih]

theorem push_outside {text : String} (h : OpensNothing text) (stopped : Bool) :
    push { stopObserved := stopped } text =
      ({ stopObserved := stopped || isStopMarker text }, none) := by
  cases hmarker : isStopMarker text with
  | true => rw [push_marker hmarker, Bool.or_true]
  | false =>
    rw [Bool.or_false]
    rcases h with htag | hend | hsame
    · exact push_noise (isTag_chompOf htag) hmarker stopped
    · exact push_end (isEnd_chompOf hend) none stopped
    · rw [hsame] at hmarker
      cases hmarker

theorem pushAll_outside {texts : List String} (h : ∀ text ∈ texts, OpensNothing text)
    (stopped : Bool) :
    pushAll { stopObserved := stopped } texts =
      ({ stopObserved := stopped || texts.any isStopMarker }, []) := by
  induction texts generalizing stopped with
  | nil => simp [pushAll]
  | cons text rest ih =>
    obtain ⟨htext, hrest⟩ := List.forall_mem_cons.mp h
    simp [pushAll, push_outside htext, ih hrest, Bool.or_assoc]

/-- The lines of a block end the block before it, if that is still open, and leave it open itself.
-/
theorem pushAll_block {block : Block} (h : block.IsSendable) (before : Option OpenBlock)
    (stopped : Bool) :
    pushAll { current := before, stopObserved := stopped } block.lines =
      ({ current := some block.opened, stopObserved := stopped },
        (before.map OpenBlock.close).toList) := by
  obtain ⟨hbare, hbarePayload⟩ := List.forall_mem_cons.mp h.bare
  have htag : chompOf block.tagLine = block.tagLine := chompOf_eq_self hbare
  have hpayload : block.payload.map chompOf = block.payload :=
    (List.map_congr_left fun text htext => chompOf_eq_self (hbarePayload text htext)).trans
      (List.map_id _)
  have hopens : ∀ text ∈ block.payload, isTag (chompOf text) = false :=
    fun text htext => isTag_chompOf (h.payload_opens_not text htext)
  have hisTag : isTag (chompOf block.tagLine) = true := by rw [htag, h.tag_opens]
  have hisEnd : isEnd (chompOf block.tagLine) = false := by rw [htag, h.tag_ends_not]
  have hpush := push_tag hisTag hisEnd h.tag_marks_not before stopped
  rw [htag] at hpush
  simp [Block.lines, Block.opened, pushAll, hpush, pushAll_payload hopens, hpayload]

theorem pushAll_behind {last : String} (hlast : isEnd last = true) {outside : List String}
    (houtside : ∀ text ∈ outside, OpensNothing text) (block : OpenBlock) (stopped : Bool) :
    pushAll { current := some block, stopObserved := stopped } (last :: outside) =
      ({ stopObserved := stopped || outside.any isStopMarker }, [block.close]) := by
  simp [pushAll, push_end (isEnd_chompOf hlast), pushAll_outside houtside]

/-- Stretches give their blocks in order behind one that was left open before them, and show the
stop markers that stand outside. -/
theorem pushAll_stretches (stretches : List Stretch) (before : Option OpenBlock) (stopped : Bool) :
    let outcome := pushAll { current := before, stopObserved := stopped }
      (stretches.flatMap fun stretch => stretch.block.lines ++ stretch.behind)
    outcome.2 ++ outcome.1.finish.2.toList =
        (before.map OpenBlock.close).toList ++ stretches.map Stretch.block ∧
      outcome.1.stopObserved =
        (stopped || (stretches.flatMap fun stretch => stretch.behind.drop 1).any isStopMarker) := by
  induction stretches generalizing before stopped with
  | nil => simp [pushAll, finish]
  | cons stretch rest ih =>
    simp only [List.flatMap_cons, pushAll_append, pushAll_block stretch.sendable]
    cases hbehind : stretch.behind with
    | nil =>
      -- the block is left open, for the next one or for the end of the stream
      obtain ⟨hblocks, hstop⟩ := ih (some stretch.block.opened) stopped
      simp [pushAll, hblocks, hstop]
    | cons last outside =>
      have hlast : isEnd last = true := stretch.behind_ends last (by rw [hbehind]; rfl)
      have houtside : ∀ text ∈ outside, OpensNothing text := fun text htext =>
        stretch.behind_opens_not text (by rw [hbehind]; exact List.mem_cons_of_mem _ htext)
      obtain ⟨hblocks, hstop⟩ := ih none (stopped || outside.any isStopMarker)
      simp only [pushAll_behind hlast houtside]
      constructor
      · simp [hblocks]
      · rw [hstop]
        simp [Bool.or_assoc]

end Splitter

/-! ## What the blocks are about -/

/-- The first word behind the mark of a tag line. -/
def keywordOf (tagLine : String) : String :=
  String.ofList ((words (tagLine.toList.drop 1)).head?.getD [])

theorem ofWord_of_not_mem_keywords {word : String}
    (h : ∀ kind, word ∉ Decode.keywords kind) : BlockKind.ofWord word = .unknown word := by
  have hstatus := h .status
  have hregisters := h .registers
  have hmemory := h .memory
  have hdisassembly := h .disassembly
  simp only [Decode.keywords, List.mem_cons, List.not_mem_nil, or_false, not_or] at *
  unfold BlockKind.ofWord
  split <;> simp_all

/-- The kind of a block is that of the first word behind the one mark of its tag line. -/
theorem kind_of_isTag {block : Block} (htag : Splitter.isTag block.tagLine = true)
    (hend : Splitter.isEnd block.tagLine = false) :
    block.kind = .ofWord (keywordOf block.tagLine) := by
  obtain ⟨rest, hrest⟩ := List.isPrefixOf_iff_prefix.mp htag
  have hbehind : block.tagLine.toList.dropWhile (· == '#') = block.tagLine.toList.drop 1 := by
    unfold Splitter.isEnd at hend
    rw [← hrest] at hend ⊢
    -- a second mark would make it the end of a block
    cases rest with
    | nil => rfl
    | cons c rest =>
      have hmark : (c == '#') = false := by
        rw [Bool.eq_false_iff]
        intro hmark
        obtain rfl := beq_iff_eq.mp hmark
        cases hend
      simp [hmark]
  unfold Block.kind keywordOf
  rw [hbehind]

/-! ## The round trip -/

/-- A stream, with any line ends behind its lines, is split into its blocks in order, and shows a
stop exactly if a stop marker stands outside them. The kind of a block is the one that has the first
word of its tag line among its keywords, or else this word. -/
theorem splitReply_of_stream (stream : Stream) {lines : List String}
    (h : List.Forall₂ IsSentAs stream.texts lines) :
    splitReply lines = {
      lines
      blocks := stream.blocks
      stopObserved := stream.outside.any isStopMarker } ∧
    ∀ block ∈ stream.blocks,
      (∀ kind, keywordOf block.tagLine ∈ Decode.keywords kind → block.kind = kind) ∧
      ((∀ kind, keywordOf block.tagLine ∉ Decode.keywords kind) →
        block.kind = .unknown (keywordOf block.tagLine)) := by
  constructor
  · have houtside := Splitter.pushAll_outside stream.front_opens_not false
    obtain ⟨hblocks, hstop⟩ := Splitter.pushAll_stretches stream.stretches none
      (false || stream.front.any isStopMarker)
    unfold splitReply
    simp only [Splitter.pushAll_of_sentAs h, Stream.texts, Splitter.pushAll_append, houtside]
    have hfinish (splitter : Splitter) :
        splitter.finish.1.stopObserved = splitter.stopObserved := rfl
    simp only [hfinish, hstop, List.nil_append, hblocks]
    simp [Stream.blocks, Stream.outside]
  · intro block hblock
    obtain ⟨stretch, -, rfl⟩ := List.mem_map.mp hblock
    rw [kind_of_isTag stretch.sendable.tag_opens stretch.sendable.tag_ends_not]
    exact ⟨fun kind hkind => Decode.ofWord_of_mem_keywords hkind, ofWord_of_not_mem_keywords⟩

/-- A stream in which a block ends in each of the three ways, with a stop marker outside the blocks
and another one in a payload. -/
def threeEndings : Stream where
  front := ["noise", "!break"]
  front_opens_not := by decide +kernel
  stretches := [
    { block := { tagLine := "#mem OK 001000 000001", payload := ["!break", "00"] }
      behind := ["## ", "##", "more noise"]
      sendable := by decide +kernel
      behind_ends := by decide +kernel
      behind_opens_not := by decide +kernel },
    { block := { tagLine := "#regs D0:1" }
      sendable := by decide +kernel
      behind_ends := by decide +kernel
      behind_opens_not := by decide +kernel },
    { block := { tagLine := "# trace", payload := [""] }
      sendable := by decide +kernel
      behind_ends := by decide +kernel
      behind_opens_not := by decide +kernel }]

theorem splitReply_of_threeEndings :
    List.Forall₂ IsSentAs threeEndings.texts (threeEndings.texts.map (· ++ "\r\n")) ∧
    (splitReply (threeEndings.texts.map (· ++ "\r\n"))).blocks = [
      { tagLine := "#mem OK 001000 000001", payload := ["!break", "00"] },
      { tagLine := "#regs D0:1" },
      { tagLine := "# trace", payload := [""] }] ∧
    (splitReply (threeEndings.texts.map (· ++ "\r\n"))).stopObserved = true ∧
    ({ tagLine := "# trace", payload := [""] } : Block).kind = .unknown "trace" := by
  have hlines :
      List.Forall₂ IsSentAs threeEndings.texts (threeEndings.texts.map (· ++ "\r\n")) := by
    rw [List.forall₂_map_right_iff, List.forall₂_same]
    intro text _
    exact ⟨['\r', '\n'], String.toList_append, by simp [isLineEnd]⟩
  obtain ⟨hsplit, hkinds⟩ := splitReply_of_stream threeEndings hlines
  rw [hsplit]
  refine ⟨hlines, rfl, by decide +kernel, ?_⟩
  have hmem : { tagLine := "# trace", payload := [""] } ∈ threeEndings.blocks := by
    decide +kernel
  have hkeyword : keywordOf "# trace" = "trace" := by decide +kernel
  have hforeign : ∀ kind, keywordOf "# trace" ∉ Decode.keywords kind := by
    rw [hkeyword]
    intro kind
    cases kind <;> simp [Decode.keywords]
  rw [(hkinds _ hmem).2 hforeign, hkeyword]

end RemoteDebug.Wire
