import Mathlib.Data.List.Forall2
import RemoteDebug.Proofs.Wire.Frames
import RemoteDebug.Proofs.Wire.StopMarkers

/-!
# The two spellings of a stop marker

Both spellings neither open nor close a block as long as none is open, so replies that differ in the
spelling of their stop markers show the same stops (`stopsFrom_of_saysSame`). Inside a block no line
is a stop marker: `!break` is payload there, and `#break` opens a block and so closes the one it
stands in. So the blocks are the same up to spelling exactly if no marker inside a block is
respelled (`KeepsInside`); the step lemma is `push_alike`, and `shapes_ne_of_respelled` the way
back.
-/

namespace RemoteDebug.Wire

open RemoteDebug.Text

/-! ## Lines and blocks up to spelling -/

/-- Whether two lines are the same or both stop markers, however these are spelled. -/
def SaysSame (line other : String) : Prop :=
  line = other ∨ isStopMarker line = true ∧ isStopMarker other = true

/-- Whether no marker that stands inside a block is spelled in two ways, given whether a block is
open before the lines. -/
def KeepsInside (inside : Bool) : List String → List String → Prop
  | line :: rest, other :: others =>
    (inside = true → trimEndOf line = trimEndOf other) ∧
      KeepsInside (insideAfter inside line) rest others
  | _, _ => True

instance decidableKeepsInside (inside : Bool) :
    (lines others : List String) → Decidable (KeepsInside inside lines others)
  | [], _ | _ :: _, [] => .isTrue trivial
  | line :: rest, other :: others =>
    have := decidableKeepsInside (insideAfter inside line) rest others
    inferInstanceAs (Decidable
      ((inside = true → trimEndOf line = trimEndOf other) ∧
        KeepsInside (insideAfter inside line) rest others))

/-- A line in which a stop marker is spelled in one way. -/
def respell (spelling line : String) : String :=
  if isStopMarker line then spelling else line

/-- What is left of a block without its text: its kind and the number of its payload lines. -/
def Block.shape (block : Block) : BlockKind × Nat :=
  (block.kind, block.payload.length)

/-- Whether two blocks are of one kind and their lines are the same up to the spelling of stop
markers. -/
structure Block.SameUpToSpelling (block other : Block) : Prop where
  kind : block.kind = other.kind
  lines : List.Forall₂ SaysSame block.lines other.lines

theorem SaysSame.refl (line : String) : SaysSame line line :=
  .inl rfl

theorem SaysSame.chomp {line other : String} (h : SaysSame line other) :
    SaysSame (chompOf line) (chompOf other) := by
  rcases h with rfl | ⟨hline, hother⟩
  · exact .refl _
  · exact .inr ⟨(isStopMarker_chomp line).trans hline, (isStopMarker_chomp other).trans hother⟩

theorem saysSame_respell {spelling : String} (h : isStopMarker spelling = true) (line : String) :
    SaysSame line (respell spelling line) := by
  unfold respell
  split
  · exact .inr ⟨‹_›, h⟩
  · exact .refl line

/-- Lines say the same with all their stop markers spelled in one way. -/
theorem forall₂_respell {spelling : String} (h : isStopMarker spelling = true)
    (lines : List String) : List.Forall₂ SaysSame lines (lines.map (respell spelling)) :=
  List.forall₂_map_right_iff.mpr (List.forall₂_same.mpr fun line _ => saysSame_respell h line)

theorem Block.SameUpToSpelling.shape {block other : Block} (h : block.SameUpToSpelling other) :
    block.shape = other.shape := by
  have hlines : block.payload.length + 1 = other.payload.length + 1 := h.lines.length_eq
  have hlength := Nat.add_right_cancel hlines
  rw [Block.shape, Block.shape, h.kind, hlength]

theorem shapes_of_sameUpToSpelling {blocks others : List Block}
    (h : List.Forall₂ Block.SameUpToSpelling blocks others) :
    blocks.map Block.shape = others.map Block.shape := by
  induction h with
  | nil => rfl
  | cons hblock _ ih => rw [List.map_cons, List.map_cons, hblock.shape, ih]

/-! ## What both spellings do -/

/-- A stop marker has one of the two spellings. -/
theorem spelling_of_isStopMarker {line : String} (h : isStopMarker line = true) :
    trimEndOf line = stopMarker ∨ trimEndOf line = legacyStopMarker := by
  simpa only [isStopMarker, Bool.or_eq_true, beq_iff_eq] using h

/-- A stop marker is spelled like a tag line if it is the one of older targets. -/
theorem isTag_of_isStopMarker_iff {line : String} (h : isStopMarker line = true) :
    Splitter.isTag (chompOf line) = true ↔ trimEndOf line = legacyStopMarker := by
  obtain ⟨blanks, hline, -⟩ := exists_eq_dropEndWhile_append isBlank (chompOf line).toList
  have htrim : dropEndWhile isBlank (chompOf line).toList = (trimEndOf line).toList := by
    rw [← trimEnd_chomp line, trimEndOf, String.toList_ofList, trimEnd]
  rw [htrim] at hline
  unfold Splitter.isTag
  rw [hline]
  rcases spelling_of_isStopMarker h with h | h
  · rw [h]
    exact iff_of_false Bool.false_ne_true (by decide)
  · rw [h]
    exact iff_of_true rfl rfl

variable {line other : String} {lines others : List String}

/-- What is read alike from all stop markers is read alike from lines that say the same. -/
theorem SaysSame.congr {α : Type} (read : String → α) {value : α} (h : SaysSame line other)
    (hmarkers : ∀ marker, isStopMarker marker = true → read marker = value) :
    read line = read other := by
  rcases h with rfl | ⟨hline, hother⟩
  · rfl
  · rw [hmarkers line hline, hmarkers other hother]

theorem SaysSame.isEnd (h : SaysSame line other) :
    Splitter.isEnd (chompOf line) = Splitter.isEnd (chompOf other) :=
  h.congr (fun line => Splitter.isEnd (chompOf line)) fun _ => isEnd_of_isStopMarker

theorem SaysSame.isStopMarker (h : SaysSame line other) :
    isStopMarker line = isStopMarker other :=
  h.congr Wire.isStopMarker fun _ hmarker => hmarker

theorem SaysSame.insideAfter (h : SaysSame line other) (inside : Bool) :
    insideAfter inside line = insideAfter inside other :=
  h.congr (Wire.insideAfter inside) fun _ hmarker => insideAfter_of_isStopMarker hmarker inside

/-- Lines that say the same in the same spelling open blocks alike. -/
theorem SaysSame.isTag (h : SaysSame line other) (hspelling : trimEndOf line = trimEndOf other) :
    Splitter.isTag (chompOf line) = Splitter.isTag (chompOf other) := by
  rcases h with rfl | ⟨hline, hother⟩
  · rfl
  · rw [Bool.eq_iff_iff, isTag_of_isStopMarker_iff hline, isTag_of_isStopMarker_iff hother,
      hspelling]

/-- Markers whose spellings differ are one payload and one tag line, inside a block. -/
theorem SaysSame.isTag_ne (h : SaysSame line other) (hspelling : trimEndOf line ≠ trimEndOf other) :
    Splitter.isTag (chompOf line) = !Splitter.isTag (chompOf other) := by
  rcases h with rfl | ⟨hline, hother⟩
  · exact absurd rfl hspelling
  · rw [Bool.eq_iff_iff, Bool.not_eq_true', ← Bool.not_eq_true, isTag_of_isStopMarker_iff hline,
      isTag_of_isStopMarker_iff hother]
    rcases spelling_of_isStopMarker hline with hline | hline <;>
      rcases spelling_of_isStopMarker hother with hother | hother
    · exact absurd (hline.trans hother.symm) hspelling
    · rw [hline, hother]
      decide
    · rw [hline, hother]
      decide
    · exact absurd (hline.trans hother.symm) hspelling

/-- The spelling of stop markers makes no difference to the stops that lines show. -/
theorem stopsFrom_of_saysSame (h : List.Forall₂ SaysSame lines others) (inside : Bool) :
    stopsFrom inside lines = stopsFrom inside others := by
  induction h generalizing inside with
  | nil => rfl
  | cons hline _ ih => rw [stopsFrom, stopsFrom, hline.isStopMarker, hline.insideAfter, ih]

/-! ## Splitters that hold the same up to spelling -/

namespace Splitter

/-- The blocks that lines complete, and the one that is still open behind them. -/
def blocksOf (splitter : Splitter) (lines : List String) : List Block :=
  (splitter.pushAll lines).2 ++ (splitter.pushAll lines).1.finish.2.toList

theorem blocksOf_cons (splitter : Splitter) (line : String) (rest : List String) :
    splitter.blocksOf (line :: rest) =
      (splitter.push line).2.toList ++ (splitter.push line).1.blocksOf rest := by
  simp only [blocksOf, pushAll, List.append_assoc]

/-- Whether the open blocks of two splitters are the same up to spelling. -/
def Alike (splitter other : Splitter) : Prop :=
  Option.Rel Block.SameUpToSpelling splitter.finish.2 other.finish.2

variable {splitter otherSplitter : Splitter}

/-- Tag lines that say the same open blocks that are the same. -/
theorem sameUpToSpelling_tagLine (htag : isTag line = true) (hother : isTag other = true)
    (h : SaysSame line other) :
    Block.SameUpToSpelling { tagLine := line } { tagLine := other } where
  kind := by
    rcases h with rfl | ⟨hline, hmarker⟩
    · rfl
    · rw [kind_of_isStopMarker hline htag, kind_of_isStopMarker hmarker hother]
  lines := .cons h .nil

/-- Payload lines that say the same leave blocks the same. -/
theorem sameUpToSpelling_payload {block otherBlock : OpenBlock}
    (h : block.close.SameUpToSpelling otherBlock.close) (hline : SaysSame line other) :
    Block.SameUpToSpelling
      (OpenBlock.close { block with newestFirst := line :: block.newestFirst })
      (OpenBlock.close { otherBlock with newestFirst := other :: otherBlock.newestFirst }) where
  kind := h.kind
  lines := by
    have hlines := List.rel_append h.lines (List.Forall₂.cons hline .nil)
    simpa only [Block.lines, OpenBlock.close, List.reverse_cons, List.cons_append] using hlines

/-- Outside a block a line does the same to both splitters, however it is spelled. -/
theorem push_alike_outside (hline : SaysSame line other) (stopped otherStopped : Bool) :
    Alike (push { stopObserved := stopped } line).1
        (push { stopObserved := otherStopped } other).1 ∧
      (push { stopObserved := stopped } line).2 = none ∧
      (push { stopObserved := otherStopped } other).2 = none := by
  rcases hline with rfl | ⟨hmarker, hother⟩
  · cases hend : isEnd (chompOf line) with
    | true =>
      rw [push_end hend, push_end hend]
      exact ⟨.none, rfl, rfl⟩
    | false =>
      cases hmarker : isStopMarker line with
      | true =>
        rw [push_marker hmarker, push_marker hmarker]
        exact ⟨.none, rfl, rfl⟩
      | false =>
        cases htag : isTag (chompOf line) with
        | true =>
          rw [push_tag htag hend hmarker, push_tag htag hend hmarker]
          exact ⟨.some (sameUpToSpelling_tagLine htag htag (.refl _)), rfl, rfl⟩
        | false =>
          rw [push_noise htag hmarker, push_noise htag hmarker]
          exact ⟨.none, rfl, rfl⟩
  · rw [push_marker hmarker, push_marker hother]
    exact ⟨.none, rfl, rfl⟩

/-- Inside a block a line does the same to both splitters if it is not respelled. -/
theorem push_alike_inside {block otherBlock : OpenBlock}
    (h : block.close.SameUpToSpelling otherBlock.close) (hline : SaysSame line other)
    (hspelling : trimEndOf line = trimEndOf other) (stopped otherStopped : Bool) :
    let next := push { current := some block, stopObserved := stopped } line
    let otherNext := push { current := some otherBlock, stopObserved := otherStopped } other
    Alike next.1 otherNext.1 ∧ Option.Rel Block.SameUpToSpelling next.2 otherNext.2 := by
  intro next otherNext
  cases hend : isEnd (chompOf line) with
  | true =>
    simp only [next, otherNext, push_end hend, push_end (hline.isEnd.symm.trans hend)]
    exact ⟨.none, .some h⟩
  | false =>
    have hother := hline.isTag hspelling
    cases htag : isTag (chompOf line) with
    | true =>
      rw [htag] at hother
      simp only [next, otherNext, push_tag_inside htag hend,
        push_tag_inside hother.symm (hline.isEnd.symm.trans hend)]
      exact ⟨.some (sameUpToSpelling_tagLine htag hother.symm hline.chomp), .some h⟩
    | false =>
      rw [htag] at hother
      simp only [next, otherNext, push_payload htag, push_payload hother.symm]
      exact ⟨.some (sameUpToSpelling_payload h hline.chomp), .none⟩

/-- The block that is open before lines is among the blocks of the lines as the first one, with all
that it holds. -/
theorem exists_first_blocksOf (block : OpenBlock) (stopped : Bool) (lines : List String) :
    ∃ first later, blocksOf { current := some block, stopObserved := stopped } lines =
      first :: later ∧ block.newestFirst.length ≤ first.payload.length := by
  induction lines generalizing block with
  | nil => exact ⟨block.close, [], rfl, Nat.le_of_eq List.length_reverse.symm⟩
  | cons line rest ih =>
    rw [blocksOf_cons]
    -- a line that leaves the block open makes it longer
    cases hend : isEnd (chompOf line) with
    | true =>
      rw [push_end hend]
      exact ⟨block.close, _, rfl, Nat.le_of_eq List.length_reverse.symm⟩
    | false =>
      cases htag : isTag (chompOf line) with
      | true =>
        rw [push_tag_inside htag hend]
        exact ⟨block.close, _, rfl, Nat.le_of_eq List.length_reverse.symm⟩
      | false =>
        rw [push_payload htag]
        obtain ⟨first, later, hblocks, hlength⟩ := ih { block with
          newestFirst := chompOf line :: block.newestFirst }
        exact ⟨first, later, hblocks, Nat.le_of_succ_le hlength⟩

/-- A marker inside a block that is a tag line in one spelling and payload in the other makes the
block shorter in the one than in the other. -/
theorem shapes_ne_of_respelled {block otherBlock : OpenBlock}
    (hlength : block.newestFirst.length = otherBlock.newestFirst.length)
    (htag : isTag (chompOf line) = true) (hend : isEnd (chompOf line) = false)
    (hother : isTag (chompOf other) = false) (stopped otherStopped : Bool) :
    (blocksOf { current := some block, stopObserved := stopped } (line :: lines)).map Block.shape ≠
      (blocksOf { current := some otherBlock, stopObserved := otherStopped }
        (other :: others)).map Block.shape := by
  rw [blocksOf_cons, blocksOf_cons, push_tag_inside htag hend, push_payload hother]
  obtain ⟨first, later, hblocks, hlonger⟩ := exists_first_blocksOf
    { otherBlock with newestFirst := chompOf other :: otherBlock.newestFirst } otherStopped others
  intro hsame
  rw [show (none : Option Block).toList = [] from rfl, List.nil_append, hblocks] at hsame
  have hfirst : block.close.payload.length = first.payload.length :=
    congrArg Prod.snd (List.cons.inj hsame).1
  rw [OpenBlock.close, List.length_reverse] at hfirst
  simp only [List.length_cons] at hlonger
  omega

/-- A line that is not respelled inside a block keeps splitters alike, and they complete the same
block. -/
theorem push_alike (h : Alike splitter otherSplitter) (hline : SaysSame line other)
    (hkeeps : splitter.isOpen = true → trimEndOf line = trimEndOf other) :
    Alike (splitter.push line).1 (otherSplitter.push other).1 ∧
      Option.Rel Block.SameUpToSpelling (splitter.push line).2 (otherSplitter.push other).2 := by
  rcases splitter with ⟨_ | block, stopped⟩ <;>
    rcases otherSplitter with ⟨_ | otherBlock, otherStopped⟩
  · obtain ⟨halike, hnone, hotherNone⟩ := push_alike_outside hline stopped otherStopped
    rw [hnone, hotherNone]
    exact ⟨halike, .none⟩
  · cases h
  · cases h
  · cases h with
    | some hblock => exact push_alike_inside hblock hline (hkeeps rfl) stopped otherStopped

theorem forall₂_toList {block otherBlock : Option Block}
    (h : Option.Rel Block.SameUpToSpelling block otherBlock) :
    List.Forall₂ Block.SameUpToSpelling block.toList otherBlock.toList := by
  cases h with
  | none => exact .nil
  | some hblock => exact .cons hblock .nil

/-- Lines that are not respelled inside blocks have the same blocks up to spelling. -/
theorem blocksOf_alike (h : List.Forall₂ SaysSame lines others)
    (halike : Alike splitter otherSplitter) (hkeeps : KeepsInside splitter.isOpen lines others) :
    List.Forall₂ Block.SameUpToSpelling (splitter.blocksOf lines)
      (otherSplitter.blocksOf others) := by
  induction h generalizing splitter otherSplitter with
  | nil => exact forall₂_toList halike
  | cons hline _ ih =>
    obtain ⟨hnext, hcompleted⟩ := push_alike halike hline hkeeps.1
    rw [blocksOf_cons, blocksOf_cons]
    refine List.rel_append (forall₂_toList hcompleted) (ih hnext ?_)
    rw [isOpen_push]
    exact hkeeps.2

/-- A marker that is respelled inside a block changes the shapes of the blocks. -/
theorem spelling_eq_of_shapes (halike : Alike splitter otherSplitter) (hline : SaysSame line other)
    (hshapes : (splitter.blocksOf (line :: lines)).map Block.shape =
      (otherSplitter.blocksOf (other :: others)).map Block.shape) (hopen : splitter.isOpen = true) :
    trimEndOf line = trimEndOf other := by
  by_contra hspelling
  obtain ⟨hmarker, hotherMarker⟩ :=
    hline.resolve_left fun hsame => hspelling (congrArg trimEndOf hsame)
  have htag := hline.isTag_ne hspelling
  rcases splitter with ⟨_ | block, stopped⟩
  · cases hopen
  rcases otherSplitter with ⟨_ | otherBlock, otherStopped⟩
  · cases halike
  cases halike with
  | some hblock =>
    have hlength : block.newestFirst.length = otherBlock.newestFirst.length := by
      have hshape := congrArg Prod.snd hblock.shape
      simpa only [Block.shape, OpenBlock.close, List.length_reverse] using hshape
    -- in one spelling the marker ends its block, in the other it is a line more of it
    cases hother : isTag (chompOf other) with
    | true =>
      rw [hother] at htag
      exact shapes_ne_of_respelled hlength.symm hother (isEnd_of_isStopMarker hotherMarker) htag
        otherStopped stopped hshapes.symm
    | false =>
      rw [hother] at htag
      exact shapes_ne_of_respelled hlength htag (isEnd_of_isStopMarker hmarker) hother
        stopped otherStopped hshapes

/-- Lines whose blocks have the same shapes are not respelled inside them. -/
theorem keepsInside_of_shapes (h : List.Forall₂ SaysSame lines others)
    (halike : Alike splitter otherSplitter)
    (hshapes : (splitter.blocksOf lines).map Block.shape =
      (otherSplitter.blocksOf others).map Block.shape) :
    KeepsInside splitter.isOpen lines others := by
  induction h generalizing splitter otherSplitter with
  | nil => trivial
  | cons hline _ ih =>
    have hkeeps := spelling_eq_of_shapes halike hline hshapes
    obtain ⟨hnext, hcompleted⟩ := push_alike halike hline hkeeps
    rw [blocksOf_cons, blocksOf_cons, List.map_append, List.map_append,
      shapes_of_sameUpToSpelling (forall₂_toList hcompleted)] at hshapes
    have hrest := ih hnext (List.append_cancel_left hshapes)
    rw [isOpen_push] at hrest
    exact ⟨hkeeps, hrest⟩

end Splitter

/-! ## Where the spelling makes a difference -/

/-- The spelling of stop markers never makes a difference to whether a reply shows a stop. It makes
none to the number of its blocks, their kinds and the lengths of their payloads exactly if no marker
inside a block is respelled; and then the blocks are the same but for the spelling. -/
theorem shapes_eq_iff_keepsInside {lines others : List String}
    (h : List.Forall₂ SaysSame lines others) :
    (splitReply lines).stopObserved = (splitReply others).stopObserved ∧
      ((splitReply lines).blocks.map Block.shape = (splitReply others).blocks.map Block.shape ↔
        KeepsInside false lines others) ∧
      (KeepsInside false lines others →
        List.Forall₂ Block.SameUpToSpelling (splitReply lines).blocks
          (splitReply others).blocks) := by
  have hstart : Splitter.Alike {} {} := .none
  have hblocks := Splitter.blocksOf_alike h hstart
  refine ⟨?_, ⟨Splitter.keepsInside_of_shapes h hstart, fun hkeeps => ?_⟩, hblocks⟩
  · rw [splitReply_stopObserved, splitReply_stopObserved, stopsFrom_of_saysSame h]
  · exact shapes_of_sameUpToSpelling (hblocks hkeeps)

/-- Stop markers of older targets between two blocks show the same. -/
theorem respelled_outside_blocks :
    let lines := ["!break", "#mem OK 000000 000010", "0011", "##", "!break", "#status PC:001000"]
    let others := lines.map (respell legacyStopMarker)
    (splitReply lines).stopObserved = (splitReply others).stopObserved ∧
      (splitReply lines).blocks.map Block.shape = (splitReply others).blocks.map Block.shape := by
  intro lines others
  have hsame : List.Forall₂ SaysSame lines others := forall₂_respell (by decide) lines
  obtain ⟨hstops, hshapes, -⟩ := shapes_eq_iff_keepsInside hsame
  exact ⟨hstops, hshapes.mpr (by decide)⟩

/-- Inside a block one closes it and opens a block of its own. -/
theorem respelled_inside_block :
    let lines := ["#disasm 000400", "!break", "##"]
    let others := lines.map (respell legacyStopMarker)
    others = ["#disasm 000400", "#break", "##"] ∧
      (splitReply lines).blocks.map Block.shape = [(.disassembly, 1)] ∧
      (splitReply others).blocks.map Block.shape = [(.disassembly, 0), (.unknown "break", 0)] := by
  decide

end RemoteDebug.Wire
