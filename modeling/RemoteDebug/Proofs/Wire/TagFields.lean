import RemoteDebug.Proofs.Text.Spacing
import RemoteDebug.Proofs.Wire.Streams

/-!
# Keywords and fields of tag lines

What a block is about is told by the first word behind the mark of its tag line, and its fields are
the words behind the first word of the whole line. These are the same words as long as the mark and
the keyword stand together. With a blank between them the mark is a word of its own, so that the
keyword is the first of the fields (`fields_follow_keyword_iff`).

Every block that a reply is split into has a tag line with one mark: the splitter opens a block with
such a line and keeps it (`Splitter.isTagLine_push`), and so does a run of it over all lines.
-/

namespace RemoteDebug.Wire

open RemoteDebug.Text

/-! ## The tag lines of a reply -/

/-- Whether a line starts with the mark of a tag line, and not with that of an end. -/
def IsTagLine (line : String) : Prop :=
  Splitter.isTag line = true ∧ Splitter.isEnd line = false

namespace Splitter

/-- Whether the block that is open, if there is one, was opened by a tag line. -/
def IsOpenedByTag (splitter : Splitter) : Prop :=
  ∀ block ∈ splitter.current, IsTagLine block.tagLine

/-- A line opens a block only if it is a tag line, and completes only the block that is open. -/
theorem isTagLine_push {splitter : Splitter} (h : splitter.IsOpenedByTag) (line : String) :
    (splitter.push line).1.IsOpenedByTag ∧
      ∀ block ∈ (splitter.push line).2, IsTagLine block.tagLine := by
  obtain ⟨current, stopped⟩ := splitter
  unfold IsOpenedByTag at h ⊢
  unfold push pushChomped
  cases hend : isEnd (chompOf line) with
  | true =>
    -- the open block is the one that is completed
    simp only [if_true, finish]
    constructor
    · intro block hblock
      cases hblock
    · intro block hblock
      obtain ⟨before, hbefore, rfl⟩ := Option.map_eq_some_iff.mp hblock
      exact h before hbefore
  | false =>
    have htagged (htag : isTag (chompOf line) = true) : IsTagLine (chompOf line) := ⟨htag, hend⟩
    cases current <;> cases htag : isTag (chompOf line) <;>
      cases isStopMarker (chompOf line) <;> simp_all [OpenBlock.close]

/-- So do all lines together. -/
theorem isTagLine_pushAll {splitter : Splitter} (h : splitter.IsOpenedByTag)
    (lines : List String) :
    (splitter.pushAll lines).1.IsOpenedByTag ∧
      ∀ block ∈ (splitter.pushAll lines).2, IsTagLine block.tagLine := by
  induction lines generalizing splitter with
  | nil => exact ⟨h, List.forall_mem_nil _⟩
  | cons line rest ih =>
    obtain ⟨hnext, hfirst⟩ := isTagLine_push h line
    obtain ⟨hlast, hothers⟩ := ih hnext
    simp only [pushAll]
    refine ⟨hlast, ?_⟩
    intro block hblock
    rcases List.mem_append.mp hblock with hmem | hmem
    · exact hfirst block (Option.mem_toList.mp hmem)
    · exact hothers block hmem

end Splitter

/-- Every block that a reply is split into starts with a tag line. -/
theorem isTagLine_of_mem_blocks {lines : List String} {block : Block}
    (h : block ∈ (splitReply lines).blocks) : IsTagLine block.tagLine := by
  have hfresh : ({} : Splitter).IsOpenedByTag := by
    intro block hblock
    cases hblock
  obtain ⟨hopen, hblocks⟩ := Splitter.isTagLine_pushAll hfresh lines
  rcases List.mem_append.mp h with hmem | hmem
  · exact hblocks block hmem
  · obtain ⟨last, hlast, rfl⟩ := Option.map_eq_some_iff.mp (Option.mem_toList.mp hmem)
    exact hopen last hlast

/-! ## The words of a tag line -/

namespace Block

/-- The words of the tag line behind its mark. -/
def tagWords (block : Block) : List String :=
  (words (block.tagLine.toList.drop 1)).map String.ofList

/-- Whether a blank follows the mark of the tag line, or nothing at all. -/
def HasGap (block : Block) : Prop :=
  StartsBlank (block.tagLine.toList.drop 1)

variable {block : Block}

theorem toList_tagLine (h : IsTagLine block.tagLine) :
    block.tagLine.toList = '#' :: block.tagLine.toList.drop 1 := by
  obtain ⟨rest, hrest⟩ := List.isPrefixOf_iff_prefix.mp h.1
  rw [← hrest]
  rfl

/-- A mark that stands alone is the first word, which is left out of the fields. -/
theorem tagFields_of_gap (h : IsTagLine block.tagLine) (hgap : block.HasGap) :
    block.tagFields = block.tagWords := by
  have hmark : HasNoBlank ['#'] := by decide
  have hwords := words_append hmark (List.cons_ne_nil _ _) hgap
  rw [List.singleton_append] at hwords
  unfold tagFields wordsOf tagWords
  rw [toList_tagLine h, hwords]
  simp

/-- A mark with a word right behind it is part of the first word. -/
theorem tagWords_of_no_gap (h : IsTagLine block.tagLine) (hgap : ¬block.HasGap) :
    block.tagWords = keywordOf block.tagLine :: block.tagFields := by
  have hmark : HasNoBlank ['#'] := by decide
  obtain ⟨keyword, fields, hbehind, hwords⟩ := words_append_of_not_startsBlank hmark hgap
  rw [List.singleton_append] at hwords
  unfold tagFields wordsOf tagWords keywordOf
  rw [hbehind, toList_tagLine h, hwords]
  simp

/-- A block of a known kind has a keyword of this kind for its first word. -/
theorem exists_tagWords (h : IsTagLine block.tagLine)
    (hknown : ∀ word, block.kind ≠ .unknown word) :
    keywordOf block.tagLine ∈ Decode.keywords block.kind ∧
      ∃ fields, block.tagWords = keywordOf block.tagLine :: fields := by
  have hkind := kind_of_isTag h.1 h.2
  constructor
  · by_contra hnone
    apply hknown (keywordOf block.tagLine)
    rw [hkind]
    apply ofWord_of_not_mem_keywords
    intro kind hword
    rw [← Decode.ofWord_of_mem_keywords hword, ← hkind] at hword
    exact hnone hword
  · cases hwords : words (block.tagLine.toList.drop 1) with
    | nil =>
      -- the empty word names no kind
      have hempty : keywordOf block.tagLine = "" := by
        unfold keywordOf
        rw [hwords]
        rfl
      rw [hempty] at hkind
      exact absurd hkind (hknown "")
    | cons keyword fields =>
      refine ⟨fields.map String.ofList, ?_⟩
      unfold tagWords keywordOf
      rw [hwords]
      rfl

end Block

/-- In every block of a known kind the first word behind the mark is a keyword of this kind. The
words behind it are the fields exactly if no blank stands between the mark and the keyword; if one
does, the keyword is a field itself. -/
theorem fields_follow_keyword_iff {lines : List String} {block : Block}
    (hblock : block ∈ (splitReply lines).blocks) (hknown : ∀ word, block.kind ≠ .unknown word) :
    ∃ keyword ∈ Decode.keywords block.kind, ∃ fields, block.tagWords = keyword :: fields ∧
      (block.tagFields = fields ↔ ¬block.HasGap) ∧
      (block.HasGap → block.tagFields = keyword :: fields) := by
  have htag := isTagLine_of_mem_blocks hblock
  obtain ⟨hkeyword, fields, hwords⟩ := Block.exists_tagWords htag hknown
  refine ⟨_, hkeyword, fields, hwords, ?_, ?_⟩
  · constructor
    · intro hfields hgap
      rw [Block.tagFields_of_gap htag hgap, hwords] at hfields
      exact List.cons_ne_self _ _ hfields
    · intro hgap
      rw [Block.tagWords_of_no_gap htag hgap] at hwords
      exact (List.cons.inj hwords).2
  · intro hgap
    rw [Block.tagFields_of_gap htag hgap, hwords]

/-- Blanks of every kind part the keyword from the fields. -/
theorem wide_blank_ends_keyword :
    let block : Block := { tagLine := "#regs\u3000D0:1\u00A0A7:2" }
    block ∈ (splitReply ["noise", "#regs\u3000D0:1\u00A0A7:2\r\n", "##"]).blocks ∧
      (∀ word, block.kind ≠ .unknown word) ∧ ¬block.HasGap ∧
      block.tagWords = ["regs", "D0:1", "A7:2"] ∧ block.tagFields = ["D0:1", "A7:2"] := by
  intro block
  have hblock :
      block ∈ (splitReply ["noise", "#regs\u3000D0:1\u00A0A7:2\r\n", "##"]).blocks := by
    decide +kernel
  have hkind : block.kind = .registers := by decide +kernel
  have hknown : ∀ word, block.kind ≠ .unknown word := by
    intro word
    rw [hkind]
    nofun
  have hgap : ¬block.HasGap := by
    have hsecond : (block.tagLine.toList.drop 1).head? = some 'r' := by decide +kernel
    intro h
    exact absurd (h 'r' hsecond) (by decide)
  have hall : block.tagWords = ["regs", "D0:1", "A7:2"] := by decide +kernel
  obtain ⟨keyword, -, fields, hwords, hfields, -⟩ := fields_follow_keyword_iff hblock hknown
  rw [hall] at hwords
  cases hwords
  exact ⟨hblock, hknown, hgap, hall, hfields.mpr hgap⟩

/-- Behind a mark that stands alone the keyword of a memory block is taken for its first field. -/
theorem lone_mark_makes_keyword_a_field :
    let block : Block := { tagLine := "# mem OK 001000 000002 0102" }
    block ∈ (splitReply ["# mem OK 001000 000002 0102", "##"]).blocks ∧ block.kind = .memory ∧
      block.tagWords = ["mem", "OK", "001000", "000002", "0102"] ∧
      ∀ keyword, block.tagWords ≠ keyword :: block.tagFields := by
  intro block
  have hwords : block.tagWords = ["mem", "OK", "001000", "000002", "0102"] := by decide +kernel
  have hfields : block.tagFields = block.tagWords := by decide +kernel
  refine ⟨by decide +kernel, by decide +kernel, hwords, ?_⟩
  intro keyword h
  rw [hfields] at h
  exact List.cons_ne_self _ _ h.symm

end RemoteDebug.Wire
