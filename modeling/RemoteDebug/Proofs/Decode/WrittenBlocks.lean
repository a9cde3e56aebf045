import RemoteDebug.Decode.View
import RemoteDebug.Proofs.Decode.WrittenNumbers
import RemoteDebug.Proofs.Wire.Frames

/-!
# Blocks as a target writes them

For each kind of block there is a form in which a target tells what it holds. The forms leave open
what does not matter: the case and the marks of numbers, the blanks between words, how a payload is
divided into lines. They have the tag line in common, which names the kind and has fields behind it
(`HasTag`). A status block holds where the target is (`WritesStatus`); it is read, and what is read
is what was told. Whatever is read one after the other ends with the first that is not read
(`mapM_eq_error_iff`).
-/

namespace RemoteDebug.Decode

open RemoteDebug.Wire RemoteDebug.Text RemoteDebug.Hex

/-! ## One after the other -/

section

variable {α β ε : Type} {read : α → Except ε β} {items : List α} {told : List β} {cause : ε}

/-- What is read one after the other is read as a whole if each is read. -/
theorem mapM_eq_ok_iff :
    items.mapM read = .ok told ↔ List.Forall₂ (fun item b => read item = .ok b) items told := by
  induction items generalizing told with
  | nil => cases told <;> simp [pure, Except.pure]
  | cons item rest ih =>
    rw [List.mapM_cons, List.forall₂_cons_left_iff]
    cases hitem : read item with
    | error found => simp [bind, Except.bind]
    | ok b =>
      cases hrest : rest.mapM read with
      | error found => simp [bind, Except.bind, ← ih, hrest]
      | ok others => simp [bind, Except.bind, pure, Except.pure, ← ih, hrest, eq_comm]

/-- The first that is not read ends the reading with its error. -/
theorem mapM_eq_error_iff :
    items.mapM read = .error cause ↔
      ∃ front bad behind, items = front ++ bad :: behind ∧
        (∀ item ∈ front, ∃ b, read item = .ok b) ∧ read bad = .error cause := by
  induction items with
  | nil => simp [pure, Except.pure]
  | cons item rest ih =>
    rw [List.mapM_cons]
    constructor
    · intro h
      cases hitem : read item with
      | error found =>
        rw [hitem] at h
        cases h
        exact ⟨[], item, rest, rfl, List.forall_mem_nil _, hitem⟩
      | ok b =>
        rw [hitem] at h
        cases hrest : rest.mapM read with
        | ok others =>
          rw [hrest] at h
          cases h
        | error found =>
          rw [hrest] at h
          cases h
          obtain ⟨front, bad, behind, rfl, hfront, hbad⟩ := ih.mp hrest
          exact ⟨item :: front, bad, behind, rfl, List.forall_mem_cons.mpr ⟨⟨b, hitem⟩, hfront⟩,
            hbad⟩
    · rintro ⟨front, bad, behind, hparts, hfront, hbad⟩
      cases front with
      | nil =>
        cases hparts
        rw [hbad]
        rfl
      | cons first front =>
        cases hparts
        obtain ⟨⟨b, hitem⟩, hrest⟩ := List.forall_mem_cons.mp hfront
        rw [hitem, ih.mpr ⟨front, bad, behind, rfl, hrest, hbad⟩]
        rfl

/-- Likewise if only some of them are read. -/
theorem mapM_filter_eq_error_iff {kept : α → Bool} :
    (items.filter kept).mapM read = .error cause ↔
      ∃ front bad behind, items = front ++ bad :: behind ∧
        (∀ item ∈ front, kept item = true → ∃ b, read item = .ok b) ∧
        kept bad = true ∧ read bad = .error cause := by
  rw [mapM_eq_error_iff]
  constructor
  · rintro ⟨front, bad, behind, hkept, hfront, hbad⟩
    obtain ⟨before, rest, rfl, rfl, hrest⟩ := List.filter_eq_append_iff.mp hkept
    obtain ⟨skipped, behind, rfl, hskipped, hkeptbad, -⟩ := List.filter_eq_cons_iff.mp hrest
    refine ⟨before ++ skipped, bad, behind, by rw [List.append_assoc], fun item hitem hkeep => ?_,
      hkeptbad, hbad⟩
    rcases List.mem_append.mp hitem with hmem | hmem
    · exact hfront item (List.mem_filter.mpr ⟨hmem, hkeep⟩)
    · exact absurd hkeep (hskipped item hmem)
  · rintro ⟨front, bad, behind, rfl, hfront, hkeptbad, hbad⟩
    refine ⟨front.filter kept, bad, behind.filter kept, ?_, fun item hitem => ?_, hbad⟩
    · rw [List.filter_append, List.filter_cons_of_pos hkeptbad]
    · exact hfront item (List.mem_of_mem_filter hitem) (List.mem_filter.mp hitem).2

theorem mapM_of_forall₂ {Writes : α → β → Prop} (h : List.Forall₂ Writes items told)
    (hread : ∀ b ∈ told, ∀ a, Writes a b → read a = .ok b) : items.mapM read = .ok told := by
  rw [mapM_eq_ok_iff]
  induction h with
  | nil => exact .nil
  | cons hfirst _ ih =>
    obtain ⟨hread, hrest⟩ := List.forall_mem_cons.mp hread
    exact .cons (hread _ hfirst) (ih hrest)

end

/-! ## Tag lines -/

/-- The words that name the kind of a block that a view or the status has. -/
def keywords : BlockKind → List String
  | .status => ["status"]
  | .registers => ["registers", "regs"]
  | .memory => ["mem", "memory"]
  | .disassembly => ["disasm"]
  | .unknown _ => []

/-- Whether the tag line of a block names a kind and has some fields behind it. -/
def HasTag (block : Block) (kind : BlockKind) (fields : List String) : Prop :=
  ∃ word ∈ keywords kind, ∃ behind, block.tagLine.toList = '#' :: (word.toList ++ behind) ∧
    StartsBlank behind ∧ (words behind).map String.ofList = fields

theorem ofWord_of_mem_keywords {kind : BlockKind} {word : String} (h : word ∈ keywords kind) :
    BlockKind.ofWord word = kind := by
  cases kind <;> simp only [keywords, List.mem_cons, List.not_mem_nil, or_false] at h
  case registers => rcases h with rfl | rfl <;> rfl
  case memory => rcases h with rfl | rfl <;> rfl
  all_goals
    subst h
    rfl

/-- A keyword is a word, and starts with none of the marks in front of it. -/
theorem isWord_of_mem_keywords {kind : BlockKind} {word : String} (h : word ∈ keywords kind) :
    HasNoBlank word.toList ∧ ∃ c rest, word.toList = c :: rest ∧ (c == '#') = false := by
  cases kind <;> simp only [keywords, List.mem_cons, List.not_mem_nil, or_false] at h
  case registers =>
    rcases h with rfl | rfl <;>
      exact ⟨by decide, _, _, rfl, rfl⟩
  case memory =>
    rcases h with rfl | rfl <;>
      exact ⟨by decide, _, _, rfl, rfl⟩
  all_goals
    subst h
    exact ⟨by decide, _, _, rfl, rfl⟩

theorem kind_of_hasTag {block : Block} {kind : BlockKind} {fields : List String}
    (h : HasTag block kind fields) : block.kind = kind := by
  obtain ⟨word, hword, behind, htag, hbehind, -⟩ := h
  obtain ⟨hblank, c, rest, hstart, hmark⟩ := isWord_of_mem_keywords hword
  have hmarks : block.tagLine.toList.dropWhile (· == '#') = word.toList ++ behind := by
    rw [htag, hstart, List.dropWhile_cons_of_pos rfl, List.cons_append]
    exact List.dropWhile_cons_of_neg (by rw [hmark]; exact Bool.false_ne_true)
  have hne : word.toList ≠ [] := by simp [hstart]
  unfold Block.kind
  rw [hmarks, words_append hblank hne hbehind, List.head?_cons, Option.getD_some,
    String.ofList_toList, ofWord_of_mem_keywords hword]

theorem tagFields_of_hasTag {block : Block} {kind : BlockKind} {fields : List String}
    (h : HasTag block kind fields) : block.tagFields = fields := by
  obtain ⟨word, hword, behind, htag, hbehind, rfl⟩ := h
  have hblank : HasNoBlank ('#' :: word.toList) :=
    List.forall_mem_cons.mpr ⟨rfl, (isWord_of_mem_keywords hword).1⟩
  have hwords := words_append hblank (List.cons_ne_nil _ _) hbehind
  rw [List.cons_append] at hwords
  unfold Block.tagFields wordsOf
  rw [htag, hwords]
  rfl

/-- The tag line of a block of a known kind opens a block: it is neither a stop marker nor an echo,
whose kinds have no keyword. -/
theorem opensBlock_of_hasTag {block : Block} {kind : BlockKind} {fields : List String}
    (h : HasTag block kind fields) {tag : String} (htag : block.tagLine = chompOf tag) :
    OpensBlock tag := by
  obtain ⟨word, hword, behind, hline, hbehind, hfields⟩ := h
  rw [htag] at hline
  have hkind : ({ tagLine := chompOf tag } : Block).kind = kind :=
    kind_of_hasTag ⟨word, hword, behind, hline, hbehind, hfields⟩
  have hknown (other : String) : ({ tagLine := chompOf tag } : Block).kind ≠ .unknown other := by
    intro hunknown
    rw [← hkind, hunknown] at hword
    cases hword
  obtain ⟨-, c, rest, hstart, hmark⟩ := isWord_of_mem_keywords hword
  rw [hstart] at hline
  refine opensBlock_of_kind ?_ ?_ (hknown _) (hknown _)
  · unfold Splitter.isTag
    rw [hline]
    rfl
  · unfold Splitter.isEnd
    rw [hline]
    simp only [beq_eq_false_iff_ne] at hmark
    simp [List.isPrefixOf, Ne.symm hmark]

/-! ## Status -/

/-- Whether a block tells a program counter: its first word that starts like one writes it. -/
def WritesStatus (block : Block) (counter : Nat) : Prop :=
  (∃ fields, HasTag block .status fields) ∧ ∃ front text back,
    block.lines.flatMap (fun line => words line.toList) =
      front ++ (programCounterStart ++ text) :: back ∧
    (∀ word ∈ front, programCounterStart.isPrefixOf word = false) ∧ WritesNumber text counter

theorem programCounter_of_writes {block : Block} {counter : Nat} (h : WritesStatus block counter)
    (hbound : counter < wordBound) : programCounter block = .ok counter := by
  obtain ⟨⟨fields, htag⟩, front, text, back, hwords, hfront, hnumber⟩ := h
  have hstart : programCounterStart.isPrefixOf (programCounterStart ++ text) = true :=
    List.isPrefixOf_iff_prefix.mpr (List.prefix_append _ _)
  have hfind : (front ++ (programCounterStart ++ text) :: back).find?
      programCounterStart.isPrefixOf = some (programCounterStart ++ text) := by
    rw [List.find?_append, List.find?_eq_none.mpr fun word hword => by simp [hfront word hword],
      Option.none_or, List.find?_cons_of_pos hstart]
  have htext : programCounterText? block = some text := by
    unfold programCounterText?
    rw [hwords, hfind, Option.map_some, List.drop_left]
  have hread : number "PC" (String.ofList text) = .ok counter :=
    number_of_writes (by rwa [String.toList_ofList]) hbound _
  unfold programCounter
  rw [kind_of_hasTag htag, htext]
  simp only [hread]
  rfl

end RemoteDebug.Decode
