import RemoteDebug.Proofs.Decode.WrittenBlocks
import RemoteDebug.Proofs.Text.Spacing
import RemoteDebug.Proofs.Wire.Streams

/-!
# Lines of instructions

A payload line of a disassembly block is blank, or holds an instruction in its first two words and
the text behind them (`IsLaidOut`), or has a fault (`HasLineFault`): it is a single word, or its
second word is no number. What a target writes is read back (`disassembly_of_writes`), also from the
stream with blanks between the parts of its lines and blank lines among them
(`disassembly_of_sends`). Of a block with faults the first line that has one makes the error
(`disassembly_eq_error_iff`).
-/

namespace RemoteDebug.Decode

open RemoteDebug.Wire RemoteDebug.Text

/-! ## Instructions as a target writes them -/

/-- Whether what stands behind the address of an instruction is its text, with blanks in front of it
unless it is empty. -/
def IsTextBehind (tail text : List Char) : Prop :=
  (text = [] ∧ tail = []) ∨
    (text ≠ [] ∧ ∃ space, IsBlankText space ∧ space ≠ [] ∧ tail = space ++ text)

/-- Whether a line writes an instruction: its symbol, its address and its text, with blanks between
them and blanks around them or none. -/
def WritesInstruction (line : List Char) (told : Instruction) : Prop :=
  ∃ lead gap shown tail trail,
    line = lead ++ ((told.symbol.toList ++ (gap ++ (shown ++ tail))) ++ trail) ∧
    IsBlankText lead ∧ IsBlankText gap ∧ gap ≠ [] ∧ WritesNumber shown told.address ∧
    IsTextBehind tail told.text.toList ∧ IsBlankText trail

/-- Whether an instruction can be written on a line. -/
def Instruction.IsWritable (told : Instruction) : Prop :=
  told.address < wordBound ∧ told.symbol.toList ≠ [] ∧ HasNoBlank told.symbol.toList ∧
    IsTrimmed told.text.toList

/-- Whether a block tells the instructions behind an address, one a line; lines of blanks do not
count. -/
def WritesListing (block : Block) (listing : Listing) : Prop :=
  ∃ address others, HasTag block .disassembly (address :: others) ∧
    WritesNumber address.toList listing.address ∧
    List.Forall₂ (fun line told => WritesInstruction line.toList told) (instructionLines block)
      listing.instructions

theorem splitAtFirst?_blanks {word gap behind : List Char} (hword : HasNoBlank word)
    (hgap : IsBlankText gap) (hne : gap ≠ []) (hbehind : ∀ c ∈ behind.head?, isBlank c = false) :
    ∃ rest, splitAtFirst? isBlank (word ++ (gap ++ behind)) = some (word, rest) ∧
      trimStart rest = behind := by
  cases gap with
  | nil => exact absurd rfl hne
  | cons c later =>
    obtain ⟨hc, hlater⟩ := List.forall_mem_cons.mp hgap
    exact ⟨later ++ behind, splitAtFirst?_append hword hc _, trimStart_blanks hlater hbehind⟩

/-- The address of an instruction is told from the text behind it. -/
theorem splitAtFirst?_tail {shown tail text : List Char} (hshown : HasNoBlank shown)
    (htail : IsTextBehind tail text) (htext : IsTrimmed text) :
    ∃ rest, (splitAtFirst? isBlank (shown ++ tail)).getD (shown ++ tail, []) = (shown, rest) ∧
      trimStart rest = text := by
  rcases htail with ⟨rfl, rfl⟩ | ⟨-, space, hspace, hne, rfl⟩
  · rw [List.append_nil, splitAtFirst?_eq_none hshown]
    exact ⟨[], rfl, rfl⟩
  · obtain ⟨rest, hcut, hrest⟩ := splitAtFirst?_blanks hshown hspace hne htext.1
    exact ⟨rest, by rw [hcut, Option.getD_some], hrest⟩

/-- Whether a line consists of a symbol, a word behind it and a text behind that, with blanks
between them and blanks around them or none. -/
def IsLaidOut (line symbol shown text : List Char) : Prop :=
  (IsWord symbol ∧ IsWord shown ∧ IsTrimmed text) ∧ ∃ lead gap tail trail,
    line = lead ++ ((symbol ++ (gap ++ (shown ++ tail))) ++ trail) ∧
    IsBlankText lead ∧ IsBlankText gap ∧ gap ≠ [] ∧ IsTextBehind tail text ∧ IsBlankText trail

theorem isLaidOut_of_writes {line : List Char} {told : Instruction}
    (h : WritesInstruction line told) (hwritable : told.IsWritable) :
    ∃ shown, IsLaidOut line told.symbol.toList shown told.text.toList ∧
      WritesNumber shown told.address := by
  obtain ⟨lead, gap, shown, tail, trail, hline, hlead, hgap, hgapne, hshown, htail, htrail⟩ := h
  obtain ⟨-, hsymbolne, hsymbol, htext⟩ := hwritable
  have hword : IsWord shown := ⟨hasNoBlank_of_writesNumber hshown, ne_nil_of_writesNumber hshown⟩
  exact ⟨shown, ⟨⟨⟨hsymbol, hsymbolne⟩, hword, htext⟩, lead, gap, tail, trail, hline, hlead, hgap,
    hgapne, htail, htrail⟩, hshown⟩

section

variable {symbol shown tail text : List Char}

theorem isTrimmed_instruction (hsymbol : IsWord symbol) (hshown : IsWord shown)
    (htail : IsTextBehind tail text) (htext : IsTrimmed text) (gap : List Char) :
    IsTrimmed (symbol ++ (gap ++ (shown ++ tail))) := by
  constructor
  · rw [List.head?_append_of_ne_nil _ hsymbol.2]
    exact hsymbol.1.isTrimmed.1
  · have hne : shown ++ tail ≠ [] := List.append_ne_nil_of_left_ne_nil hshown.2 _
    rw [List.getLast?_append_of_ne_nil _ (List.append_ne_nil_of_right_ne_nil _ hne),
      List.getLast?_append_of_ne_nil _ hne]
    -- the last word is the address or the end of the text
    rcases htail with ⟨rfl, rfl⟩ | ⟨htextne, space, -, -, rfl⟩
    · rw [List.append_nil]
      exact hshown.1.isTrimmed.2
    · rw [List.getLast?_append_of_ne_nil _ (List.append_ne_nil_of_right_ne_nil _ htextne),
        List.getLast?_append_of_ne_nil _ htextne]
      exact htext.2

/-- Without the blanks around it, the line starts with the symbol. -/
theorem trim_of_isLaidOut {line : List Char} (h : IsLaidOut line symbol shown text) :
    ∃ gap tail, trim line = symbol ++ (gap ++ (shown ++ tail)) ∧ IsBlankText gap ∧ gap ≠ [] ∧
      IsTextBehind tail text := by
  obtain ⟨⟨hsymbol, hshown, htext⟩, lead, gap, tail, trail, rfl, hlead, hgap, hgapne, htail,
    htrail⟩ := h
  have htrimmed := isTrimmed_instruction hsymbol hshown htail htext gap
  have hne := List.append_ne_nil_of_left_ne_nil hsymbol.2 (gap ++ (shown ++ tail))
  exact ⟨gap, tail, trim_blanks hlead htrimmed hne htrail, hgap, hgapne, htail⟩

theorem trim_ne_nil_of_isLaidOut {line : List Char} (h : IsLaidOut line symbol shown text) :
    trim line ≠ [] := by
  obtain ⟨gap, tail, htrim, -⟩ := trim_of_isLaidOut h
  rw [htrim]
  exact List.append_ne_nil_of_left_ne_nil h.1.1.2 _

/-- Of such a line the word behind the symbol is read as a number, and the symbol and the text are
taken as they are. -/
theorem instruction_of_isLaidOut {line : String} (h : IsLaidOut line.toList symbol shown text) :
    instruction line = (number "instruction address" (String.ofList shown)).map fun address =>
      { address, symbol := String.ofList symbol, text := String.ofList text } := by
  obtain ⟨gap, tail, htrim, hgap, hgapne, htail⟩ := trim_of_isLaidOut h
  obtain ⟨⟨hsymbol, hshown, htext⟩, -⟩ := h
  have hstart : ∀ c ∈ (shown ++ tail).head?, isBlank c = false := by
    rw [List.head?_append_of_ne_nil _ hshown.2]
    exact hshown.1.isTrimmed.1
  -- the line is cut twice: behind the symbol, and behind the address
  obtain ⟨rest, hsymbolcut, hrest⟩ := splitAtFirst?_blanks hsymbol.1 hgap hgapne hstart
  obtain ⟨raw, hshowncut, hraw⟩ := splitAtFirst?_tail hshown.1 htail htext
  unfold instruction
  simp only [htrim, hsymbolcut, hrest, hshowncut, hraw]
  cases number "instruction address" (String.ofList shown) <;> rfl

end

theorem instruction_of_writes {line : String} {told : Instruction}
    (h : WritesInstruction line.toList told) (hwritable : told.IsWritable) :
    instruction line = .ok told := by
  obtain ⟨shown, hline, hshown⟩ := isLaidOut_of_writes h hwritable
  have hread : number "instruction address" (String.ofList shown) = .ok told.address :=
    number_of_writes (by rwa [String.toList_ofList]) hwritable.1 _
  rw [instruction_of_isLaidOut hline, hread, String.ofList_toList, String.ofList_toList]
  rfl

/-- Behind the address of a block its instructions are read. -/
theorem disassembly_of_instructions {block : Block} {listing : Listing} {address : String}
    {fields : List String} (htag : HasTag block .disassembly (address :: fields))
    (haddress : WritesNumber address.toList listing.address) (hbound : listing.address < wordBound)
    (hall : (instructionLines block).mapM instruction = .ok listing.instructions) :
    disassembly block = .ok listing := by
  have hfirst : number "address" address = .ok listing.address := number_of_writes haddress hbound _
  unfold disassembly
  simp only [kind_of_hasTag htag, tagFields_of_hasTag htag, hfirst, hall]
  rfl

theorem disassembly_of_writes {block : Block} {listing : Listing} (h : WritesListing block listing)
    (hbound : listing.address < wordBound)
    (hwritable : ∀ told ∈ listing.instructions, told.IsWritable) :
    disassembly block = .ok listing := by
  obtain ⟨address, fields, htag, haddress, hlines⟩ := h
  refine disassembly_of_instructions htag haddress hbound ?_
  exact mapM_of_forall₂ hlines fun told htold line hline =>
    instruction_of_writes hline (hwritable told htold)

/-! ## The parts of a line -/

variable {line : String} {symbol shown word : List Char} {others : List (List Char)}
  {cause : DecodeError}

/-- What starts with a blank and goes on with a word or a text has blanks in front of it. -/
theorem ne_nil_of_startsBlank {gap text : List Char} (h : StartsBlank (gap ++ text))
    (htext : ∀ c ∈ text.head?, isBlank c = false) (hne : text ≠ []) : gap ≠ [] := by
  rintro rfl
  obtain ⟨c, rest, rfl⟩ := List.exists_cons_of_ne_nil hne
  have hblank := h c rfl
  rw [htext c rfl] at hblank
  cases hblank

theorem exists_isTextBehind {behind : List Char} (h : StartsBlank behind) :
    ∃ tail trail, behind = tail ++ trail ∧ IsTextBehind tail (trim behind) ∧
      IsBlankText trail := by
  obtain ⟨space, hspace, hparts⟩ := exists_eq_blanks_append behind
  obtain ⟨trail, htext, htrail⟩ := exists_eq_dropEndWhile_append isBlank (trimStart behind)
  change trimStart behind = trim behind ++ trail at htext
  rw [htext] at hparts
  by_cases hempty : trim behind = []
  · refine ⟨[], behind, rfl, .inl ⟨hempty, rfl⟩, ?_⟩
    rw [hparts, hempty, List.nil_append]
    exact List.forall_mem_append.mpr ⟨hspace, htrail⟩
  · have hhead : ∀ c ∈ (trim behind ++ trail).head?, isBlank c = false := by
      rw [List.head?_append_of_ne_nil _ hempty]
      exact (isTrimmed_trim behind).1
    have hne := ne_nil_of_startsBlank (hparts ▸ h) hhead
      (List.append_ne_nil_of_left_ne_nil hempty _)
    exact ⟨space ++ trim behind, trail, by rw [List.append_assoc, ← hparts],
      .inr ⟨hempty, space, hspace, hne, rfl⟩, htrail⟩

/-- A line of two words or more has a text behind them, which may be empty. -/
theorem exists_isLaidOut {line : List Char} (h : words line = symbol :: shown :: others) :
    ∃ text, IsLaidOut line symbol shown text := by
  obtain ⟨lead, hlead, hline⟩ := exists_eq_blanks_append line
  obtain ⟨rest, hsymbolpart, hsymbol, hrest, hmore⟩ := exists_trimStart_of_words h
  obtain ⟨gap, hgap, hgappart⟩ := exists_eq_blanks_append rest
  obtain ⟨behind, hshownpart, hshown, hbehind, -⟩ := exists_trimStart_of_words hmore
  obtain ⟨tail, trail, hbehindpart, htail, htrail⟩ := exists_isTextBehind hbehind
  rw [hshownpart] at hgappart
  have hhead : ∀ c ∈ (shown ++ behind).head?, isBlank c = false := by
    rw [List.head?_append_of_ne_nil _ hshown.2]
    exact hshown.1.isTrimmed.1
  have hgapne := ne_nil_of_startsBlank (hgappart ▸ hrest) hhead
    (List.append_ne_nil_of_left_ne_nil hshown.2 _)
  refine ⟨trim behind, ⟨hsymbol, hshown, isTrimmed_trim behind⟩, lead, gap, tail, trail, ?_, hlead,
    hgap, hgapne, htail, htrail⟩
  rw [hline, hsymbolpart, hgappart, hbehindpart]
  simp only [List.append_assoc]

theorem trim_of_word {text : List Char} (h : words text = [word]) :
    trim text = word ∧ IsWord word := by
  obtain ⟨rest, hpart, hword, -, hnone⟩ := exists_trimStart_of_words h
  obtain ⟨lead, hlead, hrest⟩ := exists_eq_blanks_append rest
  have hblank : IsBlankText rest := by
    rcases exists_first_word rest with ⟨-, hnil⟩ | ⟨_, _, _, _, _, hsome⟩
    · rw [hrest, hnil, List.append_nil]
      exact hlead
    · rw [hsome] at hnone
      cases hnone
  rw [← trim_trimStart, hpart, trim_append_blanks _ hblank, trim_of_hasNoBlank hword.1]
  exact ⟨rfl, hword⟩

/-! ## Faults -/

/-- What is wrong with a line, if something is. -/
inductive HasLineFault (line : String) : DecodeError → Prop
  | oneWord {word : List Char} (h : words line.toList = [word]) :
    HasLineFault line (.malformedToken (String.ofList word))
  | noNumber {symbol shown : List Char} {others : List (List Char)}
    (h : words line.toList = symbol :: shown :: others) (hshown : number? shown = none) :
    HasLineFault line (.invalidHex "instruction address" (String.ofList shown))

/-- Whether a line is blank, or its second word is a number. -/
def IsSoundLine (line : String) : Prop :=
  words line.toList = [] ∨ ∃ symbol shown others address,
    words line.toList = symbol :: shown :: others ∧ number? shown = some address

/-- Whether an error is the fault of the first line that has one. -/
def IsFirstLineFault (lines : List String) (cause : DecodeError) : Prop :=
  ∃ front bad behind, lines = front ++ bad :: behind ∧ (∀ line ∈ front, IsSoundLine line) ∧
    HasLineFault bad cause

/-- Whether a line is one of those that are read. -/
def isFilled (line : String) : Bool :=
  !(trim line.toList).isEmpty

theorem isFilled_iff : isFilled line = true ↔ words line.toList ≠ [] := by
  simp [isFilled, trim_eq_nil_iff]

theorem instructionLines_eq (block : Block) :
    instructionLines block = block.payload.filter isFilled :=
  rfl

theorem isSoundLine_or_hasLineFault (line : String) :
    IsSoundLine line ∨ ∃ cause, HasLineFault line cause := by
  match hwords : words line.toList with
  | [] => exact .inl (.inl hwords)
  | [word] => exact .inr ⟨_, .oneWord hwords⟩
  | symbol :: shown :: others =>
    cases hshown : number? shown with
    | none => exact .inr ⟨_, .noNumber hwords hshown⟩
    | some address => exact .inl (.inr ⟨symbol, shown, others, address, hwords, hshown⟩)

theorem instruction_of_hasLineFault (h : HasLineFault line cause) :
    instruction line = .error cause := by
  cases h with
  | oneWord h =>
    obtain ⟨htrim, hword⟩ := trim_of_word h
    unfold instruction
    simp only [htrim, splitAtFirst?_eq_none hword.1]
    rfl
  | noNumber h hshown =>
    obtain ⟨text, hline⟩ := exists_isLaidOut h
    rw [instruction_of_isLaidOut hline, number, String.toList_ofList, hshown]
    rfl

theorem exists_instruction_of_isSoundLine (h : IsSoundLine line) (hline : words line.toList ≠ []) :
    ∃ told, instruction line = .ok told := by
  rcases h with hnone | ⟨symbol, shown, others, address, hwords, hshown⟩
  · exact absurd hnone hline
  · obtain ⟨text, hlaid⟩ := exists_isLaidOut hwords
    rw [instruction_of_isLaidOut hlaid, number, String.toList_ofList, hshown]
    exact ⟨_, rfl⟩

theorem HasLineFault.words_ne_nil (h : HasLineFault line cause) : words line.toList ≠ [] := by
  cases h with
  | oneWord h => simp [h]
  | noNumber h => simp [h]

theorem instruction_eq_error_iff (hline : words line.toList ≠ []) :
    instruction line = .error cause ↔ HasLineFault line cause := by
  refine ⟨fun h => ?_, instruction_of_hasLineFault⟩
  rcases isSoundLine_or_hasLineFault line with hsound | ⟨found, hfault⟩
  · obtain ⟨told, hread⟩ := exists_instruction_of_isSoundLine hsound hline
    rw [hread] at h
    cases h
  · rw [instruction_of_hasLineFault hfault] at h
    cases h
    exact hfault

theorem exists_instruction_iff (hline : words line.toList ≠ []) :
    (∃ told, instruction line = .ok told) ↔ IsSoundLine line := by
  refine ⟨fun ⟨told, h⟩ => ?_, fun h => exists_instruction_of_isSoundLine h hline⟩
  rcases isSoundLine_or_hasLineFault line with hsound | ⟨cause, hfault⟩
  · exact hsound
  · rw [instruction_of_hasLineFault hfault] at h
    cases h

variable {block : Block}

/-- The first line that has a fault makes the error of the lines. -/
theorem instructions_eq_error_iff :
    (instructionLines block).mapM instruction = .error cause ↔
      IsFirstLineFault block.payload cause := by
  have hfront (item : String) :
      (isFilled item = true → ∃ told, instruction item = .ok told) ↔ IsSoundLine item := by
    rw [isFilled_iff]
    by_cases hblank : words item.toList = []
    · exact iff_of_true (fun hsome => absurd hblank hsome) (.inl hblank)
    · rw [← exists_instruction_iff hblank]
      exact forall_prop_of_true hblank
  have hbad (item : String) :
      isFilled item = true ∧ instruction item = .error cause ↔ HasLineFault item cause := by
    rw [isFilled_iff]
    constructor
    · rintro ⟨hline, hread⟩
      exact (instruction_eq_error_iff hline).mp hread
    · intro hfault
      exact ⟨hfault.words_ne_nil, instruction_of_hasLineFault hfault⟩
  unfold IsFirstLineFault
  simp only [instructionLines_eq, mapM_filter_eq_error_iff, hfront, hbad]

/-- A block with an address is refused exactly for the first fault in its lines. -/
theorem disassembly_eq_error_iff {address : String} {fields : List String} {value : Nat}
    (hkind : block.kind = .disassembly) (hfields : block.tagFields = address :: fields)
    (haddress : number? address.toList = some value) :
    disassembly block = .error cause ↔ IsFirstLineFault block.payload cause := by
  rw [← instructions_eq_error_iff]
  unfold disassembly number
  simp only [hkind, hfields, haddress, beq_self_eq_true, if_true, bind, Except.bind]
  cases (instructionLines block).mapM instruction with
  | error found => simp
  | ok told => exact iff_of_false nofun nofun

/-! ## Listings on the wire -/

/-- Whether lines write instructions, with blank lines among them. -/
inductive WritesLines : List String → List Instruction → Prop
  | nil : WritesLines [] []
  | blank {line : String} {lines : List String} {told : List Instruction}
    (hline : IsBlankText line.toList) (h : WritesLines lines told) :
    WritesLines (line :: lines) told
  | instruction {line : String} {lines : List String} {first : Instruction}
    {told : List Instruction} (hline : WritesInstruction line.toList first)
    (h : WritesLines lines told) : WritesLines (line :: lines) (first :: told)

/-- Whether lines send a listing: a tag line with the address, lines that write the instructions,
and a line that ends the block. -/
def SendsListing (lines : List String) (listing : Listing) : Prop :=
  ∃ tag body last address fields, lines = tag :: (body ++ [last]) ∧
    HasTag { tagLine := chompOf tag } .disassembly (address :: fields) ∧
    WritesNumber address.toList listing.address ∧ WritesLines body listing.instructions ∧
    Splitter.isEnd (chompOf last) = true

/-- Whether a listing can be sent: its address and its instructions can be written, and no line of
an instruction can be mistaken for a tag line. -/
def Listing.IsSendable (listing : Listing) : Prop :=
  listing.address < wordBound ∧
    ∀ told ∈ listing.instructions, told.IsWritable ∧ told.symbol.toList.head? ≠ some '#'

theorem isTag_of_blank {line : String} (h : IsBlankText line.toList) :
    Splitter.isTag line = false := by
  rw [Splitter.isTag_eq_false_iff]
  intro hmark
  cases h '#' (List.mem_of_mem_head? hmark)

/-- The line of an instruction starts with a blank or with its symbol. -/
theorem isTag_of_writes {line : String} {told : Instruction}
    (h : WritesInstruction line.toList told) (hsymbolne : told.symbol.toList ≠ [])
    (hsymbol : told.symbol.toList.head? ≠ some '#') : Splitter.isTag line = false := by
  obtain ⟨lead, gap, shown, tail, trail, hline, hlead, -⟩ := h
  rw [Splitter.isTag_eq_false_iff, hline]
  cases lead with
  | nil =>
    rw [List.nil_append, List.append_assoc, List.head?_append_of_ne_nil _ hsymbolne]
    exact hsymbol
  | cons c rest =>
    rw [List.cons_append, List.head?_cons]
    rintro ⟨⟩
    cases hlead '#' List.mem_cons_self

section

variable {lines : List String} {told : List Instruction}

/-- No line of a listing that can be sent opens a block. -/
theorem isTag_of_writesLines (h : WritesLines lines told)
    (htold : ∀ one ∈ told, one.IsWritable ∧ one.symbol.toList.head? ≠ some '#') :
    ∀ line ∈ lines, Splitter.isTag line = false := by
  induction h with
  | nil => exact List.forall_mem_nil _
  | blank hline _ ih => exact List.forall_mem_cons.mpr ⟨isTag_of_blank hline, ih htold⟩
  | instruction hline _ ih =>
    obtain ⟨⟨hwritable, hsymbol⟩, hrest⟩ := List.forall_mem_cons.mp htold
    exact List.forall_mem_cons.mpr ⟨isTag_of_writes hline hwritable.2.1 hsymbol, ih hrest⟩

/-- Blank lines are left out, and the others are read as the instructions that they write. -/
theorem mapM_instruction_of_writesLines (h : WritesLines lines told)
    (hwritable : ∀ one ∈ told, one.IsWritable) :
    (lines.filter isFilled).mapM instruction = .ok told := by
  induction h with
  | nil => rfl
  | blank hline _ ih =>
    have hskipped := mt isFilled_iff.mp (not_not.mpr (words_of_isBlankText hline))
    rw [List.filter_cons_of_neg hskipped]
    exact ih hwritable
  | @instruction line lines first told hline _ ih =>
    obtain ⟨hfirst, hrest⟩ := List.forall_mem_cons.mp hwritable
    obtain ⟨shown, hlaid, -⟩ := isLaidOut_of_writes hline hfirst
    have hkept : isFilled line = true := by
      simpa [isFilled] using trim_ne_nil_of_isLaidOut hlaid
    rw [List.filter_cons_of_pos hkept, List.mapM_cons, instruction_of_writes hline hfirst, ih hrest]
    rfl

/-- Line ends make no difference to what lines are read as. -/
theorem mapM_instruction_chompOf (lines : List String) :
    ((lines.map chompOf).filter isFilled).mapM instruction =
      (lines.filter isFilled).mapM instruction := by
  have hkept : isFilled ∘ chompOf = isFilled := by
    funext line
    rw [Function.comp_apply, isFilled, trim_chompOf, isFilled]
  have hread : instruction ∘ chompOf = instruction := by
    funext line
    unfold instruction
    rw [Function.comp_apply, trim_chompOf]
  rw [List.filter_map, List.mapM_map, hkept, hread]

/-- A listing that is sent is the only block of the reply, and is read from it. -/
theorem disassembly_of_sends {listing : Listing} (h : SendsListing lines listing)
    (hlisting : listing.IsSendable) :
    (splitReply lines).blocks.map disassembly = [.ok listing] := by
  obtain ⟨tag, body, last, address, fields, rfl, htag, haddress, hbody, hlast⟩ := h
  obtain ⟨hbound, htold⟩ := hlisting
  let frame : Frame := {
    tag := tag
    payload := body
    last := last
    opens := opensBlock_of_hasTag htag rfl
    payload_opens_not := fun line hline =>
      isTag_chompOf (isTag_of_writesLines hbody htold line hline)
    last_closes := hlast }
  have hblocks : (splitReply frame.lines).blocks = [frame.block] := by
    unfold splitReply
    rw [Splitter.pushAll_frame frame false]
    rfl
  have hall : (instructionLines frame.block).mapM instruction = .ok listing.instructions := by
    rw [instructionLines_eq, Frame.block, mapM_instruction_chompOf]
    exact mapM_instruction_of_writesLines hbody fun one hone => (htold one hone).1
  have hframe : HasTag frame.block .disassembly (address :: fields) := htag
  have hread := disassembly_of_instructions hframe haddress hbound hall
  change (splitReply frame.lines).blocks.map disassembly = [.ok listing]
  rw [hblocks, List.map_singleton, hread]

end

/-- A listing that is sent is read back from the stream; and a block with an address is refused
exactly if some line of it has a fault, for the first one that has. -/
theorem sent_listing_is_read :
    (∀ lines listing, SendsListing lines listing → listing.IsSendable →
      (splitReply lines).blocks.map disassembly = [.ok listing]) ∧
    ∀ (block : Block) (address : String) (fields : List String) (value : Nat),
      block.kind = .disassembly → block.tagFields = address :: fields →
      number? address.toList = some value →
      ∀ cause, disassembly block = .error cause ↔ IsFirstLineFault block.payload cause := by
  constructor
  · intro lines listing hsends hlisting
    exact disassembly_of_sends hsends hlisting
  · intro block address fields value hkind hfields haddress cause
    exact disassembly_eq_error_iff hkind hfields haddress

/-- Texts that are empty or have marks in them come back, whatever stands around them; and of two
lines with faults the first makes the error, whatever stands behind it. -/
theorem texts_with_marks_are_read :
    let lines := ["#disasm $0400:\r\n", "\n", "  - 0x400: \r\n",
      "loop  $00040A  nop ## #x  y\n", "\t", "##\r\n"]
    let listing : Listing := {
      address := 0x400
      instructions := [{ address := 0x400, symbol := "-", text := "" },
        { address := 0x40A, symbol := "loop", text := "nop ## #x  y" }] }
    let block : Block :=
      { tagLine := "#disasm 400", payload := ["- 400 nop", "", " - x4 nop", "-"] }
    SendsListing lines listing ∧ listing.IsSendable ∧
      (splitReply lines).blocks.map disassembly = [.ok listing] ∧
      block.kind = .disassembly ∧ block.tagFields = ["400"] ∧ number? "400".toList = some 0x400 ∧
      disassembly block = .error (.invalidHex "instruction address" "x4") := by
  intro lines listing block
  have htag : HasTag { tagLine := chompOf "#disasm $0400:\r\n" } .disassembly ["$0400:"] :=
    ⟨"disasm", by decide, " $0400:".toList, by decide, fun c hc => by cases hc; rfl, by decide⟩
  have haddress : WritesNumber "$0400:".toList 0x400 :=
    ⟨['$'], "0400".toList, [':'], 4, rfl, .inr (.inl rfl),
      by unfold Hex.SameDigits Hex.IsCaseOf; decide, List.forall_mem_singleton.mpr rfl⟩
  have hempty : WritesInstruction "  - 0x400: \r\n".toList
      { address := 0x400, symbol := "-", text := "" } := by
    have hnumber : WritesNumber "0x400:".toList 0x400 :=
      ⟨['0', 'x'], "400".toList, [':'], 3, rfl, .inr (.inr rfl),
        by unfold Hex.SameDigits Hex.IsCaseOf; decide, List.forall_mem_singleton.mpr rfl⟩
    exact ⟨[' ', ' '], [' '], "0x400:".toList, [], [' ', '\r', '\n'], rfl, by decide, by decide,
      by decide, hnumber, .inl ⟨rfl, rfl⟩, by decide⟩
  have hmarks : WritesInstruction "loop  $00040A  nop ## #x  y\n".toList
      { address := 0x40A, symbol := "loop", text := "nop ## #x  y" } := by
    have hnumber : WritesNumber "$00040A".toList 0x40A :=
      ⟨['$'], "00040A".toList, [], 6, rfl, .inr (.inl rfl),
        by unfold Hex.SameDigits Hex.IsCaseOf; decide, List.forall_mem_nil _⟩
    exact ⟨[], [' ', ' '], "$00040A".toList, "  nop ## #x  y".toList, ['\n'], rfl, by decide,
      by decide, by decide, hnumber, .inr ⟨by decide, [' ', ' '], by decide, by decide, rfl⟩,
      by decide⟩
  have hbody : WritesLines ["\n", "  - 0x400: \r\n", "loop  $00040A  nop ## #x  y\n", "\t"]
      listing.instructions :=
    .blank (by decide) (.instruction hempty (.instruction hmarks (.blank (by decide) .nil)))
  have hsends : SendsListing lines listing :=
    ⟨_, _, "##\r\n", "$0400:", [], rfl, htag, haddress, hbody, by decide⟩
  have hlisting : listing.IsSendable := by
    refine ⟨by decide, ?_⟩
    unfold Instruction.IsWritable
    decide
  obtain ⟨hread, hfaults⟩ := sent_listing_is_read
  have hfirst : IsFirstLineFault block.payload (.invalidHex "instruction address" "x4") := by
    have hbad : HasLineFault " - x4 nop" (.invalidHex "instruction address" "x4") :=
      @HasLineFault.noNumber " - x4 nop" ['-'] ['x', '4'] ["nop".toList] (by decide) (by decide)
    have hgood : IsSoundLine "- 400 nop" :=
      .inr ⟨['-'], "400".toList, ["nop".toList], 0x400, by decide, by decide⟩
    have hnone : IsSoundLine "" := .inl (by decide)
    refine ⟨["- 400 nop", ""], " - x4 nop", ["-"], rfl, ?_, hbad⟩
    exact List.forall_mem_cons.mpr ⟨hgood, List.forall_mem_singleton.mpr hnone⟩
  exact ⟨hsends, hlisting, hread lines listing hsends hlisting, by decide, by decide, by decide,
    (hfaults block "400" [] 0x400 (by decide) (by decide) (by decide) _).mpr hfirst⟩

end RemoteDebug.Decode
