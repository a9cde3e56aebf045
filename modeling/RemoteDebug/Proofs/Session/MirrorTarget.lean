import RemoteDebug.Proofs.Session.FaithfulTarget
import RemoteDebug.Proofs.Session.Planning

/-!
# A target that mirrors what it holds

Whatever a target may hold, there is a target that is faithful to it (`Mirror.faithful`): a mirror
does nothing but read a request and write the block that answers it.
-/

namespace RemoteDebug

open RemoteDebug.Wire RemoteDebug.Decode RemoteDebug.Text RemoteDebug.Hex

/-- A target that answers every question about what it holds, always in the same way. -/
structure Mirror where
  held : Held

namespace Mirror

/-! ## What a mirror writes -/

/-- The block with a word and some fields on its tag line. -/
def tagged (word : String) (fields payload : List String) : Block where
  tagLine := String.ofList ('#' :: (word.toList ++ fields.flatMap fun field => ' ' :: field.toList))
  payload := payload

/-- The block that tells the program counter. -/
def statusBlock (held : Held) : Block :=
  tagged "status" ["PC:" ++ lower 6 held.counter] []

/-- The block that tells the registers, one a line. -/
def registersBlock (held : Held) : Block :=
  tagged "registers" []
    (held.registers.toList.map fun entry => entry.1.name ++ ":" ++ upper 8 entry.2)

/-- The digits of the bytes from an address on. -/
def bytesText (held : Held) (first width : Nat) : String :=
  String.ofList <| (List.range width).flatMap fun offset =>
    digits 2 (held.memory (first + offset)).toNat

/-- The block that tells these bytes. -/
def memoryBlock (held : Held) (first width : Nat) : Block :=
  tagged "mem" [memoryStatus, lower 6 first, lower 6 width] [bytesText held first width]

/-- The line of an instruction. -/
def instructionLine (told : Instruction) : String :=
  " " ++ told.symbol ++ " " ++ lower 6 told.address ++ " " ++ told.text

/-- The block that tells the instructions behind an address. -/
def listingBlock (held : Held) (first width : Nat) : Block :=
  tagged "disasm" [lower 6 first] ((held.instructions first width).map instructionLine)

/-- The two numbers behind the word of a request. -/
def range? (arguments : List Char) : Option (Nat × Nat) := do
  let (first, width) ← splitAtFirst? (· == ' ') arguments
  return (← number? first, ← number? width)

/-- The lines that answer a request, if it is one that is answered. -/
def answer (held : Held) (line : String) : List String :=
  match splitAtFirst? (· == ' ') line.toList with
  | none =>
    if line = "status" then (statusBlock held).lines ++ ["##"]
    else if line = "registers" then (registersBlock held).lines ++ ["##"]
    else []
  | some (word, arguments) =>
    if word = "echo".toList then ["#echo " ++ String.ofList arguments, "##"]
    else match range? arguments with
      | none => []
      | some (first, width) =>
        if word = "memory".toList then (memoryBlock held first width).lines ++ ["##"]
        else if word = "disasm".toList then (listingBlock held first width).lines ++ ["##"]
        else []

instance : Peer Mirror where
  receive mirror line := (.answered ((answer mirror.held line).map .line) false, mirror)

/-! ## Numbers and words -/

theorem writesNumber_lower (width value : Nat) : WritesNumber (lower width value).toList value := by
  unfold lower
  rw [String.toList_ofList]
  exact writesNumber_digits (.inl rfl) width value

theorem writesNumber_upper (width value : Nat) : WritesNumber (upper width value).toList value := by
  refine ⟨[], (upper width value).toList, [], width, by simp, .inl rfl, ?_, List.forall_mem_nil _⟩
  unfold upper SameDigits
  rw [String.toList_ofList, List.forall₂_map_left_iff]
  exact List.forall₂_same.mpr fun c _ => .inr rfl

/-! ## Reading requests -/

theorem splitAtFirst?_space {word : List Char} (hword : HasNoBlank word) (behind : List Char) :
    splitAtFirst? (· == ' ') (word ++ ' ' :: behind) = some (word, behind) := by
  refine splitAtFirst?_append (fun c hc => beq_false_of_ne ?_) rfl behind
  rintro rfl
  exact absurd (hword _ hc) (by decide)

theorem range?_of_range (window : Window) :
    range? (Request.range window).toList = some (window.first, window.width) := by
  have hwrites (value : Nat) : WritesNumber (Request.number value).toList value := by
    have hmarked := writesNumber_digits (.inr (.inl rfl)) 6 value
    unfold Request.number lower
    simp only [String.toList_append, String.toList_ofList]
    exact hmarked
  have hread (value : Nat) (h : value ≤ maxAddress) :
      number? (Request.number value).toList = some value :=
    number?_of_writes (hwrites value) (Nat.lt_of_le_of_lt h (by decide))
  have hwidth : window.width ≤ maxAddress :=
    Nat.le_trans (Nat.sub_le _ _) window.last_le_max
  have hcut : splitAtFirst? (· == ' ') (Request.range window).toList =
      some ((Request.number window.first).toList, (Request.number window.width).toList) := by
    unfold Request.range
    simp only [String.toList_append]
    rw [List.append_assoc]
    exact splitAtFirst?_space (hasNoBlank_of_writesNumber (hwrites _)) _
  unfold range?
  rw [hcut]
  simp only [Option.bind_eq_bind, Option.bind_some, hread _ window.first_le_max, hread _ hwidth]
  rfl

/-! ## Tag lines and payload lines -/

/-- Whether a text can be a field of a tag line. -/
def IsField (text : String) : Prop :=
  HasNoBlank text.toList ∧ text.toList ≠ []

theorem isField_lower (width value : Nat) : IsField (lower width value) :=
  ⟨hasNoBlank_of_writesNumber (writesNumber_lower width value),
    ne_nil_of_writesNumber (writesNumber_lower width value)⟩

theorem words_fields {fields : List String} (h : ∀ field ∈ fields, IsField field) :
    StartsBlank (fields.flatMap fun field => ' ' :: field.toList) ∧
      words (fields.flatMap fun field => ' ' :: field.toList) = fields.map String.toList := by
  induction fields with
  | nil => exact ⟨nofun, rfl⟩
  | cons field rest ih =>
    obtain ⟨⟨hblank, hne⟩, hrest⟩ := List.forall_mem_cons.mp h
    obtain ⟨hstart, hwords⟩ := ih hrest
    rw [List.flatMap_cons, List.map_cons, List.cons_append]
    refine ⟨?_, ?_⟩
    · rintro _ ⟨⟩
      rfl
    · rw [words_blank_append hblank hne hstart, hwords]

theorem flatMap_wordsOf {lines : List String} (h : ∀ line ∈ lines, IsField line) :
    lines.flatMap wordsOf = lines := by
  induction lines with
  | nil => rfl
  | cons line rest ih =>
    obtain ⟨⟨hblank, hne⟩, hrest⟩ := List.forall_mem_cons.mp h
    have hone : wordsOf line = [line] := by
      unfold wordsOf
      rw [words_of_hasNoBlank hblank hne, List.map_singleton, String.ofList_toList]
    rw [List.flatMap_cons, hone, ih hrest, List.singleton_append]

theorem words_tagged {kind : BlockKind} {word : String} (hword : word ∈ keywords kind)
    {fields : List String} (hfields : ∀ field ∈ fields, IsField field) (payload : List String) :
    words (tagged word fields payload).tagLine.toList =
      ('#' :: word.toList) :: fields.map String.toList := by
  obtain ⟨hstart, hwords⟩ := words_fields hfields
  have hblank : HasNoBlank ('#' :: word.toList) :=
    List.forall_mem_cons.mpr ⟨rfl, (isWord_of_mem_keywords hword).1⟩
  unfold tagged
  rw [String.toList_ofList, ← List.cons_append, words_append hblank (List.cons_ne_nil _ _) hstart,
    hwords]

theorem hasTag_tagged {kind : BlockKind} {word : String} (hword : word ∈ keywords kind)
    {fields : List String} (hfields : ∀ field ∈ fields, IsField field) (payload : List String) :
    HasTag (tagged word fields payload) kind fields := by
  obtain ⟨hstart, hwords⟩ := words_fields hfields
  refine ⟨word, hword, _, String.toList_ofList, hstart, ?_⟩
  rw [hwords, List.map_map]
  simp

theorem chompOf_tagged {kind : BlockKind} {word : String} (hword : word ∈ keywords kind)
    {fields : List String} (hfields : ∀ field ∈ fields, IsField field) (payload : List String) :
    chompOf (tagged word fields payload).tagLine = (tagged word fields payload).tagLine := by
  obtain ⟨hblank, first, rest, hstart, -⟩ := isWord_of_mem_keywords hword
  refine chompOf_eq_self fun c hc => isLineEnd_of_not_isBlank ?_
  unfold tagged at hc
  rw [String.toList_ofList] at hc
  -- the line ends with its last field, or with the word if there is none
  rcases List.eq_nil_or_concat fields with rfl | ⟨front, last, rfl⟩
  · rw [List.flatMap_nil, List.append_nil, hstart] at hc
    refine hblank c ?_
    rw [hstart]
    exact List.mem_of_mem_getLast? (by simpa using hc)
  · obtain ⟨hlast, hne⟩ := hfields last (by simp)
    have hends :
        '#' :: (word.toList ++ (front.concat last).flatMap fun field => ' ' :: field.toList) =
        '#' :: (word.toList ++ (front.flatMap (fun field => ' ' :: field.toList) ++ [' '])) ++
          last.toList := by
      simp
    rw [hends, List.getLast?_append_of_ne_nil _ hne] at hc
    exact hlast c (List.mem_of_mem_getLast? hc)

/-- Whether a line can stand in a payload and is sent as it is. -/
def IsPayloadLine (line : String) : Prop :=
  chompOf line = line ∧ Splitter.isTag line = false

/-- A block that is written as it is, with its end behind it, is a reply. -/
theorem repliesWith_tagged {kind : BlockKind} {word : String} (hword : word ∈ keywords kind)
    {fields : List String} (hfields : ∀ field ∈ fields, IsField field) {payload : List String}
    (hpayload : ∀ line ∈ payload, IsPayloadLine line) :
    RepliesWith ((tagged word fields payload).lines ++ ["##"]) (tagged word fields payload) := by
  have htag := chompOf_tagged hword hfields payload
  have hopens := opensBlock_of_hasTag (hasTag_tagged hword hfields payload) htag.symm
  have hlines : payload.map chompOf = payload :=
    (List.map_congr_left fun line hline => (hpayload line hline).1).trans (List.map_id _)
  refine ⟨[], {
    tag := (tagged word fields payload).tagLine
    payload := payload
    last := "##"
    opens := hopens
    payload_opens_not := fun line hline => by
      rw [(hpayload line hline).1]
      exact (hpayload line hline).2
    last_closes := rfl }, [], ?_, .nil, .nil, ?_⟩
  · simp [Frame.lines, Block.lines, tagged]
  · unfold Frame.block
    rw [htag, hlines]
    rfl

/-- A line without blanks that starts with no mark can stand in a payload. -/
theorem isPayloadLine_of_word {line : String} (h : HasNoBlank line.toList)
    (hmark : line.toList.head? ≠ some '#') : IsPayloadLine line := by
  refine ⟨chompOf_eq_self fun c hc => ?_, Splitter.isTag_eq_false_iff.mpr hmark⟩
  exact isLineEnd_of_not_isBlank (h c (List.mem_of_mem_getLast? hc))

/-! ## What a mirror tells -/

theorem answers_status (held : Held) :
    held.Answers .status ((statusBlock held).lines ++ ["##"]) := by
  have htext : ("PC:" ++ lower 6 held.counter).toList =
      programCounterStart ++ (lower 6 held.counter).toList := by
    simp [programCounterStart]
  have hfield : ∀ field ∈ ["PC:" ++ lower 6 held.counter], IsField field := by
    refine List.forall_mem_singleton.mpr ⟨?_, ?_⟩
    · rw [htext]
      have hstart : HasNoBlank programCounterStart := by decide
      exact List.forall_mem_append.mpr ⟨hstart, (isField_lower _ _).1⟩
    · rw [htext]
      simp [programCounterStart]
  have hword : "status" ∈ keywords .status := List.mem_singleton.mpr rfl
  have hwords : words (statusBlock held).tagLine.toList =
      ['#' :: "status".toList, programCounterStart ++ (lower 6 held.counter).toList] := by
    unfold statusBlock
    rw [words_tagged hword hfield, List.map_singleton, htext]
  refine ⟨statusBlock held, repliesWith_tagged hword hfield (List.forall_mem_nil _),
    ⟨_, hasTag_tagged hword hfield _⟩,
    ['#' :: "status".toList], (lower 6 held.counter).toList, [], ?_, ?_,
    writesNumber_lower _ _⟩
  · have hlines : (statusBlock held).lines = [(statusBlock held).tagLine] := by
      simp only [Block.lines, statusBlock, tagged]
    rw [hlines, List.flatMap_singleton, hwords, List.singleton_append]
  · exact List.forall_mem_singleton.mpr rfl

theorem token_plain (register : Register) (value : Nat) :
    IsField (register.name ++ ":" ++ upper 8 value) ∧
      (register.name ++ ":" ++ upper 8 value).toList.head? ≠ some '#' := by
  have hname : HasNoBlank (register.name ++ ":").toList := by
    cases register <;> decide
  have hmark : (register.name ++ ":").toList.head? ≠ some '#' := by
    cases register <;> decide
  have hne : (register.name ++ ":").toList ≠ [] := by simp
  rw [IsField, String.toList_append]
  refine ⟨⟨?_, ?_⟩, ?_⟩
  · exact List.forall_mem_append.mpr ⟨hname, hasNoBlank_of_writesNumber (writesNumber_upper _ _)⟩
  · exact List.append_ne_nil_of_left_ne_nil hne _
  · rw [List.head?_append_of_ne_nil _ hne]
    exact hmark

theorem answers_registers (held : Held) :
    held.Answers .registers ((registersBlock held).lines ++ ["##"]) := by
  have hword : "registers" ∈ keywords .registers := List.mem_cons_self
  have hplain : ∀ line ∈
        held.registers.toList.map fun entry => entry.1.name ++ ":" ++ upper 8 entry.2,
      IsField line ∧ line.toList.head? ≠ some '#' := by
    intro line hline
    obtain ⟨entry, -, rfl⟩ := List.mem_map.mp hline
    exact token_plain entry.1 entry.2
  have hpayload := fun line hline =>
    isPayloadLine_of_word (hplain line hline).1.1 (hplain line hline).2
  -- each payload line is one token
  have htokens : (registersBlock held).payload.flatMap wordsOf = (registersBlock held).payload :=
    flatMap_wordsOf fun line hline => (hplain line hline).1
  have hnone : ∀ field ∈ ([] : List String), IsField field := List.forall_mem_nil _
  refine ⟨registersBlock held, repliesWith_tagged hword hnone hpayload, [], held.registers.toList,
    hasTag_tagged hword hnone _, ?_, held.registers.mem_toList_iff⟩
  rw [htokens, List.nil_append]
  refine List.forall₂_map_left_iff.mpr (List.forall₂_same.mpr fun entry _ => ?_)
  refine ⟨entry.1.name.toList, (upper 8 entry.2).toList, ?_, ?_, writesNumber_upper _ _⟩
  · simp
  · cases entry.1 <;> rfl

theorem answers_memory (held : Held) (window : Window) :
    held.Answers (.memory window)
      ((memoryBlock held window.first window.width).lines ++ ["##"]) := by
  have hword : "mem" ∈ keywords .memory := List.mem_cons_self
  have hfields : ∀ field ∈ [memoryStatus, lower 6 window.first, lower 6 window.width],
      IsField field := by
    have hstatus : IsField memoryStatus := by
      unfold IsField
      decide
    exact List.forall_mem_cons.mpr ⟨hstatus, List.forall_mem_cons.mpr ⟨isField_lower _ _,
      List.forall_mem_singleton.mpr (isField_lower _ _)⟩⟩
  have hdigit : ∀ c ∈ (bytesText held window.first window.width).toList, isDigit c = true := by
    unfold bytesText
    rw [String.toList_ofList]
    intro c hc
    obtain ⟨offset, -, hmem⟩ := List.mem_flatMap.mp hc
    exact isDigit_of_mem_digits hmem
  have hblank : HasNoBlank (bytesText held window.first window.width).toList :=
    fun c hc => isBlank_of_isHexDigit (hdigit c hc)
  have hpayload : ∀ line ∈ [bytesText held window.first window.width], IsPayloadLine line :=
    List.forall_mem_singleton.mpr (isPayloadLine_of_word hblank fun hmark =>
      ne_of_isDigit (hdigit '#' (List.mem_of_mem_head? hmark)) (by decide) rfl)
  have htrim : trimOf (bytesText held window.first window.width) =
      bytesText held window.first window.width := by
    unfold trimOf
    rw [trim_of_hasNoBlank hblank, String.ofList_toList]
  have hsize : (held.dump window).size = window.width := by
    simp [Held.dump, MemoryDump.size]
  refine ⟨memoryBlock held window.first window.width, repliesWith_tagged hword hfields hpayload,
    _, _, [], hasTag_tagged hword hfields _, writesNumber_lower _ _, ?_, ?_⟩
  · rw [hsize]
    exact writesNumber_lower _ _
  · have hshown : ([] ++ (memoryBlock held window.first window.width).payload.map trimOf).flatMap
        String.toList = (held.dump window).bytes.flatMap fun byte => digits 2 byte.toNat := by
      rw [List.nil_append, memoryBlock, tagged, List.map_singleton, htrim, List.flatMap_singleton]
      unfold bytesText Held.dump
      rw [String.toList_ofList, List.flatMap_map]
    rw [hshown]
    exact List.forall₂_same.mpr fun c _ => .inl rfl

theorem writesInstruction_line {told : Instruction} :
    WritesInstruction (instructionLine told).toList told := by
  have hshown := writesNumber_lower 6 told.address
  by_cases htext : told.text.toList = []
  · refine ⟨[' '], [' '], (lower 6 told.address).toList, [], [' '], ?_, ?_, ?_, by simp, hshown,
      .inl ⟨htext, rfl⟩, ?_⟩
    · simp [instructionLine, htext]
    all_goals exact List.forall_mem_singleton.mpr rfl
  · refine ⟨[' '], [' '], (lower 6 told.address).toList, ' ' :: told.text.toList, [], ?_, ?_, ?_,
      by simp, hshown, .inr ⟨htext, [' '], ?_, by simp, rfl⟩, List.forall_mem_nil _⟩
    · simp [instructionLine]
    all_goals exact List.forall_mem_singleton.mpr rfl

theorem isPayloadLine_instruction {told : Instruction} (h : told.IsWritable) :
    IsPayloadLine (instructionLine told) := by
  refine ⟨chompOf_eq_self fun c hc => ?_, by simp [Splitter.isTag, instructionLine, List.isPrefixOf]⟩
  obtain ⟨-, -, -, htext⟩ := h
  have hline : (instructionLine told).toList =
      (" " ++ told.symbol ++ " " ++ lower 6 told.address).toList ++ (' ' :: told.text.toList) := by
    simp [instructionLine]
  rw [hline, List.getLast?_append_of_ne_nil _ (List.cons_ne_nil _ _)] at hc
  by_cases hempty : told.text.toList = []
  · -- the line ends with the blank in front of the text
    rw [hempty] at hc
    cases hc
    rfl
  · rw [← List.singleton_append, List.getLast?_append_of_ne_nil _ hempty] at hc
    exact isLineEnd_of_not_isBlank (htext.2 c hc)

theorem answers_disassembly (held : Held) (window : Window) :
    held.Answers (.disassembly window)
      ((listingBlock held window.first window.width).lines ++ ["##"]) := by
  have hword : "disasm" ∈ keywords .disassembly := List.mem_cons_self
  have hfields : ∀ field ∈ [lower 6 window.first], IsField field :=
    List.forall_mem_singleton.mpr (isField_lower _ _)
  have hwritable := held.instructions_writable window.first window.width
  have hpayload : ∀ line ∈ (held.instructions window.first window.width).map instructionLine,
      IsPayloadLine line := by
    intro line hline
    obtain ⟨told, htold, rfl⟩ := List.mem_map.mp hline
    exact isPayloadLine_instruction (hwritable told htold)
  -- no line is left out, since there is a symbol on each
  have hlines : instructionLines (listingBlock held window.first window.width) =
      (held.instructions window.first window.width).map instructionLine := by
    refine List.filter_eq_self.mpr fun line hline => ?_
    obtain ⟨told, htold, rfl⟩ := List.mem_map.mp hline
    obtain ⟨shown, hline, -⟩ := isLaidOut_of_writes writesInstruction_line (hwritable told htold)
    simpa using trim_ne_nil_of_isLaidOut hline
  refine ⟨listingBlock held window.first window.width, repliesWith_tagged hword hfields hpayload, _,
    [], hasTag_tagged hword hfields _, writesNumber_lower _ _, ?_⟩
  rw [hlines]
  exact List.forall₂_map_left_iff.mpr (List.forall₂_same.mpr fun told _ => writesInstruction_line)

theorem answers_sync (held : Held) (token : SyncToken) :
    held.Answers (.sync token) ["#echo " ++ token.text, "##"] :=
  ⟨[], token.replyLine, ["##"], rfl, .nil, isReply_replyLine token, .ending rfl .nil⟩

/-! ## Faithfulness -/

theorem isAnsweredIn_of_answer {held : Held} {request : Request}
    (h : held.Answers request (answer held request.line)) :
    held.IsAnsweredIn (fun mirror : Mirror => mirror.held = held) request := by
  rintro mirror rfl
  refine ⟨_, mirror, rfl, ?_, ?_, rfl⟩
  · intro text hmem
    obtain ⟨_, -, hline⟩ := List.mem_map.mp hmem
    cases hline
  · rw [linesOf_map_line]
    exact h

/-- The word of a request for a range is read, and so are its numbers. -/
theorem answer_range (held : Held) {word : String} (hword : HasNoBlank word.toList)
    (hecho : word.toList ≠ "echo".toList) {line : String} (window : Window)
    (hline : line.toList = word.toList ++ ' ' :: (Request.range window).toList) :
    answer held line =
      if word.toList = "memory".toList then
        (memoryBlock held window.first window.width).lines ++ ["##"]
      else if word.toList = "disasm".toList then
        (listingBlock held window.first window.width).lines ++ ["##"]
      else [] := by
  unfold answer
  rw [hline, splitAtFirst?_space hword]
  simp only [if_neg hecho, range?_of_range]

/-- A mirror is faithful to what it holds. -/
theorem faithful (held : Held) : held.Faithful (fun mirror : Mirror => mirror.held = held) := by
  refine ⟨fun request hquestion => ?_, fun token => ?_⟩
  · refine isAnsweredIn_of_answer ?_
    cases request with
    | status => exact answers_status held
    | registers => exact answers_registers held
    | memory window =>
      have hblank : HasNoBlank "memory".toList := by decide
      rw [answer_range held hblank (by decide) window (by simp [Request.line]), if_pos rfl]
      exact answers_memory held window
    | disassembly window =>
      have hblank : HasNoBlank "disasm".toList := by decide
      rw [answer_range held hblank (by decide) window (by simp [Request.line]),
        if_neg (by decide), if_pos rfl]
      exact answers_disassembly held window
    | _ => cases hquestion
  · refine isAnsweredIn_of_answer ?_
    have hblank : HasNoBlank "echo".toList := by decide
    have htext : (Request.sync token).line.toList = "echo".toList ++ ' ' :: token.text.toList := by
      simp [Request.line]
    have hanswer : answer held (Request.sync token).line = ["#echo " ++ token.text, "##"] := by
      unfold answer
      rw [htext, splitAtFirst?_space hblank]
      simp only [if_true, String.ofList_toList]
    rw [hanswer]
    exact answers_sync held token

end Mirror

end RemoteDebug
