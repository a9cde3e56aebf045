import RemoteDebug.Proofs.Command.Spelling

/-!
# Documented texts are accepted

Every text that the help documents for a command reads as this command (`read?_of_documents`). Its
own reader reads it; that no reader before takes it comes down to the words for the commands: of
these, one starts a word for a later command only where it stands for a command without arguments
(`headTable_prefix`).
-/

namespace RemoteDebug

open RemoteDebug.Text Reader

namespace Command

/-! ## Each reader by itself -/

theorem reads_eitherWord {long short head : String} (hhead : head ∈ [long, short])
    (hlong : HasNoBlank long.toList) (hstarts : ¬long.toList <+: short.toList) :
    (eitherWord long short).Reads [head.toList] () := by
  rcases List.mem_pair.mp hhead with rfl | rfl
  · exact (reads_word head).orElse _
  · exact Reads.orElse_of_rejects (rejects_word hlong hstarts) (reads_word head)

theorem readAll?_bare {head : Reader Unit} {token text : List Char} (h : head.Reads [token] ())
    (hwords : words text = [token]) (command : Command) :
    (head *> pure command).readAll? text = some command := by
  rw [seqRight_eq_bind]
  exact h.readAll?_bind (finishes_pure command) hwords

theorem readAll?_map {α : Type} {head : Reader Unit} {token text : List Char}
    {tokens : List (List Char)} {arguments : Reader α} {a : α} (h : head.Reads [token] ())
    (harguments : arguments.Finishes tokens a) (make : α → Command)
    (hwords : words text = token :: tokens) :
    (make <$> (head *> arguments)).readAll? text = some (make a) := by
  rw [map_eq_pure_bind, seqRight_eq_bind, bind_assoc]
  exact h.readAll?_bind (harguments.bind (finishes_pure (make a))) hwords

theorem finishes_viewList {views : List View} {tokens : List (List Char)} (hne : views ≠ [])
    (h : List.Forall₂ IsViewWord views tokens) : viewList.Finishes tokens views := by
  have hguard : (!views.isEmpty) = true := by simpa using hne
  exact (finishes_many rfl (fun _ _ => reads_viewName) h).bind
    ((finishes_guard hguard).bind (finishes_pure views))

theorem readAll?_loadReader {text : List Char} {path : String} {address : Option Nat}
    {arguments : List (List Char)} (hwords : words text = loadWord.toList :: arguments)
    (harguments : (Command.load path address).HasArguments arguments) :
    loadReader.readAll? text = some (.load path address) := by
  refine (reads_word loadWord).readAll?_bind ?_ hwords
  cases harguments with
  | bare hbare => cases hbare
  | load hpath =>
    exact (reads_plainWord hpath).finishes_bind
      ((finishes_optional?_nil rfl).bind (finishes_pure (Command.load path none)))
  | @loadAt _ address _ _ hpath haddress =>
    exact (reads_plainWord hpath).finishes_bind
      ((reads_address haddress).finishes.optional?.bind (finishes_pure
        (Command.load path (some address))))

theorem readAll?_saveReader {text : List Char} {path : String} {address length : Nat}
    {arguments : List (List Char)} (hwords : words text = saveWord.toList :: arguments)
    (harguments : (Command.save path address length).HasArguments arguments) :
    saveReader.readAll? text = some (.save path address length) := by
  refine (reads_word saveWord).readAll?_bind ?_ hwords
  cases harguments with
  | bare hbare => cases hbare
  | save hpath haddress hlength =>
    exact (reads_plainWord hpath).finishes_bind ((reads_address haddress).finishes_bind
      ((reads_hexNumber hlength).finishes_bind (finishes_pure (Command.save path address length))))

theorem readAll?_helpReader {text : List Char} {topic : Option String} {head : String}
    {arguments : List (List Char)} (hhead : head ∈ [helpWord, helpShort])
    (hwords : words text = head.toList :: arguments)
    (harguments : (Command.help topic).HasArguments arguments) :
    helpReader.readAll? text = some (.help topic) := by
  obtain ⟨rest, hread, htrim, hrest⟩ :=
    reads_eitherWord hhead (by decide) (by decide) ((words_trimStart text).trans hwords)
  -- what the reader leaves are blanks, which the padding takes
  have hinside : ∃ trail, words trail = [] ∧ (do
      let topic ← optional? identifier
      return Command.help (topic.map String.ofList) : Reader Command) rest =
        some (.help topic, trail) := by
    cases harguments with
    | bare hbare => cases hbare
    | help =>
      cases trimStart_eq_nil_of_words hrest htrim
      exact ⟨[], rfl, rfl⟩
    | @topic topic _ htopic =>
      obtain ⟨rfl, hidentifier⟩ := htopic
      obtain ⟨trail, hparts, -, hgap, htrail⟩ := exists_trimStart_of_words hrest
      refine ⟨trail, htrail, ?_⟩
      rw [← htrim, hparts,
        bind_of_eq_some (optional?_of_eq_some (lexes_identifier hidentifier hgap)),
        Option.map_some, String.ofList_toList]
      rfl
  obtain ⟨trail, htrail, hinside⟩ := hinside
  have hend : trimStart trail = [] :=
    trimStart_eq_nil_of_words ((words_trimStart trail).trans htrail) (trimStart_trimStart trail)
  have hpadded : helpReader text = some (.help topic, trimStart trail) := by
    have hblanks : blanks text = some ((), trimStart text) := rfl
    refine (bind_of_eq_some hblanks _).trans ?_
    refine (bind_of_eq_some ((bind_of_eq_some hread _).trans hinside) _).trans ?_
    rfl
  unfold readAll?
  rw [bind_of_eq_some hpadded, hend]
  rfl

theorem readAll?_rawReader {text rest : List Char} {told : String}
    (hhead : (word rawWord <|> exactly Command.rawShort.toList) text = some ((), rest))
    (htold : trim rest = told.toList) (hne : told.toList ≠ []) :
    rawReader.readAll? text = some (.raw told) := by
  have hall : charsWhile (fun _ => true) rest = some (rest, []) := by
    simp [charsWhile]
  have hguard : (!(trim rest).isEmpty) = true := by simpa [htold] using hne
  have hread : rawReader text = some (.raw told, []) := by
    refine (bind_of_eq_some hhead _).trans ((bind_of_eq_some hall _).trans ?_)
    show ((if (!(trim rest).isEmpty) = true then pure () else failure : Reader Unit) >>= fun _ =>
      pure (Command.raw (String.ofList (trim rest)))) [] = _
    rw [if_pos hguard, htold, String.ofList_toList]
    rfl
  unfold readAll?
  rw [bind_of_eq_some hread]
  rfl

/-- A word for a command and its arguments are read by the reader of the command. -/
theorem readAll?_of_words {command : Command} {text : List Char} {head : String}
    {arguments : List (List Char)} (hwords : words text = head.toList :: arguments)
    (hhead : head ∈ command.heads) (harguments : command.HasArguments arguments) :
    ∃ reader, readers[command.position]? = some reader ∧
      reader.readAll? text = some command := by
  have hbare (h : command.isBare = true) : arguments = [] := by
    cases harguments <;> first | rfl | cases h
  cases command with
  | move towards =>
    obtain ⟨hmoves, hmem⟩ := List.mem_ite_nil_left.mp hhead
    obtain rfl := List.mem_singleton.mp hmem
    cases hbare rfl
    refine ⟨_, rfl, ?_⟩
    rw [map_eq_pure_bind]
    refine (reads_arrows (by simpa using hmoves)).readAll?_bind ?_ hwords
    exact finishes_pure (move towards)
  | views =>
    obtain rfl := List.mem_singleton.mp hhead
    cases harguments with
    | bare h => cases h
    | views hne hviews =>
      exact ⟨_, rfl, readAll?_map (reads_word _) (finishes_viewList hne hviews) _ hwords⟩
  | focus =>
    obtain rfl := List.mem_singleton.mp hhead
    cases harguments with
    | bare h => cases h
    | focus hview =>
      exact ⟨_, rfl, readAll?_map (reads_word _) (reads_viewName hview).finishes _ hwords⟩
  | goto =>
    cases harguments with
    | bare h => cases h
    | goto haddress =>
      exact ⟨_, rfl, readAll?_map (reads_eitherWord hhead (by decide) (by decide))
        (reads_address haddress).finishes _ hwords⟩
  | stepInto | stepOver | toggle | resume | refresh =>
    cases hbare rfl
    exact ⟨_, rfl, readAll?_bare (reads_eitherWord hhead (by decide) (by decide)) hwords _⟩
  | pause =>
    obtain rfl := List.mem_singleton.mp hhead
    cases hbare rfl
    exact ⟨_, rfl, readAll?_bare (reads_word _) hwords _⟩
  | lines =>
    obtain rfl := List.mem_singleton.mp hhead
    cases harguments with
    | bare h => cases h
    | lines hcount =>
      exact ⟨_, rfl, readAll?_map (reads_word _) (reads_decimalNumber hcount).finishes _ hwords⟩
  | follow on =>
    obtain rfl := List.mem_singleton.mp hhead
    cases harguments with
    | bare h => cases h
    | follow => exact ⟨_, rfl, readAll?_map (reads_word _) (reads_switch on).finishes _ hwords⟩
  | load =>
    obtain rfl := List.mem_singleton.mp hhead
    exact ⟨_, rfl, readAll?_loadReader hwords harguments⟩
  | save =>
    obtain rfl := List.mem_singleton.mp hhead
    exact ⟨_, rfl, readAll?_saveReader hwords harguments⟩
  | raw =>
    cases harguments with
    | bare h => cases h
  | help => exact ⟨_, rfl, readAll?_helpReader hhead hwords harguments⟩

/-- What the help documents for a command is read by the reader of the command. -/
theorem readAll?_of_documents {command : Command} {text : List Char}
    (h : command.Documents text) : ∃ reader, readers[command.position]? = some reader ∧
      reader.readAll? text = some command := by
  cases h with
  | words hwords hhead harguments => exact readAll?_of_words hwords hhead harguments
  | @raw _ _ rest htext hgap htold hne =>
    have hword : word rawWord text = some ((), trimStart rest) := by
      rw [word, padded_apply, htext, bind_of_eq_some (lexes_exactly rawWord.toList hgap)]
      rfl
    refine ⟨rawReader, rfl, readAll?_rawReader (orElse_of_eq_some hword _) ?_ hne⟩
    rw [trim_trimStart, htold]
  | @rawShort _ rest htold hne =>
    refine ⟨rawReader, rfl, readAll?_rawReader ?_ htold hne⟩
    exact (orElse_of_eq_none rfl _).trans rfl

/-! ## Readers that are tried before -/

/-- A word for a command starts one for a later command only if it is another word and the command
takes no arguments. -/
theorem headTable_prefix : ∀ later ∈ List.range 16, ∀ earlier ∈ List.range later,
    ∀ head ∈ headTable.getD later [], ∀ other ∈ headTable.getD earlier [],
      other.toList <+: head.toList → other ≠ head ∧ earlier ∈ [4, 9] := by
  decide +kernel

theorem isBare_of_position {command : Command} (h : command.position ∈ [4, 9]) :
    command.isBare = true := by
  cases command <;> simp_all [position, isBare]

theorem position_lt (command : Command) : command.position < 16 := by
  cases command <;> simp [position]

theorem prefix_of_heads {command other : Command} {head start : String}
    (hplace : other.position < command.position) (hhead : head ∈ command.heads)
    (hstart : start ∈ other.heads) (hstarts : start.toList <+: head.toList) :
    start ≠ head ∧ other.isBare = true := by
  have hmem {command : Command} {head : String} (h : head ∈ command.heads) :
      head ∈ headTable.getD command.position [] := by
    obtain ⟨heads, hheads, hmem⟩ := mem_headTable h
    rwa [List.getD_eq_getElem?_getD, hheads]
  obtain ⟨hne, hbare⟩ := headTable_prefix _ (List.mem_range.mpr (position_lt command)) _
    (List.mem_range.mpr hplace) head (hmem hhead) start (hmem hstart) hstarts
  exact ⟨hne, isBare_of_position hbare⟩

/-- A documented text starts with a word for the command, or is sent as it is. -/
theorem exists_head_of_documents {command : Command} {text : List Char}
    (h : command.Documents text) : (text.head? = some '!' ∧ command.position = 14) ∨
      ∃ head ∈ command.heads, ∃ rest, trimStart text = head.toList ++ rest ∧ StartsBlank rest := by
  cases h with
  | words hwords hhead _ =>
    obtain ⟨rest, htrim, -, hgap, -⟩ := exists_trimStart_of_words hwords
    exact .inr ⟨_, hhead, rest, htrim, hgap⟩
  | raw htext hgap _ _ => exact .inr ⟨rawWord, List.mem_singleton_self _, _, htext, hgap⟩
  | rawShort => exact .inl ⟨rfl, rfl⟩

/-- So does a text that spells a command, though the word may go on. -/
theorem exists_head_of_isSpelled {command : Command} {text : List Char}
    (h : command.IsSpelled text) : (text.head? = some '!' ∧ command.position = 14) ∨
      ∃ head ∈ command.heads, ∃ rest, trimStart text = head.toList ++ rest ∧
        (command.isBare = true → IsBlankText rest) := by
  cases h with
  | @tokens _ _ head arguments htokens hhead harguments =>
    obtain ⟨rest, htrim, hrest⟩ := htokens.exists_trimStart
    refine .inr ⟨head, hhead, rest, by simpa using htrim [], fun hbare => ?_⟩
    have hnone : arguments = [] := by
      cases harguments <;> first | rfl | cases hbare
    cases hnone
    exact hrest.isBlankText
  | raw htext _ _ =>
    exact .inr ⟨rawWord, List.mem_singleton_self _, _, htext, fun hbare => by cases hbare⟩
  | rawShort => exact .inl ⟨rfl, rfl⟩

/-- No text that the help documents for a command spells one that is tried before. -/
theorem not_isSpelled_of_documents {command other : Command} {text : List Char}
    (h : command.Documents text) (hplace : other.position < command.position) :
    ¬other.IsSpelled text := by
  intro hspelled
  have hnot {command : Command} {head : String} {rest : List Char} (hhead : head ∈ command.heads)
      (htrim : trimStart text = head.toList ++ rest) : text.head? ≠ some '!' :=
    head?_ne_of_trimStart (isWord_of_mem_heads hhead).1 (isWord_of_mem_heads hhead).2 htrim
  rcases exists_head_of_documents h with ⟨hbang, hraw⟩ | ⟨head, hhead, rest, htrim, hgap⟩ <;>
    rcases exists_head_of_isSpelled hspelled with
      ⟨hbang', hraw'⟩ | ⟨start, hstart, behind, htrim', hbare⟩
  · omega
  · exact hnot hstart htrim' hbang
  · exact hnot hhead htrim hbang'
  · have hstarts : start.toList <+: head.toList ++ rest := ⟨behind, by rw [← htrim', htrim]⟩
    obtain ⟨hne, hnone⟩ := prefix_of_heads hplace hhead hstart
      (prefix_of_prefix_append (isWord_of_mem_heads hstart).1.1 hgap hstarts)
    -- both words are the first one of the text
    have hwords := (isWord_of_mem_heads hhead).1.words_append hgap
    have hblank := hbare hnone
    rw [← htrim, htrim', (isWord_of_mem_heads hstart).1.words_append hblank.startsBlank] at hwords
    exact hne (String.toList_inj.mp (List.cons.inj hwords).1)

/-- Every text that the help documents for a command reads as this command. -/
theorem read?_of_documents {command : Command} {text : List Char} (h : command.Documents text) :
    read? text = some command := by
  obtain ⟨reader, hreader, hread⟩ := readAll?_of_documents h
  obtain ⟨hlt, rfl⟩ := List.getElem?_eq_some_iff.mp hreader
  refine List.findSome?_eq_some_iff.mpr ⟨readers.take command.position, _,
    readers.drop (command.position + 1), ?_, hread, ?_⟩
  · rw [← List.drop_eq_getElem_cons, List.take_append_drop]
  · intro earlier hmem
    obtain ⟨place, hplace⟩ := List.mem_iff_getElem?.mp hmem
    rw [List.getElem?_take] at hplace
    obtain ⟨hlt', hplace⟩ := Option.ite_none_right_eq_some.mp hplace
    rw [Option.eq_none_iff_forall_ne_some]
    intro other hother
    obtain ⟨rfl, hspelled⟩ := isSpelled_of_readAll? hplace hother
    exact not_isSpelled_of_documents h hlt' hspelled

/-! ## All documented texts -/

/-- Whether a text is an identifier of ASCII characters. -/
def IsAsciiIdentifier (text : List Char) : Prop :=
  ∃ first rest, text = first :: rest ∧ (first.isAlpha = true ∨ first = '_') ∧
    ∀ c ∈ rest, c.isAlphanum = true ∨ c = '_'

theorem toNat_lt_of_isAlphanum {c : Char} (h : c.isAlphanum = true) : c.toNat < 0x80 := by
  have hbelow (last : Char) (h : c.val ≤ last.val) (hlast : last.toNat < 0x80) : c.toNat < 0x80 :=
    Nat.lt_of_le_of_lt (UInt32.le_iff_toNat_le.mp h) hlast
  rcases Bool.or_eq_true_iff.mp h with halpha | hdigit
  · rcases Bool.or_eq_true_iff.mp halpha with hupper | hlower
    · exact hbelow 'Z' (of_decide_eq_true hupper).2 (by decide)
    · exact hbelow 'z' (of_decide_eq_true (Bool.and_eq_true_iff.mp hlower).2) (by decide)
  · exact hbelow '9' (of_decide_eq_true (Bool.and_eq_true_iff.mp hdigit).2) (by decide)

theorem isIdentifier_of_ascii {text : List Char} (h : IsAsciiIdentifier text)
    (hletter : text.head? ≠ some '_') : IsIdentifier text := by
  obtain ⟨first, rest, rfl, hfirst, hrest⟩ := h
  have halpha : first.isAlpha = true :=
    hfirst.resolve_right fun hunderscore => hletter (congrArg some hunderscore)
  refine ⟨first, rest, rfl, ?_, fun c hc => ?_⟩
  · unfold isIdentifierStart
    rw [if_pos (toNat_lt_of_isAlphanum (by rw [Char.isAlphanum, halpha, Bool.true_or])), halpha]
  · unfold isIdentifierRest
    rcases hrest c hc with halphanum | rfl
    · rw [if_pos (toNat_lt_of_isAlphanum halphanum), halphanum, Bool.true_or]
    · rfl

/-- Hexadecimal digits of either case, with or without zeros in front and with any mark, write a
number as the help documents it. -/
theorem isNumberWord_of_sameDigits {mark digits : List Char} {width value : Nat}
    (hmark : mark ∈ numberMarks) (hdigits : Hex.SameDigits digits (Hex.digits width value))
    (hlength : digits.length ≤ 8) : IsNumberWord value (mark ++ digits) :=
  ⟨mark, hmark, digits, rfl, hlength, Hex.read?_of_sameDigits hdigits⟩

/-- What the help documents for a command is understood as this command. The topics are the
identifiers, of ASCII those that start with a letter; numbers are written in up to eight
hexadecimal digits of either case. -/
theorem documented_texts_are_understood :
    (∀ (command : Command) (line : String), command.Documents line.toList →
      parse line = .ok command) ∧
    (∀ topic : String, IsAsciiIdentifier topic.toList → topic.toList.head? ≠ some '_' →
      (Command.help (some topic)).HasArguments [topic.toList]) ∧
    (∀ (value width : Nat) (mark digits : List Char), mark ∈ numberMarks →
      Hex.SameDigits digits (Hex.digits width value) → digits.length ≤ 8 →
      IsNumberWord value (mark ++ digits)) :=
  ⟨fun _ _ h => parse_eq_ok_iff.mpr (read?_of_documents h),
    fun _ hascii hletter => .topic ⟨rfl, isIdentifier_of_ascii hascii hletter⟩,
    fun _ _ _ _ => isNumberWord_of_sameDigits⟩

/-- An address with zeros in front and digits of both cases is understood. -/
theorem goto_is_understood :
    (Command.goto 0xFC0030).Documents " g \t0X00fC0030 ".toList ∧
      parse " g \t0X00fC0030 " = .ok (.goto 0xFC0030) := by
  have haddress : IsAddressWord 0xFC0030 "0X00fC0030".toList :=
    ⟨⟨['0', 'X'], by decide, "00fC0030".toList, by decide, by decide, by decide +kernel⟩, by decide⟩
  have hwords : words " g \t0X00fC0030 ".toList = gotoShort.toList :: ["0X00fC0030".toList] := by
    decide +kernel
  have hdocuments : (Command.goto 0xFC0030).Documents " g \t0X00fC0030 ".toList :=
    .words hwords (by decide) (.goto haddress)
  exact ⟨hdocuments, documented_texts_are_understood.1 _ _ hdocuments⟩

/-- An identifier that starts with an underscore is no topic. -/
theorem underscore_starts_no_topic :
    IsAsciiIdentifier "_x".toList ∧ wordsOf "help _x" = ["help", "_x"] ∧
      parse "help _x" = .error .notUnderstood := by
  refine ⟨⟨'_', ['x'], by decide, .inr rfl, ?_⟩, by decide +kernel, by decide +kernel⟩
  exact List.forall_mem_singleton.mpr (.inl rfl)

end Command

end RemoteDebug
