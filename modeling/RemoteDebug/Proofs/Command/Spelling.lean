import RemoteDebug.Proofs.Command.Arguments

/-!
# What accepted texts look like

Every text that reads as a command spells it: it consists of a word for the command and of its
arguments, in this order (`isSpelled_of_read?`). But the readers skip blanks and do not ask for
them, so the words may have run together. Whether they have shows in their number: an accepted text
is one that the help documents exactly if it has as many words as the help says
(`documents_iff_of_parse`).
-/

namespace RemoteDebug

open RemoteDebug.Text Reader

namespace Command

/-- Whether a text spells a command: as the help documents it, but with or without blanks between a
word and the next. -/
inductive IsSpelled : Command → List Char → Prop
  | tokens {command : Command} {text : List Char} {head : String} {arguments : List (List Char)}
    (htokens : IsSpaced (head.toList :: arguments) text) (hhead : head ∈ command.heads)
    (harguments : command.HasArguments arguments) : IsSpelled command text
  | raw {told : String} {text rest : List Char} (htext : trimStart text = rawWord.toList ++ rest)
    (htold : trim rest = told.toList) (hne : told.toList ≠ []) : IsSpelled (.raw told) text
  | rawShort {told : String} {rest : List Char} (htold : trim rest = told.toList)
    (hne : told.toList ≠ []) : IsSpelled (.raw told) (Command.rawShort.toList ++ rest)

/-- The place of the reader of a command among all of them. -/
def position : Command → Nat
  | move _ => 0
  | views _ => 1
  | focus _ => 2
  | goto _ => 3
  | stepInto => 4
  | stepOver => 5
  | toggle => 6
  | pause => 7
  | resume => 8
  | refresh => 9
  | lines _ => 10
  | follow _ => 11
  | load _ _ => 12
  | save _ _ _ => 13
  | raw _ => 14
  | help _ => 15

/-- The words for the commands of each place. -/
def headTable : List (List String) :=
  [ ["<", "<<", "<<<", ">", ">>", ">>>"], [viewsWord], [focusWord], [gotoWord, gotoShort],
    [stepIntoWord, stepIntoShort], [stepOverWord, stepOverShort], [toggleWord, toggleShort],
    [pauseWord], [resumeWord, resumeShort], [refreshWord, refreshShort], [linesWord], [followWord],
    [loadWord], [saveWord], [rawWord], [helpWord, helpShort] ]

theorem mem_headTable {command : Command} {head : String} (h : head ∈ command.heads) :
    ∃ heads, headTable[command.position]? = some heads ∧ head ∈ heads := by
  cases command with
  | move towards =>
    refine ⟨_, rfl, ?_⟩
    obtain ⟨hmoves, hmem⟩ := List.mem_ite_nil_left.mp h
    obtain rfl := List.mem_singleton.mp hmem
    rcases towards with ⟨_ | _ | _ | _, _ | _⟩ <;> first | exact absurd rfl hmoves | decide
  | _ => exact ⟨_, rfl, h⟩

theorem isWord_of_mem_heads {command : Command} {head : String} (h : head ∈ command.heads) :
    IsWord head.toList ∧ head.toList.head? ≠ some '!' := by
  have htable : ∀ heads ∈ headTable, ∀ head ∈ heads,
      IsWord head.toList ∧ head.toList.head? ≠ some '!' := by decide
  obtain ⟨heads, hheads, hmem⟩ := mem_headTable h
  exact htable heads (List.mem_of_getElem? hheads) head hmem

/-! ## Each reader by itself -/

/-- Whether a reader always finds a word for a command, and behind it the arguments. -/
def FindsCommand (place : Nat) (reader : Reader Command) : Prop :=
  reader.Finds fun command tokens => command.position = place ∧ ∃ head ∈ command.heads,
    ∃ arguments, tokens = head.toList :: arguments ∧ command.HasArguments arguments

/-- Whether a reader always finds arguments of a command that has given words. -/
def FindsArguments (place : Nat) (heads : List String) (reader : Reader Command) : Prop :=
  reader.Finds fun command arguments => command.position = place ∧ command.heads = heads ∧
    command.HasArguments arguments

/-- Whether a reader always finds one of some words. -/
def FindsHead (heads : List String) (reader : Reader Unit) : Prop :=
  reader.FindsWord fun _ token => ∃ head ∈ heads, token = head.toList

theorem findsHead_word {head : String} (hword : IsWord head.toList) :
    FindsHead [head] (word head) := by
  refine (findsWord_word head hword).mono ?_
  rintro _ _ ⟨token, rfl, rfl⟩
  exact ⟨_, rfl, head, List.mem_singleton_self head, rfl⟩

theorem findsHead_eitherWord {long short : String} (hlong : IsWord long.toList)
    (hshort : IsWord short.toList) : FindsHead [long, short] (eitherWord long short) := by
  refine Finds.orElse ((findsWord_word long hlong).mono ?_) ((findsWord_word short hshort).mono ?_)
    <;> rintro _ _ ⟨token, rfl, rfl⟩
  · exact ⟨_, rfl, long, by simp, rfl⟩
  · exact ⟨_, rfl, short, by simp, rfl⟩

variable {place : Nat} {heads : List String} {head : Reader Unit} {reader : Reader Command}

theorem FindsHead.bind (hhead : FindsHead heads head)
    (harguments : FindsArguments place heads reader) :
    FindsCommand place (head >>= fun _ => reader) := by
  refine (Finds.bind hhead fun _ => harguments).mono ?_
  rintro command _ ⟨_, _, arguments, rfl, ⟨_, rfl, word, hword, rfl⟩, hplace, rfl, hargs⟩
  exact ⟨hplace, word, hword, arguments, rfl, hargs⟩

theorem FindsHead.bare (hhead : FindsHead heads head) {command : Command}
    (hplace : command.position = place) (hheads : command.heads = heads)
    (hbare : command.isBare = true) : FindsCommand place (head *> pure command) := by
  refine hhead.bind ((finds_pure command).mono ?_)
  rintro _ _ ⟨rfl, rfl⟩
  exact ⟨hplace, hheads, .bare hbare⟩

theorem FindsHead.map {α : Type} (hhead : FindsHead heads head) {arguments : Reader α}
    {spells : α → List (List Char) → Prop} (harguments : arguments.Finds spells)
    {make : α → Command} (hmake : ∀ a tokens, spells a tokens → (make a).position = place ∧
      (make a).heads = heads ∧ (make a).HasArguments tokens) :
    FindsCommand place (make <$> (head *> arguments)) := by
  have hmade : FindsArguments place heads (arguments >>= fun a => pure (make a)) := by
    refine (harguments.bind fun a => finds_pure (make a)).mono ?_
    rintro _ _ ⟨a, tokens, _, rfl, hspells, rfl, rfl⟩
    rw [List.append_nil]
    exact hmake a tokens hspells
  rw [map_eq_pure_bind, seqRight_eq_bind, bind_assoc]
  exact hhead.bind hmade

theorem findsCommand_arrows : FindsCommand 0 (Command.move <$> arrows) := by
  rw [map_eq_pure_bind]
  refine (findsWord_arrows.bind fun towards => finds_pure (Command.move towards)).mono ?_
  rintro _ _ ⟨towards, _, _, rfl, ⟨_, rfl, hmoves, rfl⟩, rfl, rfl⟩
  refine ⟨rfl, towards.arrows, ?_, [], rfl, .bare rfl⟩
  simp [heads, hmoves]

theorem finds_viewList : viewList.Finds fun views tokens =>
    views ≠ [] ∧ List.Forall₂ IsViewWord views tokens := by
  refine (findsWord_viewName.many.bind fun views => (finds_guard _).bind fun _ =>
    finds_pure views).mono ?_
  rintro _ _ ⟨views, tokens, _, rfl, htokens, _, _, _, rfl, ⟨hne, rfl⟩, rfl, rfl⟩
  rw [List.append_nil, List.append_nil]
  exact ⟨by simpa using hne, htokens⟩

theorem findsCommand_loadReader : FindsCommand 12 loadReader := by
  refine (findsHead_word (by decide)).bind ?_
  refine Finds.mono (findsWord_plainWord.bind fun path =>
    findsWord_address.optional?.bind fun address => finds_pure (Command.load path address)) ?_
  rintro _ _ ⟨path, _, _, rfl, ⟨word, rfl, hpath⟩, _ | address, _, _, rfl, haddress, rfl, rfl⟩
  · cases haddress
    exact ⟨rfl, rfl, .load hpath⟩
  · obtain ⟨start, rfl, hstart⟩ := haddress
    exact ⟨rfl, rfl, .loadAt hpath hstart⟩

theorem findsCommand_saveReader : FindsCommand 13 saveReader := by
  refine (findsHead_word (by decide)).bind ?_
  refine Finds.mono (findsWord_plainWord.bind fun path => findsWord_address.bind fun address =>
    findsWord_hexNumber.bind fun length => finds_pure (Command.save path address length)) ?_
  rintro _ _ ⟨path, _, _, rfl, ⟨word, rfl, hpath⟩, address, _, _, rfl, ⟨start, rfl, haddress⟩,
    length, _, _, rfl, ⟨extent, rfl, hlength⟩, rfl, rfl⟩
  exact ⟨rfl, rfl, .save hpath haddress hlength⟩

theorem findsCommand_helpReader : FindsCommand 15 helpReader := by
  refine Finds.padded ((findsHead_eitherWord (by decide) (by decide)).bind ?_)
  have htopic := takes_identifier.findsWord fun _ _ h => h.2.isWord
  refine Finds.mono (htopic.optional?.bind fun topic =>
    finds_pure (Command.help (topic.map String.ofList))) ?_
  rintro _ _ ⟨_ | topic, _, _, rfl, htopic, rfl, rfl⟩
  · cases htopic
    exact ⟨rfl, rfl, .help⟩
  · obtain ⟨_, rfl, rfl, hidentifier⟩ := htopic
    exact ⟨rfl, rfl, .topic ⟨String.toList_ofList.symm, hidentifier⟩⟩

/-- Texts to be sent as they are stand behind the word or its short form, without the blanks. -/
theorem takes_rawReader : rawReader.Takes fun command taken =>
    command.position = 14 ∧ command.IsSpelled taken := by
  have hheads : (word rawWord <|> exactly Command.rawShort.toList).Takes fun _ taken =>
      IsSpaced [rawWord.toList] taken ∨ taken = Command.rawShort.toList := by
    refine Takes.orElse (Takes.mono (findsWord_word rawWord (by decide)) ?_)
      ((takes_exactly _).mono fun _ _ => .inr)
    rintro _ _ ⟨_, hspaced, _, rfl, rfl⟩
    exact .inl hspaced
  refine Takes.mono (hheads.bind fun _ => (takes_charsWhile _).bind fun rest =>
    (takes_guard (!(trim rest).isEmpty)).bind fun _ =>
      takes_pure (Command.raw (String.ofList (trim rest)))) ?_
  rintro _ _ ⟨_, front, _, rfl, hfront, _, rest, _, rfl, ⟨rfl, -⟩, _, _, _, rfl, ⟨hne, rfl⟩,
    rfl, rfl⟩
  have htold : trim rest = (String.ofList (trim rest)).toList := String.toList_ofList.symm
  have hne : (String.ofList (trim rest)).toList ≠ [] := by simpa using hne
  refine ⟨rfl, ?_⟩
  rw [List.append_nil, List.append_nil]
  rcases hfront with hspaced | rfl
  · obtain ⟨gap, htrim, hgap⟩ := hspaced.exists_trimStart
    refine .raw (htrim rest) ?_ hne
    rw [trim_blanks_append hgap.isBlankText, ← htold]
  · exact .rawShort htold hne

/-! ## All readers -/

/-- What the readers accept spells the command; each reads commands of its own. -/
theorem isSpelled_of_readers : List.Forall₂ (fun place reader => ∀ text command,
    reader.readAll? text = some command → command.position = place ∧ command.IsSpelled text)
    (List.range 16) readers := by
  have hspells {place : Nat} {reader : Reader Command} (h : FindsCommand place reader) :
      ∀ text command, reader.readAll? text = some command →
        command.position = place ∧ command.IsSpelled text := by
    intro text command hread
    obtain ⟨_, htokens, hplace, head, hhead, arguments, rfl, harguments⟩ :=
      Takes.of_readAll? h hread
    exact ⟨hplace, .tokens htokens hhead harguments⟩
  refine .cons (hspells findsCommand_arrows) <| .cons (hspells ?_) <| .cons (hspells ?_) <|
    .cons (hspells ?_) <| .cons (hspells ?_) <| .cons (hspells ?_) <| .cons (hspells ?_) <|
    .cons (hspells ?_) <| .cons (hspells ?_) <| .cons (hspells ?_) <| .cons (hspells ?_) <|
    .cons (hspells ?_) <| .cons (hspells findsCommand_loadReader) <|
    .cons (hspells findsCommand_saveReader) <| .cons ?_ <|
    .cons (hspells findsCommand_helpReader) .nil
  -- the other readers in their order: a head and one kind of arguments, or no arguments
  · refine (findsHead_word (by decide)).map finds_viewList ?_
    exact fun views tokens h => ⟨rfl, rfl, .views h.1 h.2⟩
  · refine (findsHead_word (by decide)).map findsWord_viewName ?_
    rintro view _ ⟨word, rfl, h⟩
    exact ⟨rfl, rfl, .focus h⟩
  · refine (findsHead_eitherWord (by decide) (by decide)).map findsWord_address ?_
    rintro address _ ⟨word, rfl, h⟩
    exact ⟨rfl, rfl, .goto h⟩
  · exact (findsHead_eitherWord (by decide) (by decide)).bare rfl rfl rfl
  · exact (findsHead_eitherWord (by decide) (by decide)).bare rfl rfl rfl
  · exact (findsHead_eitherWord (by decide) (by decide)).bare rfl rfl rfl
  · exact (findsHead_word (by decide)).bare rfl rfl rfl
  · exact (findsHead_eitherWord (by decide) (by decide)).bare rfl rfl rfl
  · exact (findsHead_eitherWord (by decide) (by decide)).bare rfl rfl rfl
  · refine (findsHead_word (by decide)).map findsWord_decimalNumber ?_
    rintro count _ ⟨word, rfl, h⟩
    exact ⟨rfl, rfl, .lines h⟩
  · refine (findsHead_word (by decide)).map findsWord_switch ?_
    rintro on _ ⟨word, rfl, rfl⟩
    exact ⟨rfl, rfl, .follow on⟩
  · exact fun text command hread => takes_rawReader.of_readAll? hread

/-- What the reader at a place accepts spells a command of this place. -/
theorem isSpelled_of_readAll? {place : Nat} {reader : Reader Command} {text : List Char}
    {command : Command} (hreader : readers[place]? = some reader)
    (hread : reader.readAll? text = some command) :
    command.position = place ∧ command.IsSpelled text := by
  obtain ⟨hlength, hspells⟩ := List.forall₂_iff_get.mp isSpelled_of_readers
  obtain ⟨hplace, rfl⟩ := List.getElem?_eq_some_iff.mp hreader
  have h := hspells place (hlength ▸ hplace) hplace text command hread
  rwa [List.get_eq_getElem, List.getElem_range] at h

theorem isSpelled_of_read? {text : List Char} {command : Command} (h : read? text = some command) :
    command.IsSpelled text := by
  obtain ⟨reader, hmem, hread⟩ := List.exists_of_findSome?_eq_some h
  obtain ⟨place, hplace⟩ := List.mem_iff_getElem?.mp hmem
  exact (isSpelled_of_readAll? hplace hread).2

theorem parse_eq_ok_iff {line : String} {command : Command} :
    parse line = .ok command ↔ read? line.toList = some command := by
  unfold parse
  cases read? line.toList <;> simp

/-! ## Words that have run together -/

theorem trimStart_of_bang {text : List Char} (h : text.head? = some '!') : trimStart text = text :=
  trimStart_blanks (List.forall_mem_nil _) fun c hc => by
    cases Option.mem_unique hc h
    rfl

/-- A text that starts with another word does not start with the short form of `rawWord`. -/
theorem head?_ne_of_trimStart {text token rest : List Char} (hword : IsWord token)
    (hnot : token.head? ≠ some '!') (htrim : trimStart text = token ++ rest) :
    text.head? ≠ some '!' := by
  intro hbang
  rw [← trimStart_of_bang hbang, htrim, List.head?_append_of_ne_nil _ hword.2] at hbang
  exact hnot hbang

/-- A text that spells a command is one that the help documents, unless words have run together. -/
theorem documents_iff_of_isSpelled {command : Command} {text : List Char}
    (h : command.IsSpelled text) : command.Documents text ↔
      text.head? = some '!' ∨ (words text).length = command.wordCount := by
  cases h with
  | @tokens _ _ head arguments htokens hhead harguments =>
    have hcount := harguments.length_eq
    constructor
    · rintro (⟨hwords, -, hothers⟩ | _ | _)
      · rw [hwords, List.length_cons, hothers.length_eq]
        exact .inr rfl
      · cases harguments with
        | bare hbare => cases hbare
      · exact .inl rfl
    · rintro (hbang | hlength)
      · obtain ⟨hword, hnot⟩ := isWord_of_mem_heads hhead
        obtain ⟨rest, htrim, -⟩ := htokens.exists_trimStart
        have htext := htrim []
        rw [List.append_nil] at htext
        exact absurd hbang (head?_ne_of_trimStart hword hnot htext)
      · refine .words (htokens.words_eq ?_) hhead harguments
        rw [hlength, List.length_cons, hcount]
  | @raw told _ rest htext htold hne =>
    have hword : IsWord rawWord.toList := by decide
    have hwords : words text = words (rawWord.toList ++ rest) := by
      rw [← htext, words_trimStart]
    have hcount : (Command.raw told).wordCount = (words rest).length + 1 := by
      rw [← words_trim rest, htold]
      exact congrArg (· + 1) (List.length_map _)
    by_cases hgap : StartsBlank rest
    · refine ⟨fun _ => .inr ?_, fun _ => .raw htext hgap htold hne⟩
      rw [hwords, hword.words_append hgap, hcount, List.length_cons]
    · have hbang := head?_ne_of_trimStart hword (by decide) htext
      constructor
      · rintro (⟨-, -, hothers⟩ | ⟨hother, hblank, -⟩ | _)
        · cases hothers with
          | bare hbare => cases hbare
        · rw [htext, List.append_cancel_left_eq] at hother
          exact absurd (hother ▸ hblank) hgap
        · exact absurd rfl hbang
      · -- the word has run together with the first one behind it
        rintro (h | hlength)
        · exact absurd h hbang
        · obtain ⟨next, others, hnext, htogether⟩ := words_append_of_not_startsBlank hword.1 hgap
          rw [hwords, htogether, hcount, hnext] at hlength
          simp at hlength
  | rawShort htold hne => exact ⟨fun _ => .inl rfl, fun _ => .rawShort htold hne⟩

/-- An accepted text is one that the help documents exactly if it has as many words as the help
says, or is a text to be sent behind the short form of `rawWord`. -/
theorem documents_iff_of_parse {line : String} {command : Command}
    (h : parse line = .ok command) : command.Documents line.toList ↔
      line.toList.head? = some '!' ∨ (wordsOf line).length = command.wordCount := by
  unfold wordsOf
  rw [List.length_map]
  exact documents_iff_of_isSpelled (isSpelled_of_read? (parse_eq_ok_iff.mp h))

/-- A text with each word for itself is one that the help documents. -/
theorem documents_load :
    parse " load prg.bin  $10000" = .ok (.load "prg.bin" (some 0x10000)) ∧
      (Command.load "prg.bin" (some 0x10000)).Documents " load prg.bin  $10000".toList := by
  have hparse : parse " load prg.bin  $10000" = .ok (.load "prg.bin" (some 0x10000)) := by
    decide +kernel
  exact ⟨hparse, (documents_iff_of_parse hparse).mpr (.inr (by decide +kernel))⟩

/-- A number with too many digits is taken for two numbers. -/
theorem digits_run_together :
    parse "save ram.bin 000100000400" = .ok (.save "ram.bin" 0x10000 0x400) ∧
      ¬(Command.save "ram.bin" 0x10000 0x400).Documents "save ram.bin 000100000400".toList := by
  refine ⟨by decide +kernel, ?_⟩
  have hlength : (words "save ram.bin 000100000400".toList).length = 3 := by decide +kernel
  rintro ⟨hwords, -, harguments⟩
  rw [hwords, List.length_cons, harguments.length_eq] at hlength
  cases hlength

end Command

end RemoteDebug
