import RemoteDebug.Proofs.Command.Acceptance
import RemoteDebug.Proofs.Command.ParallelReading

/-!
# Blanks around a command

Every reader of a command pads each of its parts, except for the short form of `rawWord`: that one
has to stand at the very start of the line. So what a line reads as depends on the line without the
blanks at its ends, and on whether it starts with the short form (`read?_congr`). Blanks behind a
line never change a command, and blanks in front of it do so exactly if the line is a text to be sent
behind the short form (`padding_makes_no_difference_iff`).
-/

namespace RemoteDebug

open RemoteDebug.Text Reader

namespace Reader

/-! ## Words, numbers and names -/

theorem readsAlike_word {expected : String} (hexpected : HasNoBlank expected.toList) :
    (word expected).ReadsAlike SameTrimmed SameFromStart :=
  (readsAlike_exactly hexpected).padded

theorem readsAlike_identifier : identifier.ReadsAlike SameUpToEnd SameUpToEnd := by
  have hfirst : (char isIdentifierStart).ReadsAlike SameUpToEnd SameUpToEnd :=
    readsAlike_char fun c hc => (not_isIdentifier_of_isBlank hc).1
  have hrest : (charsWhile isIdentifierRest).ReadsAlike SameUpToEnd SameUpToEnd :=
    readsAlike_charsWhile fun c hc => (not_isIdentifier_of_isBlank hc).2
  exact hfirst.bind fun first => hrest.bind fun rest => readsAlike_pure (first :: rest)

theorem isDigit_of_isBlank {c : Char} (h : isBlank c = true) : Hex.isDigit c = false := by
  rw [Bool.eq_false_iff]
  intro hdigit
  rw [Decode.isBlank_of_isHexDigit hdigit] at h
  cases h

/-- The digits up to the limit are the same whatever blanks stand behind them. -/
theorem readsAlike_hexDigits : hexDigits.ReadsAlike SameUpToEnd SameUpToEnd := by
  intro text other htexts
  obtain ⟨core, ends, others, rfl, rfl, hends, hothers⟩ := htexts.exists_core
  have hdigits {ends : List Char} (hends : IsBlankText ends) :
      ((core ++ ends).take hexDigitLimit).takeWhile Hex.isDigit =
        (core.take hexDigitLimit).takeWhile Hex.isDigit := by
    rw [List.take_append]
    apply takeWhile_append_blanks (fun c hc => isDigit_of_isBlank hc)
    intro c hc
    exact hends c (List.mem_of_mem_take hc)
  have hlength : ((core.take hexDigitLimit).takeWhile Hex.isDigit).length ≤ core.length :=
    Nat.le_trans (List.takeWhile_prefix _).length_le (List.take_prefix _ _).length_le
  unfold hexDigits
  dsimp only
  rw [hdigits hends, hdigits hothers, List.drop_append_of_le_length hlength,
    List.drop_append_of_le_length hlength]
  cases Hex.read? ((core.take hexDigitLimit).takeWhile Hex.isDigit) with
  | none => exact .inl ⟨rfl, rfl⟩
  | some value => exact .inr ⟨value, _, _, rfl, rfl, sameUpToEnd_append _ hends hothers⟩

theorem readsAlike_hexNumber : hexNumber.ReadsAlike SameTrimmed SameFromStart := by
  have hmark : (exactly ['0', 'x'] <|> exactly ['0', 'X'] <|> exactly ['$']).ReadsAlike
      SameUpToEnd SameUpToEnd :=
    (readsAlike_exactly (by decide)).orElse
      ((readsAlike_exactly (by decide)).orElse (readsAlike_exactly (by decide)))
  exact (hmark.optional?.bind fun _ => readsAlike_hexDigits).padded

theorem isDecimalDigit_of_isBlank {c : Char} (h : isBlank c = true) :
    isDecimalDigit c = false := by
  rw [Bool.eq_false_iff]
  intro hdigit
  rw [isBlank_of_isDigit c hdigit] at h
  cases h

theorem readsAlike_decimalNumber : decimalNumber.ReadsAlike SameTrimmed SameFromStart := by
  have hfirst : (char fun c => isDecimalDigit c && c != '0').ReadsAlike SameUpToEnd SameUpToEnd :=
    readsAlike_char fun c hc => by rw [isDecimalDigit_of_isBlank hc, Bool.false_and]
  have hrest : (charsWhile isDecimalDigit).ReadsAlike SameUpToEnd SameUpToEnd :=
    readsAlike_charsWhile fun c hc => isDecimalDigit_of_isBlank hc
  have hzero : (exactly ['0']).ReadsAlike SameUpToEnd SameUpToEnd := readsAlike_exactly (by decide)
  have hdigits : decimalDigits.ReadsAlike SameUpToEnd SameUpToEnd :=
    (hfirst.bind fun first => hrest.bind fun rest => readsAlike_pure (first :: rest)).orElse
      (hzero.bind fun _ => readsAlike_pure ['0'])
  exact (hdigits.bind fun digits => (readsAlike_guard _).bind fun _ =>
    readsAlike_pure (decimalValue digits)).padded

theorem readsAlike_plainWord : plainWord.ReadsAlike SameTrimmed SameFromStart := by
  have hchars : (charsWhile fun c => !isBlank c).ReadsAlike SameUpToEnd SameUpToEnd :=
    readsAlike_charsWhile fun c hc => by rw [hc, Bool.not_true]
  have hsome : (someChars fun c => !isBlank c).ReadsAlike SameUpToEnd SameUpToEnd :=
    hchars.bind fun chars => (readsAlike_guard _).bind fun _ => readsAlike_pure chars
  exact (hsome.bind fun chars => readsAlike_pure (String.ofList chars)).padded

end Reader

namespace Command

/-! ## Arguments -/

theorem readsAlike_eitherWord {long short : String} (hlong : HasNoBlank long.toList)
    (hshort : HasNoBlank short.toList) :
    (eitherWord long short).ReadsAlike SameTrimmed SameFromStart :=
  (readsAlike_word hlong).orElse (readsAlike_word hshort)

theorem readsAlike_address : address.ReadsAlike SameTrimmed SameFromStart :=
  readsAlike_hexNumber.bind fun address => (readsAlike_guard _).bind fun _ =>
    readsAlike_pure address

theorem readsAlike_viewName : viewName.ReadsAlike SameTrimmed SameFromStart :=
  (readsAlike_identifier.bind fun _ => readsAlike_lift _).padded

theorem readsAlike_arrows : arrows.ReadsAlike SameTrimmed SameFromStart := by
  have harrows {expected : List Char} (hexpected : HasNoBlank expected) (move : Move) :
      (exactly expected *> pure move : Reader Move).ReadsAlike SameUpToEnd SameUpToEnd :=
    (readsAlike_exactly hexpected).seqRight (readsAlike_pure move)
  apply ReadsAlike.padded
  exact (harrows (by decide) _).orElse <| (harrows (by decide) _).orElse <|
    (harrows (by decide) _).orElse <| (harrows (by decide) _).orElse <|
    (harrows (by decide) _).orElse (harrows (by decide) _)

theorem readsAlike_switch : switch.ReadsAlike SameTrimmed SameFromStart :=
  ((readsAlike_word (by decide)).seqRight (readsAlike_pure true)).orElse
    ((readsAlike_word (by decide)).seqRight (readsAlike_pure false))

theorem readsAlike_viewList : viewList.ReadsAlike SameFromStart SameFromStart :=
  (readsAlike_viewName.fromStart.many findsWord_viewName.advances).bind fun views =>
    (readsAlike_guard _).bind fun _ => readsAlike_pure views

/-! ## Commands -/

theorem readsAlike_bare {head : Reader Unit} (h : head.ReadsAlike SameTrimmed SameFromStart)
    (command : Command) : (head *> pure command).ReadsAlike SameTrimmed SameFromStart :=
  h.seqRight (readsAlike_pure command)

theorem readsAlike_map {α : Type} {head : Reader Unit} {arguments : Reader α}
    (h : head.ReadsAlike SameTrimmed SameFromStart)
    (harguments : arguments.ReadsAlike SameFromStart SameFromStart) (make : α → Command) :
    (make <$> (head *> arguments)).ReadsAlike SameTrimmed SameFromStart :=
  (h.seqRight harguments).map make

theorem readsAlike_loadReader : loadReader.ReadsAlike SameTrimmed SameFromStart :=
  (readsAlike_word (by decide)).bind fun _ => readsAlike_plainWord.fromStart.bind fun _ =>
    readsAlike_address.fromStart.optional?.bind fun _ => readsAlike_pure _

theorem readsAlike_saveReader : saveReader.ReadsAlike SameTrimmed SameFromStart :=
  (readsAlike_word (by decide)).bind fun _ => readsAlike_plainWord.fromStart.bind fun _ =>
    readsAlike_address.fromStart.bind fun _ => readsAlike_hexNumber.fromStart.bind fun _ =>
      readsAlike_pure _

theorem readsAlike_helpReader : helpReader.ReadsAlike SameTrimmed SameFromStart := by
  have hhead : (eitherWord helpWord helpShort).ReadsAlike SameUpToEnd SameUpToEnd :=
    (readsAlike_eitherWord (by decide) (by decide)).mono (fun _ _ => SameUpToEnd.sameTrimmed)
      fun _ _ => SameFromStart.sameUpToEnd
  exact (hhead.bind fun _ => readsAlike_identifier.optional?.bind fun _ => readsAlike_pure _).padded

/-- Whether two lines differ in the blanks at their ends only, and both of them start with the short
form of `rawWord` or neither does. -/
def SameTyped (text other : List Char) : Prop :=
  SameTrimmed text other ∧ (text.head? = some '!' ↔ other.head? = some '!')

theorem exactly_rawShort_eq_none {text : List Char} (h : text.head? ≠ some '!') :
    exactly Command.rawShort.toList text = none := by
  rw [Option.eq_none_iff_forall_ne_some]
  rintro ⟨_, rest⟩ hread
  obtain ⟨_, rfl, rfl⟩ := takes_exactly _ hread
  exact h rfl

theorem readsAlike_rawShort :
    (exactly Command.rawShort.toList).ReadsAlike SameTyped SameUpToEnd := by
  rintro text other ⟨htrim, hbang⟩
  by_cases hstart : text.head? = some '!'
  · have hsame : SameUpToEnd text other := by
      unfold SameTrimmed trim at htrim
      rwa [trimStart_of_bang hstart, trimStart_of_bang (hbang.mp hstart)] at htrim
    exact readsAlike_exactly (by decide) hsame
  · exact .inl ⟨exactly_rawShort_eq_none hstart,
      exactly_rawShort_eq_none fun hother => hstart (hbang.mpr hother)⟩

theorem readsAlike_rawReader : rawReader.ReadsAlike SameTyped SameFromStart := by
  have hlong : (word rawWord).ReadsAlike SameTyped SameTrimmed :=
    (readsAlike_word (by decide)).mono (fun _ _ => And.left)
      fun _ _ hsame => hsame.sameUpToEnd.sameTrimmed
  have hshort : (exactly Command.rawShort.toList).ReadsAlike SameTyped SameTrimmed :=
    readsAlike_rawShort.mono (fun _ _ hsame => hsame) fun _ _ => SameUpToEnd.sameTrimmed
  refine (hlong.orElse hshort).bind fun _ => ?_
  -- the text goes to the end of the line, so it keeps the blanks until it is trimmed
  have hall (text : List Char) : charsWhile (fun _ => true) text = some (text, []) := by
    simp [charsWhile]
  intro text other htexts
  have htold : trim text = trim other := htexts
  rw [bind_of_eq_some (hall text), bind_of_eq_some (hall other), htold]
  exact ((readsAlike_guard _).bind fun _ => readsAlike_pure _) ⟨rfl, rfl, rfl⟩

/-- The readers of all commands read alike what is typed alike. -/
theorem readsAlike_readers : ∀ reader ∈ readers, reader.ReadsAlike SameTyped SameFromStart := by
  have hpadded {reader : Reader Command} (h : reader.ReadsAlike SameTrimmed SameFromStart) :
      reader.ReadsAlike SameTyped SameFromStart :=
    h.mono (fun _ _ => And.left) fun _ _ hsame => hsame
  simp only [readers, List.forall_mem_cons, List.not_mem_nil, false_implies, implies_true, and_true]
  refine ⟨hpadded ?_, hpadded ?_, hpadded ?_, hpadded ?_, hpadded ?_, hpadded ?_, hpadded ?_,
    hpadded ?_, hpadded ?_, hpadded ?_, hpadded ?_, hpadded ?_, hpadded readsAlike_loadReader,
    hpadded readsAlike_saveReader, readsAlike_rawReader, hpadded readsAlike_helpReader⟩
  -- the other readers in their order: arrows, or a head and its arguments, if it has any
  · exact readsAlike_arrows.map _
  · exact readsAlike_map (readsAlike_word (by decide)) readsAlike_viewList _
  · exact readsAlike_map (readsAlike_word (by decide)) readsAlike_viewName.fromStart _
  · exact readsAlike_map (readsAlike_eitherWord (by decide) (by decide))
      readsAlike_address.fromStart _
  · exact readsAlike_bare (readsAlike_eitherWord (by decide) (by decide)) _
  · exact readsAlike_bare (readsAlike_eitherWord (by decide) (by decide)) _
  · exact readsAlike_bare (readsAlike_eitherWord (by decide) (by decide)) _
  · exact readsAlike_bare (readsAlike_word (by decide)) _
  · exact readsAlike_bare (readsAlike_eitherWord (by decide) (by decide)) _
  · exact readsAlike_bare (readsAlike_eitherWord (by decide) (by decide)) _
  · exact readsAlike_map (readsAlike_word (by decide)) readsAlike_decimalNumber.fromStart _
  · exact readsAlike_map (readsAlike_word (by decide)) readsAlike_switch.fromStart _

/-- Lines that differ in the blanks at their ends read as the same command, unless one starts with
the short form of `rawWord` and the other does not. -/
theorem read?_congr {text other : List Char} (h : SameTyped text other) :
    read? text = read? other := by
  have hreads : (readers.map fun reader => reader.readAll? text) =
      readers.map fun reader => reader.readAll? other :=
    List.map_congr_left fun reader hreader => (readsAlike_readers reader hreader).readAll?_eq h
  have hfirst (text : List Char) :
      read? text = (readers.map fun reader => reader.readAll? text).findSome? id := by
    rw [List.findSome?_map]
    rfl
  rw [hfirst, hfirst, hreads]

/-! ## Blanks at the ends of a line -/

theorem sameTyped_append {padding : List Char} (h : IsBlankText padding) (text : List Char) :
    SameTyped (text ++ padding) text := by
  refine ⟨trim_append_blanks text h, ?_⟩
  cases text with
  | nil =>
    have hpadding : padding.head? ≠ some '!' := fun hbang =>
      absurd (h _ (List.mem_of_mem_head? hbang)) (by decide)
    simpa using hpadding
  | cons c rest => rfl

theorem sameTyped_of_no_bang {padding : List Char} (h : IsBlankText padding) {text : List Char}
    (hbang : text.head? ≠ some '!') : SameTyped (padding ++ text) text := by
  refine ⟨trim_blanks_append h text, ?_⟩
  cases padding with
  | nil => rfl
  | cons c rest =>
    have hc : c ≠ '!' := by
      rintro rfl
      exact absurd (h _ List.mem_cons_self) (by decide)
    simp [hc, hbang]

/-- What spells a command, and starts with the short form of `rawWord` behind its blanks, has none,
and there is a text behind the short form. -/
theorem eq_of_isSpelled_of_bang {command : Command} {text rest : List Char}
    (h : command.IsSpelled text) (hbang : trimStart text = '!' :: rest) :
    text = '!' :: rest ∧ ¬IsBlankText rest := by
  have hnot {command : Command} {head : String} {behind : List Char}
      (hhead : head ∈ command.heads) : trimStart text ≠ head.toList ++ behind := by
    intro htrim
    obtain ⟨hword, hother⟩ := isWord_of_mem_heads hhead
    refine head?_ne_of_trimStart hword hother ((trimStart_trimStart text).trans htrim) ?_
    rw [hbang]
    rfl
  cases h with
  | tokens htokens hhead _ =>
    obtain ⟨behind, htrim, -⟩ := htokens.exists_trimStart
    exact absurd (by simpa using htrim []) (hnot hhead)
  | @raw told _ behind htext _ _ =>
    have hhead : rawWord ∈ (Command.raw told).heads := List.mem_singleton_self rawWord
    exact absurd htext (hnot hhead)
  | @rawShort _ behind htold hne =>
    have htext : Command.rawShort.toList ++ behind = '!' :: behind := rfl
    rw [htext, trimStart_of_bang rfl] at hbang
    cases hbang
    refine ⟨rfl, fun hblank => hne ?_⟩
    rw [← htold, trim_eq_nil_iff_isBlankText.mpr hblank]

/-- With blanks in front of it the short form of `rawWord` starts no command. -/
theorem read?_padded_bang {padding : List Char} (h : IsBlankText padding) (hne : padding ≠ [])
    (rest : List Char) : read? (padding ++ '!' :: rest) = none := by
  rw [Option.eq_none_iff_forall_ne_some]
  intro command hread
  have hbang : trimStart (padding ++ '!' :: rest) = '!' :: rest :=
    trimStart_blanks h fun c hc => by
      cases hc
      rfl
  have hsame := (eq_of_isSpelled_of_bang (isSpelled_of_read? hread) hbang).1
  exact hne (List.append_left_eq_self.mp hsame)

theorem read?_bang_of_isBlankText {rest : List Char} (h : IsBlankText rest) :
    read? ('!' :: rest) = none := by
  rw [Option.eq_none_iff_forall_ne_some]
  intro command hread
  exact (eq_of_isSpelled_of_bang (isSpelled_of_read? hread) (trimStart_of_bang rfl)).2 h

theorem read?_bang {rest : List Char} (h : ¬IsBlankText rest) :
    read? ('!' :: rest) = some (.raw (String.ofList (trim rest))) := by
  have htold : trim rest = (String.ofList (trim rest)).toList := String.toList_ofList.symm
  refine read?_of_documents (.rawShort htold ?_)
  rwa [← htold, ne_eq, trim_eq_nil_iff_isBlankText]

/-- Blanks behind a line never change the command that it reads as. Blanks in front of it do so
exactly if the line is a text to be sent behind the short form of `rawWord`: then it is no command
any more. -/
theorem padding_makes_no_difference_iff {line padding : String} (h : IsBlankText padding.toList) :
    (∀ command, parse (line ++ padding) = .ok command ↔ parse line = .ok command) ∧
      ((∀ command, parse (padding ++ line) = .ok command ↔ parse line = .ok command) ↔
        padding = "" ∨ line.toList.head? ≠ some '!' ∨ IsBlankText (line.toList.drop 1)) := by
  simp only [parse_eq_ok_iff, String.toList_append]
  refine ⟨fun command => by rw [read?_congr (sameTyped_append h line.toList)], ?_⟩
  by_cases hbang : line.toList.head? = some '!'
  · obtain ⟨rest, hline⟩ := List.head?_eq_some_iff.mp hbang
    rw [hline]
    by_cases hpadding : padding = ""
    · simp [hpadding]
    · rw [read?_padded_bang h (by simpa using hpadding)]
      by_cases hblank : IsBlankText rest
      · simp [read?_bang_of_isBlankText hblank, hblank]
      · simp [read?_bang hblank, hpadding, hblank]
  · rw [read?_congr (sameTyped_of_no_bang h hbang)]
    exact iff_of_true (fun _ => Iff.rfl) (.inr (.inl hbang))

/-- Blanks of any kind in front of a command and behind it make no difference. -/
theorem padded_goto_is_understood :
    IsBlankText "\u3000\t".toList ∧
      parse ("\u3000\t" ++ "goto $1000") = .ok (.goto 0x1000) ∧
      parse ("goto $1000" ++ "\u3000\t") = .ok (.goto 0x1000) := by
  have hblank : IsBlankText "\u3000\t".toList := by decide
  have hread : parse "goto $1000" = .ok (.goto 0x1000) := by decide +kernel
  have hbang : "goto $1000".toList.head? ≠ some '!' := by decide
  refine ⟨hblank, ?_, ((padding_makes_no_difference_iff hblank).1 _).mpr hread⟩
  exact ((padding_makes_no_difference_iff hblank).2.mpr (.inr (.inl hbang)) _).mpr hread

/-- With a blank in front of it a text to be sent behind the short form is not understood. -/
theorem padded_bang_is_not_understood :
    parse "!info" = .ok (.raw "info") ∧ parse " !info" = .error .notUnderstood := by
  decide +kernel

end Command

end RemoteDebug
