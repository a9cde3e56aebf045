import RemoteDebug.Proofs.Command.Documentation
import RemoteDebug.Proofs.Command.Readers
import RemoteDebug.Proofs.Decode.WrittenNumbers

/-!
# Arguments

Each argument is read from the words that stand for it, and from no others: for each reader of an
argument there is one lemma on what it finds and one on what it reads.
-/

namespace RemoteDebug

open RemoteDebug.Text

/-! ## Characters -/

namespace Text

/-- The codes of the blank characters. -/
def blankCodes : List Nat :=
  [9, 10, 11, 12, 13, 0x20, 0x85, 0xA0, 0x1680, 0x2000, 0x2001, 0x2002, 0x2003, 0x2004, 0x2005,
    0x2006, 0x2007, 0x2008, 0x2009, 0x200A, 0x2028, 0x2029, 0x202F, 0x205F, 0x3000]

theorem toNat_mem_blankCodes {c : Char} (h : isBlank c = true) : c.toNat ∈ blankCodes := by
  simp only [isBlank, Bool.or_eq_true, Bool.and_eq_true, decide_eq_true_eq, beq_iff_eq] at h
  simp only [blankCodes, List.mem_cons, List.not_mem_nil, or_false]
  omega

/-- A blank neither starts an identifier nor goes on with one. -/
theorem not_isIdentifier_of_isBlank {c : Char} (h : isBlank c = true) :
    isIdentifierStart c = false ∧ isIdentifierRest c = false := by
  have hcodes : ∀ code ∈ blankCodes, isIdentifierStart (Char.ofNat code) = false ∧
      isIdentifierRest (Char.ofNat code) = false := by decide +kernel
  have hcode := hcodes _ (toNat_mem_blankCodes h)
  rwa [Char.ofNat_toNat] at hcode

end Text

theorem Hex.isDigit_of_readFrom? {high value : Nat} {text : List Char}
    (h : Hex.readFrom? high text = some value) : ∀ c ∈ text, Hex.isDigit c = true := by
  induction text generalizing high with
  | nil => exact List.forall_mem_nil _
  | cons c rest ih =>
    unfold Hex.readFrom? at h
    cases hdigit : Hex.digitValue? c with
    | none => simp [hdigit] at h
    | some low =>
      rw [hdigit] at h
      refine List.forall_mem_cons.mpr ⟨?_, ih h⟩
      rw [Hex.isDigit, hdigit]
      rfl

/-- What is read as a number are digits, at least one. -/
theorem Hex.isDigit_of_read? {value : Nat} {text : List Char} (h : Hex.read? text = some value) :
    text ≠ [] ∧ ∀ c ∈ text, Hex.isDigit c = true := by
  obtain ⟨hne, hread⟩ := Option.ite_none_left_eq_some.mp h
  exact ⟨by simpa using hne, Hex.isDigit_of_readFrom? hread⟩

namespace Reader

variable {α β : Type} {reader : Reader α}

/-! ## Names and paths -/

theorem takes_identifier :
    identifier.Takes fun name taken => taken = name ∧ Command.IsIdentifier taken := by
  refine ((takes_char _).bind fun first => (takes_charsWhile _).bind fun rest =>
    takes_pure (first :: rest)).mono ?_
  rintro _ _ ⟨first, _, _, rfl, ⟨rfl, hfirst⟩, rest, _, _, rfl, ⟨rfl, hrest⟩, rfl, rfl⟩
  rw [List.append_nil]
  exact ⟨rfl, first, _, rfl, hfirst, hrest⟩

theorem lexes_identifier {name : List Char} (h : Command.IsIdentifier name) :
    identifier.Lexes name name := by
  obtain ⟨first, rest, rfl, hfirst, hrest⟩ := h
  intro behind hbehind
  have hhead : char isIdentifierStart (first :: (rest ++ behind)) = some (first, rest ++ behind) :=
    if_pos hfirst
  have htail := lexes_charsWhile hrest fun c hc => (not_isIdentifier_of_isBlank hc).2
  exact (bind_of_eq_some hhead _).trans (bind_of_eq_some (htail hbehind) _)

end Reader

theorem Command.IsIdentifier.isWord {text : List Char} (h : IsIdentifier text) : IsWord text := by
  obtain ⟨first, rest, rfl, hfirst, hrest⟩ := h
  refine ⟨fun c hc => ?_, List.cons_ne_nil first rest⟩
  rw [Bool.eq_false_iff]
  intro hblank
  obtain ⟨hstart, hgoes⟩ := not_isIdentifier_of_isBlank hblank
  rcases List.mem_cons.mp hc with rfl | hc
  · rw [hstart] at hfirst
    cases hfirst
  · rw [hrest c hc] at hgoes
    cases hgoes

theorem View.ofName?_eq_some_iff (name : String) (view : View) :
    View.ofName? name = some view ↔ name ∈ view.names := by
  unfold View.ofName?
  split <;> cases view <;> simp_all [View.names]

instance (text : List Char) : Decidable (Command.IsIdentifier text) :=
  decidable_of_iff (text.head?.any isIdentifierStart ∧ text.tail.all isIdentifierRest) <| by
    cases text <;> simp [Command.IsIdentifier]

theorem View.isIdentifier_of_mem_names {view : View} {name : String} (h : name ∈ view.names) :
    Command.IsIdentifier name.toList := by
  cases view <;> revert name <;> decide +kernel

namespace Reader

theorem findsWord_viewName : Command.viewName.FindsWord fun view taken =>
    Command.IsViewWord view taken := by
  have hlift (name : List Char) : Takes (StateT.lift (View.ofName? (String.ofList name)))
      fun view taken => String.ofList name ∈ view.names ∧ taken = [] := by
    intro text view rest hread
    obtain ⟨_, hview, hsome⟩ := Option.bind_eq_some_iff.mp hread
    cases hsome
    exact ⟨[], rfl, (View.ofName?_eq_some_iff _ _).mp hview, rfl⟩
  refine Takes.padded ((takes_identifier.bind hlift).mono ?_) ?_
  · rintro view _ ⟨name, _, _, rfl, ⟨rfl, hname⟩, hview, rfl⟩
    rwa [List.append_nil]
  · intro view taken hview
    have hidentifier := View.isIdentifier_of_mem_names hview
    rw [String.toList_ofList] at hidentifier
    exact hidentifier.isWord

theorem reads_viewName {view : View} {word : List Char} (h : Command.IsViewWord view word) :
    Command.viewName.Reads [word] view := by
  refine Lexes.reads_padded fun rest hrest => ?_
  have hidentifier := View.isIdentifier_of_mem_names h
  rw [String.toList_ofList] at hidentifier
  rw [bind_of_eq_some (lexes_identifier hidentifier hrest)]
  show (View.ofName? (String.ofList word)).bind _ = _
  rw [(View.ofName?_eq_some_iff _ _).mpr h]
  rfl

theorem findsWord_plainWord : plainWord.FindsWord Command.IsPathWord := by
  refine Takes.padded (((takes_someChars _).bind fun chars =>
    takes_pure (String.ofList chars)).mono ?_) fun _ _ h => h.2
  rintro _ _ ⟨chars, _, _, rfl, ⟨rfl, hne, hchars⟩, rfl, rfl⟩
  rw [List.append_nil]
  refine ⟨String.toList_ofList.symm, fun c hc => ?_, hne⟩
  simpa using hchars c hc

theorem reads_plainWord {path : String} {word : List Char} (h : Command.IsPathWord path word) :
    plainWord.Reads [word] path := by
  obtain ⟨rfl, hword, hne⟩ := h
  have hchars : (charsWhile fun c => !isBlank c).Lexes path.toList path.toList := by
    refine lexes_charsWhile (fun c hc => ?_) fun c hc => ?_
    · rw [hword c hc]
      rfl
    · rw [hc]
      rfl
  have hsome : (someChars fun c => !isBlank c).Lexes path.toList path.toList := by
    intro rest hrest
    have hguard : (!path.toList.isEmpty) = true := by simpa using hne
    refine (bind_of_eq_some (hchars hrest) _).trans ?_
    unfold guard
    rw [if_pos hguard]
    rfl
  have hplain := hsome.bind_pure String.ofList
  rw [String.ofList_toList] at hplain
  exact hplain.reads_padded

/-! ## Numbers -/

theorem takes_hexDigits : hexDigits.Takes fun value taken =>
    taken.length ≤ 8 ∧ Hex.read? taken = some value := by
  intro text value rest hread
  obtain ⟨_, hvalue, hsome⟩ := Option.map_eq_some_iff.mp hread
  cases hsome
  have hstarts : (text.take 8).takeWhile Hex.isDigit <+: text :=
    (List.takeWhile_prefix _).trans (List.take_prefix 8 text)
  refine ⟨_, (List.prefix_iff_eq_append.mp hstarts).symm, ?_, hvalue⟩
  exact (List.takeWhile_prefix _).length_le.trans (List.length_take_le 8 text)

theorem lexes_hexDigits {digits : List Char} {value : Nat} (hlength : digits.length ≤ 8)
    (hvalue : Hex.read? digits = some value) : hexDigits.Lexes digits value := by
  intro rest hrest
  have hdigits := (Hex.isDigit_of_read? hvalue).2
  have htaken : ((digits ++ rest).take 8).takeWhile Hex.isDigit = digits := by
    rw [List.take_append, List.take_of_length_le hlength, List.takeWhile_append_of_pos hdigits]
    cases htake : rest.take (8 - digits.length) with
    | nil => rw [List.takeWhile_nil, List.append_nil]
    | cons c behind =>
      have hc : isBlank c = true := by
        refine hrest c ?_
        rw [← List.take_append_drop (8 - digits.length) rest, htake]
        rfl
      have hnodigit : Hex.isDigit c = false := by
        rw [Bool.eq_false_iff]
        intro hdigit
        rw [Decode.isBlank_of_isHexDigit hdigit] at hc
        cases hc
      rw [List.takeWhile_cons_of_neg (by simp [hnodigit]), List.append_nil]
  unfold hexDigits
  dsimp only [hexDigitLimit]
  rw [htaken, hvalue, Option.map_some, List.drop_left]

theorem isWord_of_isNumberWord {value : Nat} {word : List Char}
    (h : Command.IsNumberWord value word) : IsWord word := by
  obtain ⟨mark, hmark, digits, rfl, -, hvalue⟩ := h
  obtain ⟨hne, hdigits⟩ := Hex.isDigit_of_read? hvalue
  have hmarks : ∀ mark ∈ Command.numberMarks, HasNoBlank mark := by decide
  refine ⟨fun c hc => ?_, by simp [hne]⟩
  rcases List.mem_append.mp hc with hc | hc
  · exact hmarks mark hmark c hc
  · exact Decode.isBlank_of_isHexDigit (hdigits c hc)

theorem findsWord_hexNumber : hexNumber.FindsWord Command.IsNumberWord := by
  have hmark {mark : List Char} (h : mark ∈ Command.numberMarks) :
      (exactly mark).Takes fun _ taken => taken ∈ Command.numberMarks :=
    (takes_exactly mark).mono fun _ _ htaken => htaken ▸ h
  have hmarks := ((hmark (by decide : ['0', 'x'] ∈ _)).orElse
    ((hmark (by decide : ['0', 'X'] ∈ _)).orElse (hmark (by decide : ['$'] ∈ _)))).optional?
  refine Takes.padded ((hmarks.bind fun _ => takes_hexDigits).mono ?_)
    fun _ _ => isWord_of_isNumberWord
  rintro value _ ⟨mark?, mark, digits, rfl, hmark?, hlength, hvalue⟩
  refine ⟨mark, ?_, digits, rfl, hlength, hvalue⟩
  cases mark? with
  | none =>
    cases hmark?
    decide
  | some => exact hmark?

theorem not_prefix_of_isDigit {mark digits : List Char} {c : Char} (hc : c ∈ mark)
    (hnodigit : Hex.isDigit c = false) (hdigits : ∀ d ∈ digits, Hex.isDigit d = true) :
    ¬mark <+: digits := by
  intro hstarts
  rw [hdigits c (hstarts.subset hc)] at hnodigit
  cases hnodigit

theorem reads_hexNumber {value : Nat} {word : List Char} (h : Command.IsNumberWord value word) :
    hexNumber.Reads [word] value := by
  obtain ⟨mark, hmark, digits, rfl, hlength, hvalue⟩ := h
  have hdigits := (Hex.isDigit_of_read? hvalue).2
  refine Lexes.reads_padded fun rest hrest => ?_
  have hlexed := lexes_hexDigits hlength hvalue hrest
  rw [List.append_assoc]
  simp only [Command.numberMarks, List.mem_cons, List.not_mem_nil, or_false] at hmark
  rcases hmark with rfl | rfl | rfl | rfl
  · -- none of the marks stands at the start of digits
    have hnone {mark : List Char} {c : Char} (hc : c ∈ mark) (hnodigit : Hex.isDigit c = false)
        (hword : HasNoBlank mark) : exactly mark (digits ++ rest) = none :=
      exactly_eq_none hword hrest (not_prefix_of_isDigit hc hnodigit hdigits)
    have hmarks : (exactly ['0', 'x'] <|> exactly ['0', 'X'] <|> exactly ['$']) (digits ++ rest) =
        none := by
      rw [orElse_of_eq_none (hnone (c := 'x') (by decide) rfl (by decide)),
        orElse_of_eq_none (hnone (c := 'X') (by decide) rfl (by decide))]
      exact hnone (c := '$') (by decide) rfl (by decide)
    exact (bind_of_eq_some (optional?_of_eq_none hmarks) _).trans hlexed
  · exact hlexed
  · exact hlexed
  · exact hlexed

theorem findsWord_address : Command.address.FindsWord Command.IsAddressWord := by
  refine (findsWord_hexNumber.bind fun address => (finds_guard (address ≤ maxAddress)).bind
    fun _ => finds_pure address).mono ?_
  rintro _ _ ⟨address, _, _, rfl, ⟨word, rfl, hword⟩, _, _, _, rfl, ⟨hle, rfl⟩, rfl, rfl⟩
  exact ⟨word, rfl, hword, hle⟩

theorem reads_address {address : Nat} {word : List Char} (h : Command.IsAddressWord address word) :
    Command.address.Reads [word] address := by
  intro text more hwords
  obtain ⟨rest, hread, hrest⟩ := reads_hexNumber h.1 hwords
  refine ⟨rest, ?_, hrest⟩
  refine (bind_of_eq_some hread _).trans ?_
  unfold guard
  rw [if_pos h.2]
  rfl

/-! ## Decimal numbers -/

theorem decimalValue_eq_ofDigitChars (digits : List Char) :
    decimalValue digits = Nat.ofDigitChars 10 digits 0 := rfl

/-- Whether a text consists of decimal digits without zeros in front. -/
def IsPlainDecimal (text : List Char) : Prop :=
  text = ['0'] ∨ ∃ first rest, text = first :: rest ∧ first.isDigit = true ∧ first ≠ '0' ∧
    ∀ c ∈ rest, c.isDigit = true

theorem takes_decimalDigits : decimalDigits.Takes fun digits taken =>
    taken = digits ∧ IsPlainDecimal taken := by
  refine Takes.orElse (((takes_char _).bind fun first => (takes_charsWhile _).bind fun rest =>
    takes_pure (first :: rest)).mono ?_) (((takes_exactly ['0']).bind fun _ =>
    takes_pure ['0']).mono ?_)
  · rintro _ _ ⟨first, _, _, rfl, ⟨rfl, hfirst⟩, rest, _, _, rfl, ⟨rfl, hrest⟩, rfl, rfl⟩
    rw [List.append_nil]
    rw [Bool.and_eq_true, bne_iff_ne] at hfirst
    exact ⟨rfl, .inr ⟨first, _, rfl, hfirst.1, hfirst.2, hrest⟩⟩
  · rintro _ _ ⟨_, _, _, rfl, rfl, rfl, rfl⟩
    exact ⟨rfl, .inl rfl⟩

theorem lexes_decimalDigits {digits : List Char} (h : IsPlainDecimal digits) :
    decimalDigits.Lexes digits digits := by
  intro behind hbehind
  rcases h with rfl | ⟨first, rest, rfl, hfirst, hnonzero, hrest⟩
  · rfl
  · have hhead : char (fun c => isDecimalDigit c && c != '0') (first :: (rest ++ behind)) =
        some (first, rest ++ behind) := by
      refine if_pos ?_
      rw [Bool.and_eq_true, bne_iff_ne]
      exact ⟨hfirst, hnonzero⟩
    have htail : (charsWhile isDecimalDigit).Lexes rest rest := by
      refine lexes_charsWhile hrest fun c hc => ?_
      rw [Bool.eq_false_iff]
      intro hdigit
      rw [isBlank_of_isDigit c hdigit] at hc
      cases hc
    exact orElse_of_eq_some
      ((bind_of_eq_some hhead _).trans (bind_of_eq_some (htail hbehind) _)) _

theorem digitChar_of_isDigit {c : Char} (h : c.isDigit = true) :
    c.toNat - '0'.toNat < 10 ∧ (c.toNat - '0'.toNat).digitChar = c := by
  have hcode : 48 ≤ c.toNat ∧ c.toNat ≤ 57 := by
    simpa [Char.isDigit, UInt32.le_iff_toNat_le] using h
  have hdigits : ∀ k < 10, k.digitChar = Char.ofNat (48 + k) := by decide
  have hlt : c.toNat - 48 < 10 := by omega
  refine ⟨hlt, ?_⟩
  rw [show '0'.toNat = 48 from rfl, hdigits _ hlt, Nat.add_sub_cancel' hcode.1, Char.ofNat_toNat]

theorem decimalValue_append_singleton (digits : List Char) (c : Char) :
    decimalValue (digits ++ [c]) = 10 * decimalValue digits + (c.toNat - '0'.toNat) := by
  unfold decimalValue
  rw [List.foldl_append]
  rfl

/-- Decimal digits without zeros in front are the digits of their value. -/
theorem toDigits_of_isPlainDecimal {digits : List Char} (h : IsPlainDecimal digits) :
    Nat.toDigits 10 (decimalValue digits) = digits := by
  rcases h with rfl | ⟨first, rest, rfl, hfirst, hnonzero, hrest⟩
  · rfl
  · -- the last digit stands behind those of the tenth part, which is not zero either
    have hdigits : 0 < decimalValue (first :: rest) ∧
        Nat.toDigits 10 (decimalValue (first :: rest)) = first :: rest := by
      induction rest using List.reverseRecOn with
      | nil =>
        obtain ⟨hlt, hchar⟩ := digitChar_of_isDigit hfirst
        have hvalue : decimalValue [first] = first.toNat - '0'.toNat := Nat.zero_add _
        have hpos : 0 < decimalValue [first] := by
          rw [hvalue]
          refine Nat.pos_of_ne_zero fun hzero => ?_
          rw [hzero] at hchar
          exact hnonzero hchar.symm
        refine ⟨hpos, ?_⟩
        rw [Nat.toDigits_of_lt_base (hvalue ▸ hlt), hvalue, hchar]
      | append_singleton front c ih =>
        obtain ⟨hfront, hc⟩ := List.forall_mem_append.mp hrest
        obtain ⟨hpos, htenth⟩ := ih hfront
        obtain ⟨hlt, hchar⟩ := digitChar_of_isDigit (hc c (List.mem_singleton_self c))
        have hvalue := decimalValue_append_singleton (first :: front) c
        rw [List.cons_append] at hvalue
        refine ⟨by omega, ?_⟩
        rw [Nat.toDigits_of_base_le (by decide) (by omega), hvalue, Nat.mul_add_div (by decide),
          Nat.div_eq_of_lt hlt, Nat.add_zero, Nat.mul_add_mod, Nat.mod_eq_of_lt hlt, htenth, hchar]
        rfl
    exact hdigits.2

theorem isPlainDecimal_toDigits (value : Nat) : IsPlainDecimal (Nat.toDigits 10 value) := by
  induction value using Nat.strongRecOn with
  | ind value ih =>
    by_cases hsmall : value < 10
    · rw [Nat.toDigits_of_lt_base hsmall]
      have hdigits : ∀ k < 10, k.digitChar.isDigit = true ∧ (k.digitChar = '0' → k = 0) := by
        decide
      obtain ⟨hdigit, hzero⟩ := hdigits value hsmall
      by_cases hchar : value.digitChar = '0'
      · exact .inl (by rw [hchar])
      · exact .inr ⟨_, [], rfl, hdigit, hchar, List.forall_mem_nil _⟩
    · rw [Nat.toDigits_of_base_le (by decide) (by omega)]
      have hlast : ((value % 10).digitChar).isDigit = true := by
        rw [Nat.isDigit_digitChar, decide_eq_true_eq]
        exact Nat.mod_lt value (by decide)
      rcases ih (value / 10) (by omega) with hzero | ⟨first, rest, hparts, hfirst, hnonzero, hrest⟩
      · -- a number of two digits has a tenth part that is not zero
        have htenth := congrArg decimalValue hzero
        rw [decimalValue_eq_ofDigitChars, Nat.ofDigitChars_ten_toDigits] at htenth
        have hvalue : value / 10 = 0 := htenth
        omega
      · rw [hparts]
        refine .inr ⟨first, _, rfl, hfirst, hnonzero, ?_⟩
        exact List.forall_mem_append.mpr ⟨hrest, List.forall_mem_singleton.mpr hlast⟩

theorem isWord_of_isCountWord {count : Nat} {word : List Char}
    (h : Command.IsCountWord count word) : IsWord word := by
  obtain ⟨rfl, -⟩ := h
  refine ⟨fun c hc => ?_, Nat.toDigits_ne_nil⟩
  exact isBlank_of_isDigit c (Nat.isDigit_of_mem_toDigits (by decide) (by decide) hc)

theorem findsWord_decimalNumber : decimalNumber.FindsWord Command.IsCountWord := by
  refine Takes.padded ((takes_decimalDigits.bind fun digits =>
    (takes_guard (decimalValue digits < decimalBound)).bind fun _ =>
      takes_pure (decimalValue digits)).mono ?_) fun _ _ => isWord_of_isCountWord
  rintro _ _ ⟨_, digits, _, rfl, ⟨rfl, hplain⟩, _, _, _, rfl, ⟨hlt, rfl⟩, rfl, rfl⟩
  rw [List.append_nil, List.append_nil]
  exact ⟨(toDigits_of_isPlainDecimal hplain).symm, hlt⟩

theorem reads_decimalNumber {count : Nat} {word : List Char} (h : Command.IsCountWord count word) :
    decimalNumber.Reads [word] count := by
  obtain ⟨rfl, hlt⟩ := h
  replace hlt : count < decimalBound := hlt
  have hvalue : decimalValue (Nat.toDigits 10 count) = count := Nat.ofDigitChars_ten_toDigits
  refine Lexes.reads_padded fun rest hrest => ?_
  refine (bind_of_eq_some (lexes_decimalDigits (isPlainDecimal_toDigits count) hrest) _).trans ?_
  unfold guard
  rw [hvalue, if_pos hlt]
  rfl

/-! ## Moves and switches -/

theorem findsWord_arrows : Command.arrows.FindsWord fun move taken =>
    move.isStay = false ∧ taken = move.arrows.toList := by
  have hsign {expected : List Char} {move : Move} (hmove : move.isStay = false)
      (harrows : expected = move.arrows.toList) :
      (exactly expected *> pure move : Reader Move).Takes fun move taken =>
        move.isStay = false ∧ taken = move.arrows.toList := by
    refine (takes_exactly_pure expected move).mono ?_
    rintro _ _ ⟨rfl, rfl⟩
    exact ⟨hmove, harrows⟩
  refine Takes.padded ?_ ?_
  · refine .orElse ?_ <| .orElse ?_ <| .orElse ?_ <| .orElse ?_ <| .orElse ?_ ?_ <;>
      exact hsign rfl rfl
  · rintro ⟨magnitude, direction⟩ _ ⟨hmove, rfl⟩
    cases magnitude <;> cases direction <;> first | exact absurd hmove (by decide) | decide

theorem reads_arrows {move : Move} (h : move.isStay = false) :
    Command.arrows.Reads [move.arrows.toList] move := by
  refine Lexes.reads_padded fun rest hrest => ?_
  have hnone : ∀ c ∈ rest.head?, c ≠ '<' ∧ c ≠ '>' := by
    intro c hc
    have hblank := hrest c hc
    refine ⟨?_, ?_⟩ <;> rintro rfl <;> cases hblank
  rcases move with ⟨_ | _ | _ | _, _ | _⟩ <;> first | exact absurd h (by decide) | cases rest with
    | nil => rfl
    | cons c behind =>
      obtain ⟨hleft, hright⟩ := hnone c rfl
      simp [orElse_apply, exactly_pure_apply, List.isPrefixOf, Move.arrows, Magnitude.arrowCount,
        Direction.arrow, hleft.symm, hright.symm]

theorem findsWord_switch : Command.switch.FindsWord fun on taken =>
    taken = (if on then "on" else "off").toList := by
  have hon {expected : String} {on : Bool} (h : expected = if on then "on" else "off")
      (hword : IsWord expected.toList) :
      (word expected *> pure on : Reader Bool).FindsWord fun on taken =>
        taken = (if on then "on" else "off").toList := by
    refine ((findsWord_word expected hword).bind fun _ => finds_pure on).mono ?_
    rintro _ _ ⟨_, _, _, rfl, ⟨token, rfl, rfl⟩, rfl, rfl⟩
    exact ⟨_, List.append_nil _, by rw [h]⟩
  refine Finds.orElse ?_ ?_
  · exact hon rfl (by decide)
  · exact hon rfl (by decide)

theorem reads_switch (on : Bool) :
    Command.switch.Reads [(if on then "on" else "off").toList] on := by
  cases on with
  | true => exact ((reads_word "on").bind_pure fun _ => true).orElse _
  | false =>
    have hon : (word "on").Rejects "off".toList := rejects_word (by decide) (by decide)
    exact Reads.orElse_of_rejects (hon.bind fun _ => pure true)
      ((reads_word "off").bind_pure fun _ => false)

end Reader

end RemoteDebug
