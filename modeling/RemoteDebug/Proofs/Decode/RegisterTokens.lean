import RemoteDebug.Proofs.Decode.WrittenBlocks
import RemoteDebug.Proofs.Register.Entries

/-!
# Tokens of register blocks

A token of a register block names a register and tells its value (`TellsRegister`), or something is
wrong with it (`HasFault`): it has no colon, there is no such register, its value is no number, or
the value is too large for the status register. A block is read exactly if it has tokens and each
of them tells a value; then a register has the value of the last token that names it, and else the
error is that of the first token with a fault (`registers_exact`). So registers that a target tells,
each in a token and in any order, are read back (`registers_of_writes`).
-/

namespace RemoteDebug

/-- The register of a name is the one that has it. -/
theorem Register.ofName?_eq_some_iff {text : String} {register : Register} :
    Register.ofName? text = some register ↔ text = register.name := by
  constructor
  · intro h
    unfold Register.ofName? at h
    have hfound := List.find?_some h
    exact (beq_iff_eq.mp hfound).symm
  · rintro rfl
    cases register <;> rfl

namespace Decode

open RemoteDebug.Wire RemoteDebug.Text

/-! ## Tokens -/

/-- Whether a token is a name and a text with a colon between them, the first in the token. -/
def IsCut (token : String) (name text : List Char) : Prop :=
  token.toList = name ++ ':' :: text ∧ ':' ∉ name

/-- Whether a name is that of a register, in whatever case. -/
def IsNameOf (name : List Char) (register : Register) : Prop :=
  name.map Char.toUpper = register.name.toList

/-- Whether a token tells a value of a register. -/
def TellsRegister (token : String) (register : Register) (value : Nat) : Prop :=
  ∃ name text, IsCut token name text ∧ IsNameOf name register ∧ number? text = some value ∧
    (register = .sr → value ≤ 0xFFFF)

/-- What is wrong with a token, if something is. -/
inductive HasFault (token : String) : DecodeError → Prop
  | noColon (h : ':' ∉ token.toList) : HasFault token (.malformedToken token)
  | noRegister {name text : List Char} (h : IsCut token name text)
    (hname : ∀ register, ¬IsNameOf name register) :
    HasFault token (.unknownRegister (String.ofList name))
  | noNumber {name text : List Char} {register : Register} (h : IsCut token name text)
    (hname : IsNameOf name register) (htext : number? text = none) :
    HasFault token (.invalidHex "register" (String.ofList text))
  | tooLarge {name text : List Char} {value : Nat} (h : IsCut token name text)
    (hname : IsNameOf name .sr) (htext : number? text = some value) (hvalue : 0xFFFF < value) :
    HasFault token (.valueOutOfRange "SR" value)

variable {token : String} {name text : List Char} {register : Register} {value : Nat}

theorem no_colon_or_isCut (token : String) :
    ':' ∉ token.toList ∨ ∃ name text, IsCut token name text := by
  by_cases h : ':' ∈ token.toList
  · exact .inr (List.eq_append_cons_of_mem h)
  · exact .inl h

theorem splitAtFirst?_of_isCut (h : IsCut token name text) :
    splitAtFirst? (· == ':') token.toList = some (name, text) := by
  have hname : ∀ c ∈ name, (c == ':') = false := by
    intro c hc
    refine beq_false_of_ne ?_
    rintro rfl
    exact h.2 hc
  rw [h.1, splitAtFirst?_append hname rfl]

theorem ofName?_of_isNameOf (h : IsNameOf name register) :
    Register.ofName? (String.ofList (name.map Char.toUpper)) = some register := by
  rw [Register.ofName?_eq_some_iff, h, String.ofList_toList]

theorem isNameOf_of_ofName?
    (h : Register.ofName? (String.ofList (name.map Char.toUpper)) = some register) :
    IsNameOf name register := by
  rw [Register.ofName?_eq_some_iff] at h
  rw [IsNameOf, ← h, String.toList_ofList]

/-- Only the status register is too small for some numbers. -/
theorem maxValue_lt_iff (h : value < wordBound) :
    register.maxValue < value ↔ register = .sr ∧ 0xFFFF < value := by
  unfold wordBound at h
  cases register <;> simp [Register.maxValue]
  all_goals omega

/-- What is read from a token that has a colon. -/
theorem registerEntry_of_isCut (h : IsCut token name text) :
    registerEntry token =
      match Register.ofName? (String.ofList (name.map Char.toUpper)) with
      | none => .error (.unknownRegister (String.ofList name))
      | some register =>
        match number? text with
        | none => .error (.invalidHex "register" (String.ofList text))
        | some value =>
          if register.maxValue < value then .error (.valueOutOfRange "SR" value)
          else .ok (register, value) := by
  unfold registerEntry number
  rw [splitAtFirst?_of_isCut h]
  dsimp only
  cases Register.ofName? (String.ofList (name.map Char.toUpper)) with
  | none => rfl
  | some register =>
    simp only [String.toList_ofList]
    cases number? text with
    | none => rfl
    | some value =>
      simp only [bind, Except.bind]
      split <;> rfl

theorem registerEntry_of_no_colon (h : ':' ∉ token.toList) :
    registerEntry token = .error (.malformedToken token) := by
  have hnone : ∀ c ∈ token.toList, (c == ':') = false := by
    intro c hc
    refine beq_false_of_ne ?_
    rintro rfl
    exact h hc
  unfold registerEntry
  rw [splitAtFirst?_eq_none hnone]
  rfl

theorem registerEntry_of_tells (h : TellsRegister token register value) :
    registerEntry token = .ok (register, value) := by
  obtain ⟨name, text, hcut, hname, hnumber, hvalue⟩ := h
  have hroom : ¬register.maxValue < value := by
    rw [maxValue_lt_iff (number?_lt hnumber)]
    rintro ⟨hsr, hlarge⟩
    have := hvalue hsr
    omega
  rw [registerEntry_of_isCut hcut, ofName?_of_isNameOf hname, hnumber]
  exact if_neg hroom

theorem registerEntry_of_hasFault {cause : DecodeError} (h : HasFault token cause) :
    registerEntry token = .error cause := by
  cases h with
  | noColon h => exact registerEntry_of_no_colon h
  | @noRegister name text h hname =>
    have hnone : Register.ofName? (String.ofList (name.map Char.toUpper)) = none := by
      rw [Option.eq_none_iff_forall_ne_some]
      exact fun register hsome => hname register (isNameOf_of_ofName? hsome)
    rw [registerEntry_of_isCut h, hnone]
  | noNumber h hname htext => rw [registerEntry_of_isCut h, ofName?_of_isNameOf hname, htext]
  | tooLarge h hname htext hvalue =>
    rw [registerEntry_of_isCut h, ofName?_of_isNameOf hname, htext]
    exact if_pos ((maxValue_lt_iff (number?_lt htext)).mpr ⟨rfl, hvalue⟩)

/-- A token either tells a value or has a fault. -/
theorem tells_or_hasFault (token : String) :
    (∃ register value, TellsRegister token register value) ∨ ∃ cause, HasFault token cause := by
  rcases no_colon_or_isCut token with hnone | ⟨name, text, hcut⟩
  · exact .inr ⟨_, .noColon hnone⟩
  by_cases hregister : ∃ register, IsNameOf name register
  · obtain ⟨register, hname⟩ := hregister
    cases hnumber : number? text with
    | none => exact .inr ⟨_, .noNumber hcut hname hnumber⟩
    | some value =>
      by_cases hlarge : register = .sr ∧ 0xFFFF < value
      · obtain ⟨rfl, hvalue⟩ := hlarge
        exact .inr ⟨_, .tooLarge hcut hname hnumber hvalue⟩
      · refine .inl ⟨register, value, name, text, hcut, hname, hnumber, fun hsr => ?_⟩
        by_contra hvalue
        exact hlarge ⟨hsr, by omega⟩
  · exact .inr ⟨_, .noRegister hcut fun register hname => hregister ⟨register, hname⟩⟩

theorem registerEntry_eq_ok_iff {entry : Register × Nat} :
    registerEntry token = .ok entry ↔ TellsRegister token entry.1 entry.2 := by
  refine ⟨fun h => ?_, registerEntry_of_tells⟩
  rcases tells_or_hasFault token with ⟨register, value, htells⟩ | ⟨cause, hfault⟩
  · rw [registerEntry_of_tells htells] at h
    cases h
    exact htells
  · rw [registerEntry_of_hasFault hfault] at h
    cases h

theorem registerEntry_eq_error_iff {cause : DecodeError} :
    registerEntry token = .error cause ↔ HasFault token cause := by
  refine ⟨fun h => ?_, registerEntry_of_hasFault⟩
  rcases tells_or_hasFault token with ⟨register, value, htells⟩ | ⟨found, hfault⟩
  · rw [registerEntry_of_tells htells] at h
    cases h
  · rw [registerEntry_of_hasFault hfault] at h
    cases h
    exact hfault

/-- A token tells a single value of a single register. -/
theorem TellsRegister.unique {other : Register} {otherValue : Nat}
    (h : TellsRegister token register value) (hother : TellsRegister token other otherValue) :
    (register, value) = (other, otherValue) := by
  have hread := registerEntry_of_tells h
  rw [registerEntry_of_tells hother] at hread
  exact (Except.ok.inj hread).symm

/-! ## Sequences of tokens -/

/-- Whether tokens tell entries, each the one at its place. -/
def TellInOrder (tokens : List String) (entries : List (Register × Nat)) : Prop :=
  List.Forall₂ (fun token entry => TellsRegister token entry.1 entry.2) tokens entries

/-- Whether each of the tokens tells a value of some register. -/
def AllTell (tokens : List String) : Prop :=
  ∀ token ∈ tokens, ∃ register value, TellsRegister token register value

/-- Whether a value is told by the last of the tokens that name a register. -/
def IsLastTold (tokens : List String) (register : Register) (value : Nat) : Prop :=
  ∃ front token behind, tokens = front ++ token :: behind ∧ TellsRegister token register value ∧
    ∀ later ∈ behind, ∀ other, ¬TellsRegister later register other

/-- Whether an error is the fault of the first token that has one. -/
def IsFirstFault (tokens : List String) (cause : DecodeError) : Prop :=
  ∃ front bad behind, tokens = front ++ bad :: behind ∧ AllTell front ∧ HasFault bad cause

variable {tokens : List String} {entries : List (Register × Nat)} {cause : DecodeError}

theorem registerEntries_eq_ok_iff :
    registerEntries tokens = .ok entries ↔ TellInOrder tokens entries := by
  unfold registerEntries TellInOrder
  rw [mapM_eq_ok_iff]
  constructor
  · intro h
    exact h.imp fun _ _ => registerEntry_eq_ok_iff.mp
  · intro h
    exact h.imp fun _ _ => registerEntry_eq_ok_iff.mpr

theorem registerEntries_eq_error_iff :
    registerEntries tokens = .error cause ↔ IsFirstFault tokens cause := by
  unfold registerEntries IsFirstFault AllTell
  simp only [mapM_eq_error_iff, registerEntry_eq_error_iff, registerEntry_eq_ok_iff, Prod.exists]

/-- Tokens are read if each of them tells a value. -/
theorem exists_entries_iff :
    (∃ entries, registerEntries tokens = .ok entries) ↔ AllTell tokens := by
  constructor
  · rintro ⟨entries, hread⟩
    rw [registerEntries_eq_ok_iff] at hread
    induction hread with
    | nil => exact List.forall_mem_nil _
    | @cons token entry _ _ hfirst _ ih =>
      exact List.forall_mem_cons.mpr ⟨⟨entry.1, entry.2, hfirst⟩, ih⟩
  · intro htells
    cases hread : registerEntries tokens with
    | ok entries => exact ⟨entries, rfl⟩
    | error cause =>
      obtain ⟨front, bad, behind, rfl, -, hfault⟩ := registerEntries_eq_error_iff.mp hread
      obtain ⟨register, value, hbad⟩ := htells bad (by simp)
      have hentry := registerEntry_of_tells hbad
      rw [registerEntry_of_hasFault hfault] at hentry
      cases hentry

namespace TellInOrder

/-- There are as many entries as tokens. -/
theorem eq_nil_iff (h : TellInOrder tokens entries) : tokens = [] ↔ entries = [] := by
  rw [← List.length_eq_zero_iff, ← List.length_eq_zero_iff, h.length_eq]

/-- The registers that tokens name are those of the entries. -/
theorem not_mem_names_iff (h : TellInOrder tokens entries) :
    register ∉ entries.map Prod.fst ↔
      ∀ token ∈ tokens, ∀ value, ¬TellsRegister token register value := by
  induction h with
  | nil => simp
  | @cons token entry tokens entries hfirst _ ih =>
    rw [List.map_cons, List.mem_cons, not_or, List.forall_mem_cons, ih]
    refine and_congr_left fun _ => ⟨fun hne value htells => ?_, fun hnone hsame => ?_⟩
    · exact hne (congrArg Prod.fst (htells.unique hfirst))
    · subst hsame
      exact hnone _ hfirst

/-- A register has the value of the last token that names it. -/
theorem value_ofList_iff (h : TellInOrder tokens entries) :
    (Snapshot.ofList entries).value register = some value ↔ IsLastTold tokens register value := by
  rw [Snapshot.value_ofList_eq_some_iff]
  constructor
  · rintro ⟨front, behind, rfl, hbehind⟩
    obtain ⟨token, rest, htells, hrest, hparts⟩ :=
      List.forall₂_cons_right_iff.mp (List.forall₂_drop_append _ _ _ h)
    refine ⟨tokens.take front.length, token, rest, ?_, htells,
      (not_mem_names_iff hrest).mp hbehind⟩
    rw [← hparts, List.take_append_drop]
  · rintro ⟨front, token, behind, rfl, htells, hbehind⟩
    obtain ⟨entry, rest, hentry, hrest, hparts⟩ :=
      List.forall₂_cons_right_iff.mp (List.forall₂_drop_append _ _ _ (List.Forall₂.flip h))
    have hrest : TellInOrder behind rest := List.Forall₂.flip hrest
    refine ⟨entries.take front.length, rest, ?_, hrest.not_mem_names_iff.mpr hbehind⟩
    rw [htells.unique hentry, ← hparts, List.take_append_drop]

end TellInOrder

/-! ## Blocks -/

variable {block : Block} {previous : Option Snapshot} {report : RegisterReport}

/-- What is read from a register block. -/
theorem registers_eq (hkind : block.kind = .registers) (previous : Option Snapshot) :
    registers block previous =
      match registerEntries (registerTokens block) with
      | .error cause => .error cause
      | .ok entries =>
        if entries = [] then .error .emptyBlock
        else .ok {
          registers := Snapshot.ofList entries
          changed := changedSince? (Snapshot.ofList entries) previous
          flags := (Snapshot.ofList entries).statusFlags } := by
  unfold registers
  simp only [hkind, beq_self_eq_true, if_true, bind, Except.bind, List.isEmpty_iff]
  cases registerEntries (registerTokens block) with
  | error cause => rfl
  | ok entries =>
    dsimp only
    split <;> rfl

theorem exists_report_iff (hkind : block.kind = .registers) :
    (∃ report, registers block previous = .ok report) ↔
      registerTokens block ≠ [] ∧ AllTell (registerTokens block) := by
  rw [registers_eq hkind, ← exists_entries_iff]
  cases hread : registerEntries (registerTokens block) with
  | error cause => simp
  | ok entries =>
    have hnil := (registerEntries_eq_ok_iff.mp hread).eq_nil_iff
    by_cases hempty : entries = []
    · simp [hempty, hnil.mpr hempty]
    · simp [hempty, mt hnil.mp hempty]

theorem value_report_iff (hkind : block.kind = .registers)
    (h : registers block previous = .ok report) :
    report.registers.value register = some value ↔
      IsLastTold (registerTokens block) register value := by
  rw [registers_eq hkind] at h
  cases hread : registerEntries (registerTokens block) with
  | error cause =>
    rw [hread] at h
    cases h
  | ok entries =>
    rw [hread] at h
    dsimp only at h
    split at h
    · cases h
    · cases h
      exact (registerEntries_eq_ok_iff.mp hread).value_ofList_iff

theorem registers_eq_error_iff (hkind : block.kind = .registers) :
    registers block previous = .error cause ↔
      (registerTokens block = [] ∧ cause = .emptyBlock) ∨
        IsFirstFault (registerTokens block) cause := by
  rw [registers_eq hkind, ← registerEntries_eq_error_iff]
  cases hread : registerEntries (registerTokens block) with
  | error found =>
    have hsome : registerTokens block ≠ [] := by
      intro hnil
      rw [hnil] at hread
      cases hread
    simp [hsome]
  | ok entries =>
    have hnil := (registerEntries_eq_ok_iff.mp hread).eq_nil_iff
    by_cases hempty : entries = []
    · simp [hempty, hnil.mpr hempty, eq_comm]
    · simp [hempty, mt hnil.mp hempty]

/-! ## Registers as a target writes them -/

/-- Whether a token writes the value of a register behind its name, in either case. -/
def WritesRegister (token : String) (entry : Register × Nat) : Prop :=
  ∃ name text, token.toList = name ++ ':' :: text ∧
    name.map Char.toUpper = entry.1.name.toList ∧ WritesNumber text entry.2

/-- Whether a block tells the registers of a snapshot, each in a token, in any order. -/
def WritesRegisters (block : Block) (registers : Snapshot) : Prop :=
  ∃ fields entries, HasTag block .registers fields ∧
    List.Forall₂ WritesRegister (fields ++ block.payload.flatMap wordsOf) entries ∧
    ∀ register value, (register, value) ∈ entries ↔ registers.value register = some value

theorem maxValue_lt (register : Register) : register.maxValue < wordBound := by
  cases register <;> decide

theorem no_colon_in_name (register : Register) : ':' ∉ register.name.toList := by
  cases register <;> decide

/-- What is written is told, if the register has room for it. -/
theorem tells_of_writes {entry : Register × Nat} (h : WritesRegister token entry)
    (hbound : entry.2 ≤ entry.1.maxValue) : TellsRegister token entry.1 entry.2 := by
  obtain ⟨name, text, htoken, hname, hnumber⟩ := h
  have hcolon : ':' ∉ name := fun hc =>
    no_colon_in_name entry.1 (hname ▸ List.mem_map_of_mem hc)
  have hread : number? text = some entry.2 :=
    number?_of_writes hnumber (Nat.lt_of_le_of_lt hbound (maxValue_lt _))
  refine ⟨name, text, ⟨htoken, hcolon⟩, hname, hread, fun hsr => ?_⟩
  rw [hsr] at hbound
  exact hbound

/-- The registers that were told are read, unless there are none. -/
theorem registers_of_writes {told : Snapshot} (h : WritesRegisters block told)
    (hsome : ∃ register value, told.value register = some value)
    (hbound : ∀ register value, told.value register = some value → value ≤ register.maxValue)
    (previous : Option Snapshot) :
    registers block previous = .ok {
      registers := told
      changed := changedSince? told previous
      flags := told.statusFlags } := by
  obtain ⟨fields, entries, htag, htokens, hentries⟩ := h
  have hall : registerEntries (registerTokens block) = .ok entries := by
    unfold registerEntries registerTokens
    rw [tagFields_of_hasTag htag]
    exact mapM_of_forall₂ htokens fun entry hentry token htoken =>
      registerEntry_of_tells
        (tells_of_writes htoken (hbound _ _ ((hentries entry.1 entry.2).mp hentry)))
  have hnonempty : entries ≠ [] := by
    obtain ⟨register, value, hvalue⟩ := hsome
    exact List.ne_nil_of_mem ((hentries register value).mpr hvalue)
  rw [registers_eq (kind_of_hasTag htag), hall]
  dsimp only
  rw [if_neg hnonempty, Snapshot.ofList_of_mem_iff hentries]

/-- A register block is read exactly if it has tokens and each of them tells a value. Then a
register has the value that the last token that names it tells, and none if no token does; else the
error is the fault of the first token that has one, or that there is no token. What is read depends
on the tokens alone, not on the lines that they stand on, and what a target tells is read as it
was told. -/
theorem registers_exact (hkind : block.kind = .registers) (previous : Option Snapshot) :
    ((∃ report, registers block previous = .ok report) ↔
      registerTokens block ≠ [] ∧ AllTell (registerTokens block)) ∧
    (∀ report, registers block previous = .ok report → ∀ register value,
      report.registers.value register = some value ↔
        IsLastTold (registerTokens block) register value) ∧
    (∀ cause, registers block previous = .error cause ↔
      (registerTokens block = [] ∧ cause = .emptyBlock) ∨
        IsFirstFault (registerTokens block) cause) ∧
    (∀ other : Block, other.kind = .registers → registerTokens other = registerTokens block →
      registers other previous = registers block previous) ∧
    ∀ told, WritesRegisters block told →
      (∃ register value, told.value register = some value) →
      (∀ register value, told.value register = some value → value ≤ register.maxValue) →
      ∃ report, registers block previous = .ok report ∧ report.registers = told := by
  refine ⟨exists_report_iff hkind, fun report h register value => value_report_iff hkind h,
    fun cause => registers_eq_error_iff hkind, fun other hother htokens => ?_,
    fun told hwrites hsome hbound => ?_⟩
  · rw [registers_eq hother, registers_eq hkind, htokens]
  · exact ⟨_, registers_of_writes hwrites hsome hbound previous, rfl⟩

/-- A register that is named on both lines has the value of the later token; and registers are read
back from a block that has them in another order, with a blank line between them. -/
theorem registers_of_two_lines :
    let block : Block :=
      { tagLine := "#registers d0:1 SR:ffff", payload := ["D0:$2:  a7:0x10000"] }
    let other : Block := { tagLine := "#regs", payload := ["sr:$FFFF", "", " d0:0002"] }
    let told := Snapshot.ofList [(.d0, 2), (.sr, 0xFFFF)]
    block.kind = .registers ∧ AllTell (registerTokens block) ∧
      IsLastTold (registerTokens block) .d0 2 ∧
      other.kind = .registers ∧ WritesRegisters other told ∧
      ∃ report, registers other none = .ok report ∧ report.registers = told := by
  intro block other told
  have hkind : block.kind = .registers := by decide
  have hother : other.kind = .registers := by decide
  obtain ⟨hread, hvalue, -⟩ := registers_exact hkind none
  obtain ⟨-, -, -, -, hback⟩ := registers_exact hother none
  have hreport : registers block none = .ok {
      registers := Snapshot.ofList [(.d0, 1), (.sr, 0xFFFF), (.d0, 2), (.a7, 0x10000)]
      changed := []
      flags := some (statusFlags 0xFFFF) } := by decide +kernel
  have htag : HasTag other .registers [] :=
    ⟨"regs", by decide, [], by decide, nofun, by decide⟩
  have hwrites : WritesRegisters other told := by
    refine ⟨[], [(.sr, 0xFFFF), (.d0, 2)], htag, ?_, fun register value => ?_⟩
    · refine .cons ⟨['s', 'r'], "$FFFF".toList, rfl, rfl, ['$'], "FFFF".toList, [], 4, rfl,
        .inr (.inl rfl), ?_, List.forall_mem_nil _⟩ (.cons ⟨['d', '0'], "0002".toList, rfl, rfl,
          [], "0002".toList, [], 4, rfl, .inl rfl, ?_, List.forall_mem_nil _⟩ .nil)
      all_goals
        unfold Hex.SameDigits Hex.IsCaseOf
        decide
    · cases register <;> simp [told, Snapshot.ofList, eq_comm]
  have hfits : ∀ register value, told.value register = some value → value ≤ register.maxValue := by
    intro register value h
    cases register <;> simp [told, Snapshot.ofList] at h <;> subst h <;> decide
  exact ⟨hkind, (hread.mp ⟨_, hreport⟩).2, (hvalue _ hreport .d0 2).mp (by decide), hother,
    hwrites, hback told hwrites ⟨.d0, 2, by decide⟩ hfits⟩

end Decode

end RemoteDebug
