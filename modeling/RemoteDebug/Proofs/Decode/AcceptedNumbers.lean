import RemoteDebug.Proofs.Decode.WrittenNumbers

/-!
# Which texts are read as numbers

The documented form of a number is that in which a target writes it (`WritesNumber`): at most one
mark, digits, and colons. All of these are read if the number has 32 bits, and beyond them only the
same texts with a plus sign between the mark and the digits (`WritesSigned`). So the documented form
decides on a text exactly if the text is none of the latter (`documented_form_decides_iff`).
-/

namespace RemoteDebug.Decode

open RemoteDebug.Text RemoteDebug.Hex

variable {text : List Char} {value : Nat}

/-- Whether a text writes a number with a plus sign in front of its digits. -/
def WritesSigned (text : List Char) (value : Nat) : Prop :=
  ∃ mark shown colons width, text = mark ++ ('+' :: (shown ++ colons)) ∧ IsMark mark ∧
    SameDigits shown (digits width value) ∧ ∀ c ∈ colons, c = ':'

/-! ## The parts of a text -/

/-- What is dropped in front of a text is a mark. -/
theorem exists_mark (text : List Char) : ∃ mark, IsMark mark ∧ text = mark ++ dropMark text := by
  unfold dropMark
  split
  · exact ⟨['$'], .inr (.inl rfl), rfl⟩
  · exact ⟨['0', 'x'], .inr (.inr rfl), rfl⟩
  · exact ⟨[], .inl rfl, rfl⟩

/-- What is dropped behind the mark is a sign. -/
theorem exists_sign (text : List Char) : ∃ sign, IsSign sign ∧ text = sign ++ dropSign text := by
  unfold dropSign
  split
  · exact ⟨['+'], .inr rfl, rfl⟩
  · exact ⟨[], .inl rfl, rfl⟩

/-- A text that is read as a number is a mark, a sign, digits of the number, and colons. -/
theorem exists_parts_of_number? (h : number? text = some value) :
    ∃ mark sign shown colons width, text = mark ++ (sign ++ (shown ++ colons)) ∧ IsMark mark ∧
      IsSign sign ∧ SameDigits shown (digits width value) ∧ ∀ c ∈ colons, c = ':' := by
  obtain ⟨hread, -⟩ := Option.filter_eq_some_iff.mp h
  obtain ⟨colons, htext, hcolons⟩ := exists_eq_dropEndWhile_append (· == ':') text
  generalize dropEndWhile (· == ':') text = front at hread htext
  obtain ⟨mark, hmark, hfront⟩ := exists_mark front
  obtain ⟨sign, hsign, hbehind⟩ := exists_sign (dropMark front)
  refine ⟨mark, sign, _, colons, _, ?_, hmark, hsign, sameDigits_of_read? hread, ?_⟩
  · rw [htext]
    conv_lhs => rw [hfront, hbehind]
    simp only [List.append_assoc]
  · intro c hc
    exact beq_iff_eq.mp (hcolons c hc)

/-! ## The documented form, and the other one -/

/-- A text is read as a number exactly if it writes the number, with a plus sign or without. -/
theorem number?_eq_some_iff :
    number? text = some value ↔
      (WritesNumber text value ∨ WritesSigned text value) ∧ value < wordBound := by
  constructor
  · intro h
    refine ⟨?_, number?_lt h⟩
    obtain ⟨mark, sign, shown, colons, width, rfl, hmark, hsign, hshown, hcolons⟩ :=
      exists_parts_of_number? h
    rcases hsign with rfl | rfl
    · exact .inl ⟨mark, shown, colons, width, rfl, hmark, hshown, hcolons⟩
    · exact .inr ⟨mark, shown, colons, width, rfl, hmark, hshown, hcolons⟩
  · rintro ⟨hwrites | hsigned, hbound⟩
    · exact number?_of_writes hwrites hbound
    · obtain ⟨mark, shown, colons, width, rfl, hmark, hshown, hcolons⟩ := hsigned
      have hread := number?_of_parts hmark (.inr rfl) hshown hcolons hbound
      rwa [List.singleton_append] at hread

/-- The documented form has no plus sign anywhere. -/
theorem plus_not_mem_of_writesNumber (h : WritesNumber text value) : '+' ∉ text := by
  obtain ⟨mark, shown, colons, width, rfl, hmark, hshown, hcolons⟩ := h
  intro hplus
  simp only [List.mem_append] at hplus
  rcases hplus with hplus | hplus | hplus
  · rcases hmark with rfl | rfl | rfl
    · cases hplus
    · exact absurd hplus (by decide)
    · exact absurd hplus (by decide)
  · have hdigit := isDigit_of_sameDigits hshown isLower_of_mem_digits '+' hplus
    exact absurd hdigit (by decide)
  · exact absurd (hcolons '+' hplus) (by decide)

theorem not_writesNumber_of_writesSigned {other : Nat} (h : WritesSigned text value) :
    ¬WritesNumber text other := by
  obtain ⟨mark, shown, colons, width, rfl, -⟩ := h
  intro hwrites
  apply plus_not_mem_of_writesNumber hwrites
  simp

/-! ## Fields -/

theorem number_eq_ok_iff {field text : String} :
    number field text = .ok value ↔ number? text.toList = some value := by
  unfold number
  cases number? text.toList <;> simp

/-- A field that is not read as a number is refused with its name and its text. -/
theorem number_eq_error_iff {field text : String} :
    number field text = .error (.invalidHex field text) ↔ number? text.toList = none := by
  unfold number
  cases number? text.toList <;> simp

/-- The documented form decides which number of 32 bits a field is read as, unless the field has a
plus sign in front of its digits: such a field is read too. Every other field is refused, with an
error that shows its text as it is. -/
theorem documented_form_decides_iff (field text : String) :
    ((∀ value, number field text = .ok value ↔
        WritesNumber text.toList value ∧ value < wordBound) ↔
      ∀ value < wordBound, ¬WritesSigned text.toList value) ∧
    (∀ value, number field text = .ok value ↔
      (WritesNumber text.toList value ∨ WritesSigned text.toList value) ∧ value < wordBound) ∧
    (number field text = .error (.invalidHex field text) ↔
      ∀ value < wordBound, ¬WritesNumber text.toList value ∧ ¬WritesSigned text.toList value) := by
  refine ⟨?_, ?_, ?_⟩
  · simp only [number_eq_ok_iff, number?_eq_some_iff]
    constructor
    · intro hform value hbound hsigned
      have hwrites := (hform value).mp ⟨.inr hsigned, hbound⟩
      exact not_writesNumber_of_writesSigned hsigned hwrites.1
    · intro hunsigned value
      constructor
      · rintro ⟨hwrites | hsigned, hbound⟩
        · exact ⟨hwrites, hbound⟩
        · exact absurd hsigned (hunsigned value hbound)
      · rintro ⟨hwrites, hbound⟩
        exact ⟨.inl hwrites, hbound⟩
  · intro value
    rw [number_eq_ok_iff, number?_eq_some_iff]
  · rw [number_eq_error_iff, Option.eq_none_iff_forall_ne_some]
    constructor
    · intro hnone value hbound
      constructor
      · intro hwrites
        exact hnone value (number?_eq_some_iff.mpr ⟨.inl hwrites, hbound⟩)
      · intro hsigned
        exact hnone value (number?_eq_some_iff.mpr ⟨.inr hsigned, hbound⟩)
    · intro hneither value hsome
      obtain ⟨hform, hbound⟩ := number?_eq_some_iff.mp hsome
      rcases hform with hwrites | hsigned
      · exact (hneither value hbound).1 hwrites
      · exact (hneither value hbound).2 hsigned

/-- A sign is let through, though no documented text has one. -/
theorem plus_sign_is_let_through :
    number "PC" "+001000" = .ok 0x1000 ∧ ∀ value, ¬WritesNumber "+001000".toList value := by
  refine ⟨by decide +kernel, ?_⟩
  intro value hwrites
  exact absurd (plus_not_mem_of_writesNumber hwrites) (by decide +kernel)

end RemoteDebug.Decode
