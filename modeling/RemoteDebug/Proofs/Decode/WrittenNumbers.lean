import RemoteDebug.Decode.Number
import RemoteDebug.Proofs.Text.Hexadecimal
import RemoteDebug.Proofs.Text.Words

/-!
# Numbers as a target writes them

`WritesNumber` is the form in which a target may write a number: digits of either case, with zeros
in front or without, behind a mark or none, and with colons behind them or none. A number of 32 bits
is read back from each of these forms (`number?_of_writes`).
-/

namespace RemoteDebug.Decode

open RemoteDebug.Text RemoteDebug.Hex

/-- Whether a text is a mark in front of digits, which may be missing. -/
def IsMark (text : List Char) : Prop :=
  text = [] ∨ text = ['$'] ∨ text = ['0', 'x']

/-- Whether a text writes a number. -/
def WritesNumber (text : List Char) (value : Nat) : Prop :=
  ∃ mark shown colons width, text = mark ++ (shown ++ colons) ∧ IsMark mark ∧
    SameDigits shown (digits width value) ∧ ∀ c ∈ colons, c = ':'

theorem writesNumber_digits {mark : List Char} (hmark : IsMark mark) (width value : Nat) :
    WritesNumber (mark ++ digits width value) value := by
  refine ⟨mark, digits width value, [], width, by rw [List.append_nil], hmark, ?_,
    List.forall_mem_nil _⟩
  exact List.forall₂_same.mpr fun c _ => .inl rfl

/-! ## Characters that are no digits -/

theorem ne_of_isDigit {c other : Char} (h : isDigit c = true) (hother : isDigit other = false) :
    c ≠ other := by
  rintro rfl
  rw [hother] at h
  cases h

theorem isBlank_of_isHexDigit {c : Char} (h : isDigit c = true) : isBlank c = false := by
  -- the digits lie between the blanks of ASCII and the others
  have hcode := toNat_of_isDigit h
  simp only [isBlank, Bool.or_eq_false_iff, Bool.and_eq_false_iff, decide_eq_false_iff_not,
    beq_eq_false_iff_ne, ne_eq]
  omega

theorem hasNoBlank_of_writesNumber {text : List Char} {value : Nat} (h : WritesNumber text value) :
    HasNoBlank text := by
  obtain ⟨mark, shown, colons, width, rfl, hmark, hshown, hcolons⟩ := h
  intro c hc
  rcases List.mem_append.mp hc with hc | hc
  · have hnone : HasNoBlank ['$', '0', 'x'] := by decide
    refine hnone c ?_
    rcases hmark with rfl | rfl | rfl
    · cases hc
    · exact List.mem_cons.mpr (.inl (List.mem_singleton.mp hc))
    · exact List.mem_cons_of_mem _ hc
  · rcases List.mem_append.mp hc with hc | hc
    · exact isBlank_of_isHexDigit (isDigit_of_sameDigits hshown isLower_of_mem_digits c hc)
    · rw [hcolons c hc]
      rfl

theorem ne_nil_of_sameDigits {shown : List Char} {width value : Nat}
    (h : SameDigits shown (digits width value)) : shown ≠ [] := by
  rintro rfl
  exact digits_ne_nil width value (List.forall₂_nil_left_iff.mp h)

theorem ne_nil_of_writesNumber {text : List Char} {value : Nat} (h : WritesNumber text value) :
    text ≠ [] := by
  obtain ⟨mark, shown, colons, width, rfl, -, hshown, -⟩ := h
  simp [ne_nil_of_sameDigits hshown]

/-! ## Reading back -/

theorem number?_lt {text : List Char} {value : Nat} (h : number? text = some value) :
    value < wordBound := by
  obtain ⟨-, hbound⟩ := Option.filter_eq_some_iff.mp h
  exact of_decide_eq_true hbound

/-- Whether a text is a sign in front of digits, which may be missing. -/
def IsSign (text : List Char) : Prop :=
  text = [] ∨ text = ['+']

theorem dropMark_append {mark behind : List Char} (hmark : IsMark mark)
    (hbehind : ∀ c ∈ behind, c ≠ '$' ∧ c ≠ 'x') : dropMark (mark ++ behind) = behind := by
  rcases hmark with rfl | rfl | rfl
  · rw [List.nil_append]
    unfold dropMark
    split
    · exact absurd rfl (hbehind '$' List.mem_cons_self).1
    · exact absurd rfl (hbehind 'x' (List.mem_cons_of_mem _ List.mem_cons_self)).2
    · rfl
  · rfl
  · rfl

theorem dropSign_append {sign shown : List Char} (hsign : IsSign sign)
    (hshown : ∀ c ∈ shown, isDigit c = true) : dropSign (sign ++ shown) = shown := by
  rcases hsign with rfl | rfl
  · rw [List.nil_append]
    unfold dropSign
    split
    · exact absurd (hshown '+' List.mem_cons_self) (by decide)
    · rfl
  · rfl

/-- Digits are read behind a mark and a sign and in front of colons. -/
theorem number?_of_parts {mark sign shown colons : List Char} {width value : Nat}
    (hmark : IsMark mark) (hsign : IsSign sign) (hshown : SameDigits shown (digits width value))
    (hcolons : ∀ c ∈ colons, c = ':') (hbound : value < wordBound) :
    number? (mark ++ (sign ++ (shown ++ colons))) = some value := by
  have hdigits := isDigit_of_sameDigits hshown isLower_of_mem_digits
  have hlast : ∀ c ∈ (mark ++ (sign ++ shown)).getLast?, (c == ':') = false := by
    intro c hc
    rw [← List.append_assoc, List.getLast?_append_of_ne_nil _ (ne_nil_of_sameDigits hshown)] at hc
    exact beq_false_of_ne (ne_of_isDigit (hdigits c (List.mem_of_mem_getLast? hc)) (by decide))
  have hends : ∀ c ∈ colons, (c == ':') = true := fun c hc => beq_iff_eq.mpr (hcolons c hc)
  have hbehind : ∀ c ∈ sign ++ shown, c ≠ '$' ∧ c ≠ 'x' := by
    intro c hc
    rcases List.mem_append.mp hc with hc | hc
    · rcases hsign with rfl | rfl
      · cases hc
      · rw [List.mem_singleton.mp hc]
        decide
    · exact ⟨ne_of_isDigit (hdigits c hc) (by decide), ne_of_isDigit (hdigits c hc) (by decide)⟩
  have hparts : mark ++ (sign ++ (shown ++ colons)) = mark ++ (sign ++ shown) ++ colons := by
    simp only [List.append_assoc]
  unfold number?
  rw [hparts, dropEndWhile_append_of_forall hends hlast, dropMark_append hmark hbehind,
    dropSign_append hsign hdigits, read?_of_sameDigits hshown]
  simp [hbound]

theorem number?_of_writes {text : List Char} {value : Nat} (h : WritesNumber text value)
    (hbound : value < wordBound) : number? text = some value := by
  obtain ⟨mark, shown, colons, width, rfl, hmark, hshown, hcolons⟩ := h
  have hnumber := number?_of_parts hmark (.inl rfl) hshown hcolons hbound
  rwa [List.nil_append] at hnumber

/-- A field that writes a number is read. -/
theorem number_of_writes {text : String} {value : Nat} (h : WritesNumber text.toList value)
    (hbound : value < wordBound) (field : String) : number field text = .ok value := by
  unfold number
  rw [number?_of_writes h hbound]

end RemoteDebug.Decode
