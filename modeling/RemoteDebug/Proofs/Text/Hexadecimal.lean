import Mathlib.Algebra.Group.Nat.Defs
import Mathlib.Data.List.Forall2
import Mathlib.Data.List.Induction
import RemoteDebug.Text.Hex

/-!
# Reading back hexadecimal digits

A number that was written is read back, with zeros in front of it and with its digits in either case
(`read?_of_sameDigits`), and so are bytes (`bytes?_of_sameDigits`). What the reader makes of a
digit does not depend on its case, so all of it comes down to the digits that `Nat.toDigits` gives.
Nothing else is read as a number (`sameDigits_of_read?`).
-/

namespace RemoteDebug.Hex

/-! ## Digits of either case -/

/-- Whether a character is a digit of lower case or the same digit of upper case. -/
def IsCaseOf (c digit : Char) : Prop :=
  c = digit ∨ c = digit.toUpper

/-- Whether a text consists of digits of lower case, each of them in either case. -/
def SameDigits (text digits : List Char) : Prop :=
  List.Forall₂ IsCaseOf text digits

/-- Whether a character is one of the sixteen digits of lower case. -/
def IsLower (c : Char) : Prop :=
  ∃ k < 16, c = k.digitChar

theorem digitValue?_of_isCaseOf {c : Char} {k : Nat} (hk : k < 16) (h : IsCaseOf c k.digitChar) :
    digitValue? c = some k := by
  have hlower : ∀ k < 16, digitValue? k.digitChar = some k := by decide
  have hupper : ∀ k < 16, digitValue? k.digitChar.toUpper = some k := by decide
  rcases h with rfl | rfl
  · exact hlower k hk
  · exact hupper k hk

/-- What a reader makes of digits does not depend on their case. -/
theorem readFrom?_congr {text digits : List Char} (h : SameDigits text digits)
    (hdigits : ∀ c ∈ digits, IsLower c) (high : Nat) :
    readFrom? high text = readFrom? high digits := by
  induction h generalizing high with
  | nil => rfl
  | cons hcase _ ih =>
    obtain ⟨⟨k, hk, rfl⟩, hrest⟩ := List.forall_mem_cons.mp hdigits
    rw [readFrom?, readFrom?, digitValue?_of_isCaseOf hk hcase,
      digitValue?_of_isCaseOf hk (.inl rfl)]
    exact ih hrest _

/-- Every character of a text of digits has a value. -/
theorem isDigit_of_sameDigits {text digits : List Char} (h : SameDigits text digits)
    (hdigits : ∀ c ∈ digits, IsLower c) : ∀ c ∈ text, isDigit c = true := by
  induction h with
  | nil => exact List.forall_mem_nil _
  | cons hcase _ ih =>
    obtain ⟨⟨k, hk, rfl⟩, hrest⟩ := List.forall_mem_cons.mp hdigits
    refine List.forall_mem_cons.mpr ⟨?_, ih hrest⟩
    unfold isDigit
    rw [digitValue?_of_isCaseOf hk hcase]
    rfl

/-! ## Characters that are digits -/

/-- The digits of ASCII lie between the first decimal digit and the last letter of lower case. -/
theorem toNat_of_isDigit {c : Char} (h : isDigit c = true) : 48 ≤ c.toNat ∧ c.toNat ≤ 102 := by
  have hrange : ('0' ≤ c ∧ c ≤ '9') ∨ ('a' ≤ c ∧ c ≤ 'f') ∨ ('A' ≤ c ∧ c ≤ 'F') := by
    by_contra hnone
    simp only [not_or] at hnone
    unfold isDigit digitValue? at h
    rw [if_neg hnone.1, if_neg hnone.2.1, if_neg hnone.2.2] at h
    cases h
  simp only [Char.le_def, UInt32.le_iff_toNat_le] at hrange
  simp only [Char.reduceVal, UInt32.reduceToNat] at hrange
  have htoNat : c.val.toNat = c.toNat := rfl
  omega

/-- A character has a value only if it is the digit for it, in either case. -/
theorem isCaseOf_of_digitValue? {c : Char} {k : Nat} (h : digitValue? c = some k) :
    k < 16 ∧ IsCaseOf c k.digitChar := by
  have hdigits : ∀ code < 103, ∀ k ∈ digitValue? (Char.ofNat code),
      k < 16 ∧ (Char.ofNat code = k.digitChar ∨ Char.ofNat code = k.digitChar.toUpper) := by
    decide
  have hdigit : isDigit c = true := by
    unfold isDigit
    rw [h]
    rfl
  have hcode := toNat_of_isDigit hdigit
  have hread := hdigits c.toNat (by omega)
  rw [Char.ofNat_toNat] at hread
  exact hread k h

/-! ## Numbers -/

theorem isLower_of_mem_toDigits {value : Nat} : ∀ c ∈ Nat.toDigits 16 value, IsLower c := by
  -- the last digit stands behind those of the sixteenth part
  induction value using Nat.strongRecOn with
  | ind value ih =>
    by_cases hsmall : value < 16
    · rw [Nat.toDigits_of_lt_base hsmall, List.forall_mem_singleton]
      exact ⟨value, hsmall, rfl⟩
    · rw [Nat.toDigits_of_base_le (by decide) (by omega)]
      intro c hc
      rcases List.mem_append.mp hc with hc | hc
      · exact ih (value / 16) (by omega) c hc
      · exact ⟨value % 16, by omega, List.mem_singleton.mp hc⟩

theorem isLower_of_mem_digits {width value : Nat} : ∀ c ∈ digits width value, IsLower c := by
  unfold digits List.leftpad
  intro c hc
  rcases List.mem_append.mp hc with hc | hc
  · exact ⟨0, by decide, List.eq_of_mem_replicate hc⟩
  · exact isLower_of_mem_toDigits c hc

theorem isDigit_of_mem_digits {width value : Nat} {c : Char} (h : c ∈ digits width value) :
    isDigit c = true :=
  isDigit_of_sameDigits (List.forall₂_same.mpr fun _ _ => .inl rfl) isLower_of_mem_digits c h

theorem digits_ne_nil (width value : Nat) : digits width value ≠ [] := by
  unfold digits List.leftpad
  intro h
  have hnil : Nat.toDigits 16 value = [] := (List.append_eq_nil_iff.mp h).2
  by_cases hsmall : value < 16
  · rw [Nat.toDigits_of_lt_base hsmall] at hnil
    cases hnil
  · rw [Nat.toDigits_of_base_le (by decide) (by omega)] at hnil
    exact absurd hnil (by simp)

/-- A number that fits a width has as many digits. -/
theorem length_digits {width value : Nat} (hwidth : 0 < width) (h : value < 16 ^ width) :
    (digits width value).length = width := by
  have hfits := (Nat.length_toDigits_le_iff (by decide : 1 < 16) hwidth).mpr h
  unfold digits List.leftpad
  rw [List.length_append, List.length_replicate]
  omega

theorem readFrom?_append (high : Nat) (front back : List Char) :
    readFrom? high (front ++ back) = (readFrom? high front).bind (readFrom? · back) := by
  induction front generalizing high with
  | nil => rfl
  | cons c rest ih =>
    rw [List.cons_append, readFrom?, readFrom?]
    cases digitValue? c with
    | none => rfl
    | some low => exact ih _

theorem readFrom?_toDigits (value : Nat) : readFrom? 0 (Nat.toDigits 16 value) = some value := by
  induction value using Nat.strongRecOn with
  | ind value ih =>
    have hlast (high k : Nat) (hk : k < 16) :
        readFrom? high [k.digitChar] = some (16 * high + k) := by
      rw [readFrom?, digitValue?_of_isCaseOf hk (.inl rfl)]
      rfl
    by_cases hsmall : value < 16
    · rw [Nat.toDigits_of_lt_base hsmall, hlast 0 value hsmall]
      simp
    · rw [Nat.toDigits_of_base_le (by decide) (by omega), readFrom?_append,
        ih (value / 16) (by omega), Option.bind_some, hlast _ _ (by omega), Nat.div_add_mod]

theorem readFrom?_zeros (count : Nat) (text : List Char) :
    readFrom? 0 (List.replicate count '0' ++ text) = readFrom? 0 text := by
  induction count with
  | zero => rfl
  | succ count ih =>
    rw [List.replicate_succ, List.cons_append, readFrom?, show digitValue? '0' = some 0 from rfl]
    exact ih

theorem read?_of_sameDigits {text : List Char} {width value : Nat}
    (h : SameDigits text (digits width value)) : read? text = some value := by
  have hempty : text.isEmpty = false := by
    cases text with
    | nil => exact absurd (List.forall₂_nil_left_iff.mp h) (digits_ne_nil width value)
    | cons c rest => rfl
  unfold read?
  rw [hempty, if_neg Bool.false_ne_true, readFrom?_congr h isLower_of_mem_digits]
  unfold digits List.leftpad
  rw [readFrom?_zeros, readFrom?_toDigits]

/-! ## Texts that are read -/

theorem digits_one {value : Nat} (h : value < 16) : digits 1 value = [value.digitChar] := by
  unfold digits List.leftpad
  rw [Nat.toDigits_of_lt_base h]
  rfl

/-- The last digit stands behind those of the sixteenth part. -/
theorem digits_succ {width high low : Nat} (hwidth : 0 < width) (hlow : low < 16) :
    digits (width + 1) (16 * high + low) = digits width high ++ [low.digitChar] := by
  unfold digits List.leftpad
  by_cases hsmall : high = 0
  · subst hsmall
    rw [Nat.mul_zero, Nat.zero_add, Nat.toDigits_of_lt_base hlow,
      Nat.toDigits_of_lt_base (by decide)]
    obtain ⟨count, rfl⟩ := Nat.exists_eq_add_of_lt hwidth
    simp [List.replicate_succ']
  · have hhigh : (16 * high + low) / 16 = high := by omega
    have hmod : (16 * high + low) % 16 = low := by omega
    rw [Nat.toDigits_of_base_le (by decide) (by omega), hhigh, hmod]
    simp [List.append_assoc]

/-- A text that is read as a number is made of the digits of this number, in either case. -/
theorem sameDigits_of_readFrom? {text : List Char} {value : Nat} (hne : text ≠ [])
    (h : readFrom? 0 text = some value) : SameDigits text (digits text.length value) := by
  induction text using List.reverseRecOn generalizing value with
  | nil => exact absurd rfl hne
  | append_singleton front c ih =>
    rw [readFrom?_append] at h
    obtain ⟨high, hhigh, hlast⟩ := Option.bind_eq_some_iff.mp h
    simp only [readFrom?] at hlast
    cases hdigit : digitValue? c with
    | none =>
      rw [hdigit] at hlast
      cases hlast
    | some low =>
      rw [hdigit] at hlast
      cases hlast
      obtain ⟨hlow, hcase⟩ := isCaseOf_of_digitValue? hdigit
      cases front with
      | nil =>
        cases hhigh
        rw [Nat.mul_zero, Nat.zero_add]
        show SameDigits [c] (digits 1 low)
        rw [digits_one hlow]
        exact .cons hcase .nil
      | cons first rest =>
        have hfront := ih (List.cons_ne_nil _ _) hhigh
        have hpos : 0 < (first :: rest).length := Nat.succ_pos _
        rw [List.length_append, List.length_singleton, digits_succ hpos hlow]
        exact List.rel_append hfront (.cons hcase .nil)

theorem sameDigits_of_read? {text : List Char} {value : Nat} (h : read? text = some value) :
    SameDigits text (digits text.length value) := by
  obtain ⟨hne, hread⟩ := Option.ite_none_left_eq_some.mp h
  apply sameDigits_of_readFrom? _ hread
  simpa using hne

/-! ## Bytes -/

theorem digits_two {value : Nat} (h : value < 256) :
    digits 2 value = [(value / 16).digitChar, (value % 16).digitChar] := by
  unfold digits List.leftpad
  by_cases hsmall : value < 16
  · rw [Nat.toDigits_of_lt_base hsmall, Nat.div_eq_of_lt hsmall, Nat.mod_eq_of_lt hsmall]
    rfl
  · rw [Nat.toDigits_of_base_le (by decide) (by omega), Nat.toDigits_of_lt_base (by omega)]
    rfl

theorem bytesFrom?_of_sameDigits {text : List Char} {bytes : List UInt8}
    (h : SameDigits text (bytes.flatMap fun byte => digits 2 byte.toNat))
    (newestFirst : List UInt8) :
    bytesFrom? newestFirst text = some (newestFirst.reverse ++ bytes) := by
  induction bytes generalizing text newestFirst with
  | nil =>
    rw [List.forall₂_nil_right_iff.mp h, bytesFrom?, List.append_nil]
  | cons byte rest ih =>
    -- each byte takes two digits off the text
    have hbyte : byte.toNat < 256 := byte.toNat_lt
    rw [List.flatMap_cons, digits_two hbyte] at h
    obtain ⟨high, behind, hhigh, hbehind, rfl⟩ := List.forall₂_cons_right_iff.mp h
    obtain ⟨low, left, hlow, hleft, rfl⟩ := List.forall₂_cons_right_iff.mp hbehind
    rw [bytesFrom?, digitValue?_of_isCaseOf (by omega) hhigh,
      digitValue?_of_isCaseOf (by omega) hlow]
    dsimp only
    rw [ih hleft, Nat.div_add_mod, UInt8.ofNat_toNat, List.reverse_cons, List.append_assoc,
      List.singleton_append]

theorem isDigit_of_bytesFrom? {text : List Char} {newestFirst bytes : List UInt8}
    (h : bytesFrom? newestFirst text = some bytes) : ∀ c ∈ text, isDigit c = true := by
  induction newestFirst, text using bytesFrom?.induct with
  | case1 => exact List.forall_mem_nil _
  | case2 => cases h
  | case3 newestFirst high low rest value other hlow hhigh ih =>
    simp only [bytesFrom?, hhigh, hlow] at h
    refine List.forall_mem_cons.mpr ⟨?_, List.forall_mem_cons.mpr ⟨?_, ih h⟩⟩
    · rw [isDigit, hhigh]
      rfl
    · rw [isDigit, hlow]
      rfl
  | case4 newestFirst high low rest hnone =>
    simp only [bytesFrom?] at h
    cases h

/-- A text that writes bytes is nothing but digits. -/
theorem isDigit_of_bytes? {text : List Char} {bytes : List UInt8} (h : bytes? text = some bytes) :
    ∀ c ∈ text, isDigit c = true :=
  isDigit_of_bytesFrom? h

theorem bytes?_of_sameDigits {text : List Char} {bytes : List UInt8}
    (h : SameDigits text (bytes.flatMap fun byte => digits 2 byte.toNat)) :
    bytes? text = some bytes :=
  bytesFrom?_of_sameDigits h []

end RemoteDebug.Hex
