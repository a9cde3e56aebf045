import RemoteDebug.Text.Blank

/-!
# Trimming

Laws of `dropEndWhile` and of the two trims of a line built on it: the line ends of the wire are
blanks, so a line without its line ends trims to the same text (`trimEnd_chomp`).
-/

namespace RemoteDebug.Text

variable {α : Type}

/-- Dropping what satisfies a stronger test first makes no difference. -/
theorem dropEndWhile_dropEndWhile {strong weak : α → Bool} (h : ∀ a, strong a → weak a)
    (items : List α) : dropEndWhile weak (dropEndWhile strong items) = dropEndWhile weak items := by
  unfold dropEndWhile
  rw [List.reverse_reverse]
  congr 1
  induction items.reverse with
  | nil => rfl
  | cons a rest ih =>
    rw [List.dropWhile_cons (p := strong)]
    split
    · rename_i ha
      rw [ih, List.dropWhile_cons_of_pos (h a ha)]
    · rfl

/-- What an end loses satisfies the test. -/
theorem exists_eq_dropEndWhile_append (test : α → Bool) (items : List α) :
    ∃ ends, items = dropEndWhile test items ++ ends ∧ ∀ a ∈ ends, test a = true := by
  refine ⟨(items.reverse.takeWhile test).reverse, ?_, ?_⟩
  · unfold dropEndWhile
    rw [← List.reverse_append, List.takeWhile_append_dropWhile, List.reverse_reverse]
  · intro a ha
    rw [List.mem_reverse] at ha
    exact List.all_eq_true.mp List.all_takeWhile a ha

theorem dropEndWhile_append_of_all {test : α → Bool} {ends : List α}
    (h : ∀ a ∈ ends, test a = true) (front : List α) :
    dropEndWhile test (front ++ ends) = dropEndWhile test front := by
  have hreversed : ∀ a ∈ ends.reverse, test a = true :=
    fun a ha => h a (List.mem_reverse.mp ha)
  unfold dropEndWhile
  rw [List.reverse_append, List.dropWhile_append_of_pos hreversed]

/-- An end is dropped up to the last element that fails the test. -/
theorem dropEndWhile_append_of_last (test : α → Bool) (front : List α) {last : α}
    (h : test last = false) (rest : List α) :
    dropEndWhile test (front ++ last :: rest) = front ++ last :: dropEndWhile test rest := by
  unfold dropEndWhile
  rw [List.reverse_append, List.reverse_cons]
  induction rest.reverse with
  | nil => simp [h]
  | cons a before ih =>
    cases ha : test a <;> simp_all

theorem isBlank_of_isLineEnd (c : Char) (h : isLineEnd c = true) : isBlank c = true := by
  simp only [isLineEnd, Bool.or_eq_true, beq_iff_eq] at h
  rcases h with rfl | rfl <;> rfl

theorem isBlank_of_isDigit (c : Char) (h : c.isDigit = true) : isBlank c = false := by
  simp only [Char.isDigit, Bool.and_eq_true, decide_eq_true_eq, ge_iff_le,
    UInt32.le_iff_toNat_le] at h
  have hlow : 48 ≤ c.toNat := h.1
  have hhigh : c.toNat ≤ 57 := h.2
  simp only [isBlank, Bool.or_eq_false_iff, Bool.and_eq_false_iff, decide_eq_false_iff_not,
    beq_eq_false_iff_ne, ne_eq]
  omega

/-- Line ends are blanks, so they make no difference to a trim. -/
theorem trimEnd_chomp (line : String) : trimEndOf (chompOf line) = trimEndOf line := by
  unfold trimEndOf chompOf trimEnd
  rw [String.toList_ofList, dropEndWhile_dropEndWhile isBlank_of_isLineEnd]

end RemoteDebug.Text
