import Mathlib.Data.List.Basic
import RemoteDebug.Proofs.Text.Trimming

/-!
# Cutting texts

A text that is put together from pieces with blanks or separators between them is cut into these
pieces again: at its first separator (`splitAtFirst?_append`), between the blanks at its ends
(`trim_blanks`) and behind its first word (`words_append`).
-/

namespace RemoteDebug.Text

/-- Whether a text is nothing but blanks. -/
def IsBlankText (text : List Char) : Prop :=
  ∀ c ∈ text, isBlank c = true

/-- Whether a text has no blanks in it. -/
def HasNoBlank (text : List Char) : Prop :=
  ∀ c ∈ text, isBlank c = false

/-- Whether a text starts with a blank, unless it is empty. -/
def StartsBlank (text : List Char) : Prop :=
  ∀ c ∈ text.head?, isBlank c = true

/-- Whether a text has no blanks at its ends. -/
def IsTrimmed (text : List Char) : Prop :=
  (∀ c ∈ text.head?, isBlank c = false) ∧ ∀ c ∈ text.getLast?, isBlank c = false

/- The instances go through lists: characters could be enumerated as well, but not in time. -/

instance (text : List Char) : Decidable (IsBlankText text) :=
  decidable_of_iff (text.all isBlank) List.all_eq_true

instance (text : List Char) : Decidable (HasNoBlank text) :=
  decidable_of_iff (text.all fun c => !isBlank c) (by simp [HasNoBlank])

instance (text : List Char) : Decidable (IsTrimmed text) :=
  decidable_of_iff ((text.head?.all fun c => !isBlank c) ∧ text.getLast?.all fun c => !isBlank c)
    (by simp [IsTrimmed, Option.all_eq_true])

theorem IsBlankText.startsBlank {text : List Char} (h : IsBlankText text) : StartsBlank text :=
  fun c hc => h c (List.mem_of_mem_head? hc)

theorem HasNoBlank.isTrimmed {text : List Char} (h : HasNoBlank text) : IsTrimmed text :=
  ⟨fun c hc => h c (List.mem_of_mem_head? hc), fun c hc => h c (List.mem_of_mem_getLast? hc)⟩

/-! ## A single cut -/

theorem splitAtFirst?_append {test : Char → Bool} {front : List Char}
    (hfront : ∀ c ∈ front, test c = false) {separator : Char} (hseparator : test separator = true)
    (behind : List Char) :
    splitAtFirst? test (front ++ separator :: behind) = some (front, behind) := by
  have hpasses : ∀ c ∈ front, (!test c) = true := by
    intro c hc
    rw [hfront c hc]
    rfl
  unfold splitAtFirst?
  rw [List.dropWhile_append_of_pos hpasses, List.takeWhile_append_of_pos hpasses]
  simp [hseparator]

theorem splitAtFirst?_eq_none {test : Char → Bool} {text : List Char}
    (h : ∀ c ∈ text, test c = false) : splitAtFirst? test text = none := by
  have hpasses : ∀ c ∈ text, (!test c) = true := by
    intro c hc
    rw [h c hc]
    rfl
  have hnothing : (text ++ []).dropWhile (fun c => !test c) = [] :=
    List.dropWhile_append_of_pos hpasses
  rw [List.append_nil] at hnothing
  unfold splitAtFirst?
  rw [hnothing]

/-! ## Ends -/

theorem dropEndWhile_append_of_forall {α : Type} {test : α → Bool} {ends : List α}
    (hends : ∀ a ∈ ends, test a = true) {front : List α}
    (hfront : ∀ a ∈ front.getLast?, test a = false) : dropEndWhile test (front ++ ends) = front := by
  rw [dropEndWhile_append_of_all hends]
  unfold dropEndWhile
  rcases List.eq_nil_or_concat front with rfl | ⟨before, last, rfl⟩
  · rfl
  · rw [List.concat_eq_append] at hfront ⊢
    simp [hfront last (by simp)]

theorem trimStart_blanks {lead : List Char} (hlead : IsBlankText lead) {text : List Char}
    (htext : ∀ c ∈ text.head?, isBlank c = false) : trimStart (lead ++ text) = text := by
  unfold trimStart
  rw [List.dropWhile_append_of_pos hlead]
  cases text with
  | nil => rfl
  | cons c rest => simp [htext c rfl]

theorem trim_blanks {lead text trail : List Char} (hlead : IsBlankText lead)
    (htext : IsTrimmed text) (hne : text ≠ []) (htrail : IsBlankText trail) :
    trim (lead ++ (text ++ trail)) = text := by
  have hstart : ∀ c ∈ (text ++ trail).head?, isBlank c = false := by
    rw [List.head?_append_of_ne_nil text hne]
    exact htext.1
  unfold trim trimEnd
  rw [trimStart_blanks hlead hstart, dropEndWhile_append_of_forall htrail htext.2]

theorem trim_of_hasNoBlank {text : List Char} (h : HasNoBlank text) : trim text = text := by
  cases text with
  | nil => rfl
  | cons c rest =>
    have htrim := trim_blanks (List.forall_mem_nil _) h.isTrimmed (List.cons_ne_nil c rest)
      (List.forall_mem_nil _)
    rwa [List.nil_append, List.append_nil] at htrim

theorem isLineEnd_of_not_isBlank {c : Char} (h : isBlank c = false) : isLineEnd c = false := by
  rw [Bool.eq_false_iff]
  intro hend
  rw [isBlank_of_isLineEnd c hend] at h
  cases h

theorem chompOf_eq_self {line : String} (h : ∀ c ∈ line.toList.getLast?, isLineEnd c = false) :
    chompOf line = line := by
  have hkept := dropEndWhile_append_of_forall (List.forall_mem_nil _) h
  rw [List.append_nil] at hkept
  unfold chompOf
  rw [hkept, String.ofList_toList]

/-! ## Words -/

theorem words_cons_blank {c : Char} (hc : isBlank c = true) (text : List Char) :
    words (c :: text) = words text := by
  have hcut := List.splitOnP_append_cons_of_forall_mem (List.forall_mem_nil _) c hc text
  rw [List.nil_append] at hcut
  unfold words
  rw [hcut]
  rfl

/-- The words of a text that starts with a word are this word and those behind it. -/
theorem words_append {word : List Char} (hword : HasNoBlank word) (hne : word ≠ [])
    {behind : List Char} (hbehind : StartsBlank behind) :
    words (word ++ behind) = word :: words behind := by
  cases behind with
  | nil =>
    unfold words
    rw [List.append_nil, List.splitOnP_eq_singleton hword]
    simp [hne]
  | cons c rest =>
    rw [words_cons_blank (hbehind c rfl)]
    unfold words
    rw [List.splitOnP_append_cons_of_forall_mem hword c (hbehind c rfl)]
    simp [hne]

theorem words_blank_append {word : List Char} (hword : HasNoBlank word) (hne : word ≠ [])
    {behind : List Char} (hbehind : StartsBlank behind) :
    words (' ' :: (word ++ behind)) = word :: words behind := by
  rw [words_cons_blank rfl, words_append hword hne hbehind]

theorem words_of_hasNoBlank {word : List Char} (hword : HasNoBlank word) (hne : word ≠ []) :
    words word = [word] := by
  have hnone : StartsBlank [] := nofun
  have hwords := words_append hword hne hnone
  rwa [List.append_nil] at hwords

end RemoteDebug.Text
