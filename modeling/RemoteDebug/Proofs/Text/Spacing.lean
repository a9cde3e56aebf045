import Mathlib.Data.List.DropRight
import RemoteDebug.Proofs.Text.Words

/-!
# Tokens with and without blanks between them

A reader that skips the blanks around each token takes a text with blanks between its tokens, and
the same text without them. `IsSpaced` is what both have in common. The words of such a text are its
tokens if there are as many of them; else some tokens have run together (`IsSpaced.words_eq`).
-/

namespace RemoteDebug.Text

/-- Whether a text is one word: it has characters, and no blank among them. -/
def IsWord (text : List Char) : Prop :=
  HasNoBlank text ∧ text ≠ []

instance (text : List Char) : Decidable (IsWord text) :=
  inferInstanceAs (Decidable (_ ∧ _))

/-- A text that starts with a word has no blanks at its start. -/
theorem IsWord.trimStart_append {word : List Char} (hword : IsWord word) (behind : List Char) :
    trimStart (word ++ behind) = word ++ behind := by
  have hstart : ∀ c ∈ (word ++ behind).head?, isBlank c = false := by
    intro c hc
    rw [List.head?_append_of_ne_nil word hword.2] at hc
    exact hword.1 c (List.mem_of_mem_head? hc)
  exact trimStart_blanks (List.forall_mem_nil _) hstart

theorem IsWord.words_append {word : List Char} (hword : IsWord word) {behind : List Char}
    (hbehind : StartsBlank behind) : words (word ++ behind) = word :: words behind :=
  Text.words_append hword.1 hword.2 hbehind

/-- Whether a text consists of tokens, in order, with any blanks around and between them. -/
inductive IsSpaced : List (List Char) → List Char → Prop
  | nil : IsSpaced [] []
  | blank {tokens : List (List Char)} {text : List Char} {c : Char} (hc : isBlank c = true)
    (h : IsSpaced tokens text) : IsSpaced tokens (c :: text)
  | token {tokens : List (List Char)} {text token : List Char} (htoken : IsWord token)
    (h : IsSpaced tokens text) : IsSpaced (token :: tokens) (token ++ text)

namespace IsSpaced

variable {tokens others : List (List Char)} {token text behind : List Char}

theorem of_isBlankText (h : IsBlankText text) : IsSpaced [] text := by
  induction text with
  | nil => exact nil
  | cons c rest ih =>
    obtain ⟨hc, hrest⟩ := List.forall_mem_cons.mp h
    exact blank hc (ih hrest)

theorem single (htoken : IsWord token) : IsSpaced [token] token := by
  have h := IsSpaced.token htoken nil
  rwa [List.append_nil] at h

theorem append (h : IsSpaced tokens text) (hbehind : IsSpaced others behind) :
    IsSpaced (tokens ++ others) (text ++ behind) := by
  induction h with
  | nil => exact hbehind
  | blank hc _ ih => exact blank hc ih
  | token htoken _ ih =>
    rw [List.cons_append, List.append_assoc]
    exact token htoken ih

/-- What starts a text behind its blanks is the first token. -/
theorem exists_trimStart (h : IsSpaced (token :: tokens) text) :
    ∃ rest, (∀ behind, trimStart (text ++ behind) = token ++ (rest ++ behind)) ∧
      IsSpaced tokens rest := by
  generalize hall : token :: tokens = all at h
  induction h with
  | nil => cases hall
  | @blank _ _ c hc _ ih =>
    obtain ⟨rest, htrim, hrest⟩ := ih hall
    refine ⟨rest, fun behind => ?_, hrest⟩
    rw [← htrim behind]
    exact List.dropWhile_cons_of_pos hc
  | @token _ rest _ htoken hrest =>
    cases hall
    refine ⟨rest, fun behind => ?_, hrest⟩
    rw [List.append_assoc, htoken.trimStart_append]

theorem isBlankText (h : IsSpaced [] text) : IsBlankText text := by
  generalize hnone : [] = none at h
  induction h with
  | nil => exact List.forall_mem_nil _
  | blank hc _ ih => exact List.forall_mem_cons.mpr ⟨hc, ih hnone⟩
  | token => cases hnone

end IsSpaced

/-! ## Words -/

theorem words_trimStart (text : List Char) : words (trimStart text) = words text := by
  induction text with
  | nil => rfl
  | cons c rest ih =>
    cases hc : isBlank c with
    | true =>
      rw [words_cons_blank hc, ← ih]
      unfold trimStart
      rw [List.dropWhile_cons_of_pos hc]
    | false =>
      unfold trimStart
      rw [List.dropWhile_cons_of_neg (by simp [hc])]

/-- A blank separates the words before it from those behind it. -/
theorem words_append_cons_blank {c : Char} (hc : isBlank c = true) (front behind : List Char) :
    words (front ++ c :: behind) = words front ++ words behind := by
  unfold words
  rw [List.splitOnP_append_cons front behind hc, List.filter_append]

theorem words_of_isBlankText {text : List Char} (h : IsBlankText text) : words text = [] := by
  induction text with
  | nil => rfl
  | cons c rest ih =>
    obtain ⟨hc, hrest⟩ := List.forall_mem_cons.mp h
    rw [words_cons_blank hc, ih hrest]

theorem words_append_blanks (text : List Char) {ends : List Char} (h : IsBlankText ends) :
    words (text ++ ends) = words text := by
  cases ends with
  | nil => rw [List.append_nil]
  | cons c rest =>
    obtain ⟨hc, hrest⟩ := List.forall_mem_cons.mp h
    rw [words_append_cons_blank hc, words_of_isBlankText hrest, List.append_nil]

/-- Trimming leaves the words of a text alone. -/
theorem words_trim (text : List Char) : words (trim text) = words text := by
  obtain ⟨ends, hparts, hends⟩ := exists_eq_dropEndWhile_append isBlank (trimStart text)
  rw [← words_trimStart text, hparts, words_append_blanks _ hends]
  rfl

theorem exists_eq_blanks_append (text : List Char) :
    ∃ lead, IsBlankText lead ∧ text = lead ++ trimStart text :=
  ⟨text.takeWhile isBlank, List.all_eq_true.mp List.all_takeWhile,
    List.takeWhile_append_dropWhile.symm⟩

theorem isBlank_of_mem_head?_trimStart {text : List Char} {c : Char}
    (h : c ∈ (trimStart text).head?) : isBlank c = false := by
  have hhead := List.head?_dropWhile_not isBlank text
  rw [show (text.dropWhile isBlank).head? = some c from h] at hhead
  simpa using hhead

theorem trimStart_trimStart (text : List Char) : trimStart (trimStart text) = trimStart text :=
  List.dropWhile_idempotent isBlank text

theorem trim_trimStart (text : List Char) : trim (trimStart text) = trim text := by
  unfold trim
  rw [trimStart_trimStart]

theorem trim_blanks_append {lead : List Char} (h : IsBlankText lead) (text : List Char) :
    trim (lead ++ text) = trim text := by
  unfold trim trimStart
  rw [List.dropWhile_append_of_pos h]

theorem isTrimmed_trim (text : List Char) : IsTrimmed (trim text) := by
  constructor
  · intro c hc
    obtain ⟨ends, hparts, -⟩ := exists_eq_dropEndWhile_append isBlank (trimStart text)
    have hne : trim text ≠ [] := by
      intro hnil
      rw [hnil] at hc
      cases hc
    have hstart : (trimStart text).head? = (trim text).head? := by
      rw [hparts]
      exact List.head?_append_of_ne_nil _ hne
    exact isBlank_of_mem_head?_trimStart (hstart ▸ hc)
  · intro c hc
    have hend : c ∈ ((trimStart text).reverse.dropWhile isBlank).head? := by
      rw [← List.getLast?_reverse]
      exact hc
    exact isBlank_of_mem_head?_trimStart hend

theorem trim_append_blanks (text : List Char) {ends : List Char} (h : IsBlankText ends) :
    trim (text ++ ends) = trim text := by
  unfold trim trimEnd trimStart
  rw [List.dropWhile_append]
  split
  · rename_i hnil
    rw [List.isEmpty_iff.mp hnil, List.dropWhile_eq_nil_iff.mpr h]
  · exact dropEndWhile_append_of_all h _

/-- Line ends are blanks, so a line without them trims to the same text. -/
theorem trim_chompOf (line : String) : trim (chompOf line).toList = trim line.toList := by
  obtain ⟨ends, hparts, hends⟩ := exists_eq_dropEndWhile_append isLineEnd line.toList
  have hblank : IsBlankText ends := fun c hc => isBlank_of_isLineEnd c (hends c hc)
  unfold chompOf
  rw [String.toList_ofList]
  conv_rhs => rw [hparts, trim_append_blanks _ hblank]

/-- A text that has no words is blank, and the others start with a word behind their blanks. -/
theorem exists_first_word (text : List Char) :
    (words text = [] ∧ trimStart text = []) ∨
      ∃ word rest, trimStart text = word ++ rest ∧ IsWord word ∧ StartsBlank rest ∧
        words text = word :: words rest := by
  cases htrim : trimStart text with
  | nil =>
    have hwords := words_trimStart text
    rw [htrim] at hwords
    exact .inl ⟨hwords.symm, rfl⟩
  | cons c rest =>
    have hc : isBlank c = false := isBlank_of_mem_head?_trimStart (by rw [htrim]; rfl)
    have hword : HasNoBlank ((c :: rest).takeWhile fun c => !isBlank c) := by
      intro d hd
      simpa using List.mem_takeWhile_imp hd
    have hne : (c :: rest).takeWhile (fun c => !isBlank c) ≠ [] := by
      rw [List.takeWhile_cons_of_pos (by simp [hc])]
      exact List.cons_ne_nil _ _
    have hrest : StartsBlank ((c :: rest).dropWhile fun c => !isBlank c) := by
      intro d hd
      have hhead := List.head?_dropWhile_not (fun c => !isBlank c) (c :: rest)
      rw [hd] at hhead
      simpa using hhead
    have hparts := List.takeWhile_append_dropWhile (p := fun c => !isBlank c) (l := c :: rest)
    refine .inr ⟨_, _, hparts.symm, ⟨hword, hne⟩, hrest, ?_⟩
    rw [← words_append hword hne hrest, hparts, ← htrim, words_trimStart]

/-- A text with at least one word starts with it, behind its blanks. -/
theorem exists_trimStart_of_words {text token : List Char} {more : List (List Char)}
    (h : words text = token :: more) : ∃ rest, trimStart text = token ++ rest ∧ IsWord token ∧
      StartsBlank rest ∧ words rest = more := by
  rcases exists_first_word text with ⟨hnone, -⟩ | ⟨word, rest, htrim, hword, hrest, hwords⟩
  · rw [hnone] at h
    cases h
  · rw [hwords] at h
    cases h
    exact ⟨rest, htrim, hword, hrest, rfl⟩

theorem trim_eq_nil_iff {text : List Char} : trim text = [] ↔ words text = [] := by
  constructor
  · intro h
    rw [← words_trim, h]
    rfl
  · intro h
    rcases exists_first_word text with ⟨-, hnil⟩ | ⟨_, _, _, _, _, hsome⟩
    · unfold trim
      rw [hnil]
      rfl
    · rw [hsome] at h
      cases h

theorem trim_eq_nil_iff_isBlankText {text : List Char} : trim text = [] ↔ IsBlankText text := by
  constructor
  · intro h
    obtain ⟨lead, hlead, htext⟩ := exists_eq_blanks_append text
    rcases exists_first_word text with ⟨-, hnil⟩ | ⟨_, _, _, _, _, hsome⟩
    · rwa [htext, hnil, List.append_nil]
    · rw [trim_eq_nil_iff.mp h] at hsome
      cases hsome
  · intro h
    exact trim_eq_nil_iff.mpr (words_of_isBlankText h)

theorem trimStart_eq_nil_of_words {text : List Char} (hwords : words text = [])
    (htrim : trimStart text = text) : text = [] := by
  rcases exists_first_word text with ⟨-, hnil⟩ | ⟨_, _, _, _, _, hsome⟩
  · rw [← htrim, hnil]
  · rw [hsome] at hwords
    cases hwords

theorem length_words_le_length (text : List Char) : (words text).length ≤ text.length := by
  -- the text behind the first word is shorter
  induction hlength : text.length using Nat.strongRecOn generalizing text with
  | ind length ih =>
    rcases exists_first_word text with ⟨hnil, -⟩ | ⟨word, rest, hparts, hword, -, hwords⟩
    · rw [hnil]
      exact Nat.zero_le _
    · have hshorter : (trimStart text).length ≤ text.length :=
        (List.dropWhile_sublist isBlank).length_le
      have hpos := List.length_pos_iff.mpr hword.2
      rw [hparts, List.length_append] at hshorter
      have hrest := ih rest.length (by omega) rest rfl
      rw [hwords, List.length_cons]
      omega

/-- A word that nothing separates from the next one runs together with it. -/
theorem words_append_of_not_startsBlank (hword : HasNoBlank token) (hbehind : ¬StartsBlank behind) :
    ∃ next others, words behind = next :: others ∧
      words (token ++ behind) = (token ++ next) :: others := by
  have htrim : trimStart behind = behind := by
    refine trimStart_blanks (List.forall_mem_nil _) fun c hc => ?_
    rw [Bool.eq_false_iff]
    intro hblank
    refine hbehind fun d hd => ?_
    cases Option.mem_unique hc hd
    exact hblank
  rcases exists_first_word behind with ⟨-, hnil⟩ | ⟨next, rest, hparts, hnext, hrest, hwords⟩
  · rw [← htrim, hnil] at hbehind
    exact absurd (fun c hc => by cases hc) hbehind
  · refine ⟨next, words rest, hwords, ?_⟩
    rw [← htrim, hparts, ← List.append_assoc]
    refine words_append (fun c hc => ?_) (by simp [hnext.2]) hrest
    exact (List.mem_append.mp hc).elim (hword c) (hnext.1 c)

/-- The words of a text hold all its characters but the blanks. -/
theorem flatten_words (text : List Char) :
    (words text).flatten = text.filter fun c => !isBlank c := by
  induction text with
  | nil => rfl
  | cons c rest ih =>
    cases hc : isBlank c with
    | true => rw [words_cons_blank hc, ih, List.filter_cons_of_neg (by simp [hc])]
    | false =>
      have hword : HasNoBlank [c] := List.forall_mem_singleton.mpr hc
      rw [List.filter_cons_of_pos (by simp [hc]), ← ih]
      by_cases hrest : StartsBlank rest
      · have hwords := words_append hword (List.cons_ne_nil c []) hrest
        rw [List.singleton_append] at hwords
        rw [hwords, List.flatten_cons, List.singleton_append]
      · -- the character stands in front of the first word of the rest
        obtain ⟨next, others, hnext, hwords⟩ := words_append_of_not_startsBlank hword hrest
        rw [List.singleton_append] at hwords
        rw [hwords, hnext, List.flatten_cons, List.flatten_cons, List.singleton_append,
          List.cons_append]

theorem isWord_of_mem_words {word text : List Char} (h : word ∈ words text) : IsWord word := by
  refine ⟨fun c hc => ?_, by simpa using (List.mem_filter.mp h).2⟩
  have hkept : c ∈ (words text).flatten := List.mem_flatten.mpr ⟨word, h, hc⟩
  rw [flatten_words] at hkept
  simpa using (List.mem_filter.mp hkept).2

/-- Words with a blank between them are the words of the text. -/
theorem words_intercalate {tokens : List (List Char)} (h : ∀ token ∈ tokens, IsWord token) :
    words ([' '].intercalate tokens) = tokens := by
  induction tokens with
  | nil => rfl
  | cons token rest ih =>
    obtain ⟨htoken, hrest⟩ := List.forall_mem_cons.mp h
    cases rest with
    | nil =>
      rw [List.intercalate_singleton]
      exact words_of_hasNoBlank htoken.1 htoken.2
    | cons next others =>
      rw [List.intercalate_cons_cons, List.append_assoc, List.singleton_append,
        words_append_cons_blank rfl, words_of_hasNoBlank htoken.1 htoken.2, ih hrest,
        List.singleton_append]

/-- Trimming loses nothing but blanks. -/
theorem filter_trim (text : List Char) :
    (trim text).filter (fun c => !isBlank c) = text.filter fun c => !isBlank c := by
  rw [← flatten_words, ← flatten_words, words_trim]

namespace IsSpaced

variable {tokens : List (List Char)} {text : List Char}

/-- There are no more words than tokens. -/
theorem length_words_le (h : IsSpaced tokens text) : (words text).length ≤ tokens.length := by
  induction h with
  | nil => exact Nat.zero_le _
  | blank hc _ ih => rwa [words_cons_blank hc]
  | @token _ rest _ htoken _ ih =>
    by_cases hrest : StartsBlank rest
    · rw [htoken.words_append hrest]
      exact Nat.succ_le_succ ih
    · obtain ⟨next, others, hwords, htogether⟩ := words_append_of_not_startsBlank htoken.1 hrest
      rw [hwords] at ih
      rw [htogether]
      exact Nat.le_succ_of_le ih

/-- If there are as many words as tokens, they are the tokens. -/
theorem words_eq (h : IsSpaced tokens text) (hlength : (words text).length = tokens.length) :
    words text = tokens := by
  induction h with
  | nil => rfl
  | blank hc _ ih =>
    rw [words_cons_blank hc] at hlength ⊢
    exact ih hlength
  | @token _ rest _ htoken hspaced ih =>
    by_cases hrest : StartsBlank rest
    · rw [htoken.words_append hrest] at hlength ⊢
      rw [ih (Nat.succ.inj hlength)]
    · -- tokens that have run together are too few words
      obtain ⟨next, others, hwords, htogether⟩ := words_append_of_not_startsBlank htoken.1 hrest
      have hle := hspaced.length_words_le
      rw [hwords] at hle
      rw [htogether] at hlength
      simp only [List.length_cons] at hle hlength
      omega

end IsSpaced

end RemoteDebug.Text
