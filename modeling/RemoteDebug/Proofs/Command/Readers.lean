import Mathlib.Data.List.Forall2
import RemoteDebug.Command.Reader
import RemoteDebug.Proofs.Text.Spacing

/-!
# What readers take and what they read

`Takes` and `Finds` say what every text has in common that a reader succeeds on: how what it takes
off the text spells what it makes of it, as characters and as tokens between blanks. `Lexes` and
`Reads` say of which texts a reader makes something: of one token, and of tokens that are words of
the text. There is a law for each way in which readers are put together.
-/

namespace RemoteDebug.Reader

open RemoteDebug.Text

variable {α β : Type} {reader other : Reader α} {next : α → Reader β}

theorem bind_apply (reader : Reader α) (next : α → Reader β) (text : List Char) :
    (reader >>= next) text = (reader text).bind fun read => next read.1 read.2 := rfl

theorem bind_of_eq_some {text rest : List Char} {result : α} (h : reader text = some (result, rest))
    (next : α → Reader β) : (reader >>= next) text = next result rest := by
  rw [bind_apply, h]
  rfl

theorem orElse_apply (reader other : Reader α) (text : List Char) :
    (reader <|> other) text = (reader text).or (other text) := by
  show (reader text <|> other text) = _
  cases reader text <;> rfl

theorem orElse_of_eq_none {text : List Char} (h : reader text = none) (other : Reader α) :
    (reader <|> other) text = other text := by
  rw [orElse_apply, h, Option.none_or]

theorem orElse_of_eq_some {text rest : List Char} {result : α}
    (h : reader text = some (result, rest)) (other : Reader α) :
    (reader <|> other) text = some (result, rest) := by
  rw [orElse_apply, h, Option.some_or]

theorem optional?_of_eq_some {text rest : List Char} {result : α}
    (h : reader text = some (result, rest)) : optional? reader text = some (some result, rest) := by
  refine orElse_of_eq_some ?_ _
  rw [map_eq_pure_bind, bind_of_eq_some h]
  rfl

theorem optional?_of_eq_none {text : List Char} (h : reader text = none) :
    optional? reader text = some (none, text) := by
  refine orElse_of_eq_none ?_ _
  rw [map_eq_pure_bind, bind_apply, h]
  rfl

theorem padded_apply (reader : Reader α) (text : List Char) : padded reader text =
    (reader >>= fun read => blanks >>= fun _ => pure read) (trimStart text) := rfl

/-! ## What is taken off a text -/

/-- Whether what a reader takes off a text always spells what it makes of it. -/
def Takes (reader : Reader α) (spells : α → List Char → Prop) : Prop :=
  ∀ ⦃text : List Char⦄ ⦃result : α⦄ ⦃rest : List Char⦄, reader text = some (result, rest) →
    ∃ taken, text = taken ++ rest ∧ spells result taken

theorem Takes.mono {spells weaker : α → List Char → Prop} (h : reader.Takes spells)
    (hweaker : ∀ result taken, spells result taken → weaker result taken) :
    reader.Takes weaker := by
  intro text result rest hread
  obtain ⟨taken, htext, hspells⟩ := h hread
  exact ⟨taken, htext, hweaker result taken hspells⟩

theorem takes_pure (a : α) :
    (pure a : Reader α).Takes fun result taken => result = a ∧ taken = [] := by
  intro text result rest hread
  cases hread
  exact ⟨[], rfl, rfl, rfl⟩

theorem Takes.bind {first : α → List Char → Prop} {second : α → β → List Char → Prop}
    (h : reader.Takes first) (hnext : ∀ a, (next a).Takes (second a)) :
    (reader >>= next).Takes fun result taken =>
      ∃ a front back, taken = front ++ back ∧ first a front ∧ second a result back := by
  intro text result rest hread
  obtain ⟨⟨a, middle⟩, hfirst, hsecond⟩ := Option.bind_eq_some_iff.mp hread
  obtain ⟨front, rfl, hfront⟩ := h hfirst
  obtain ⟨back, rfl, hback⟩ := hnext a hsecond
  exact ⟨front ++ back, (List.append_assoc ..).symm, a, front, back, rfl, hfront, hback⟩

theorem Takes.orElse {spells : α → List Char → Prop} (h : reader.Takes spells)
    (hother : other.Takes spells) : (reader <|> other).Takes spells := by
  intro text result rest hread
  rw [orElse_apply] at hread
  rcases Option.or_eq_some_iff.mp hread with hread | ⟨-, hread⟩
  · exact h hread
  · exact hother hread

theorem Takes.optional? {spells : α → List Char → Prop} (h : reader.Takes spells) :
    (optional? reader).Takes fun result taken =>
      match result with
      | some a => spells a taken
      | none => taken = [] := by
  intro text result rest hread
  cases hfirst : reader text with
  | none =>
    rw [optional?_of_eq_none hfirst] at hread
    cases hread
    exact ⟨[], rfl, rfl⟩
  | some read =>
    rw [optional?_of_eq_some hfirst] at hread
    cases hread
    exact h hfirst

theorem takes_guard (test : Prop) [Decidable test] :
    (guard test : Reader Unit).Takes fun _ taken => test ∧ taken = [] := by
  intro text result rest hread
  unfold guard at hread
  split at hread
  · rename_i htest
    cases hread
    exact ⟨[], rfl, htest, rfl⟩
  · cases hread

theorem takes_char (test : Char → Bool) :
    (char test).Takes fun c taken => taken = [c] ∧ test c = true := by
  intro text result rest hread
  cases text with
  | nil => cases hread
  | cons c behind =>
    replace hread : (if test c then some (c, behind) else none) = some (result, rest) := hread
    obtain ⟨htest, hsome⟩ := Option.ite_none_right_eq_some.mp hread
    cases hsome
    exact ⟨[result], rfl, rfl, htest⟩

theorem takes_charsWhile (test : Char → Bool) :
    (charsWhile test).Takes fun chars taken => taken = chars ∧ ∀ c ∈ taken, test c = true := by
  intro text result rest hread
  cases hread
  refine ⟨_, List.takeWhile_append_dropWhile.symm, rfl, ?_⟩
  exact List.all_eq_true.mp List.all_takeWhile

theorem takes_someChars (test : Char → Bool) :
    (someChars test).Takes fun chars taken =>
      taken = chars ∧ chars ≠ [] ∧ ∀ c ∈ taken, test c = true := by
  refine ((takes_charsWhile test).bind fun chars =>
    (takes_guard (!chars.isEmpty)).bind fun _ => takes_pure chars).mono ?_
  rintro _ _ ⟨chars, taken, _, rfl, ⟨rfl, htest⟩, _, _, _, rfl, ⟨hne, rfl⟩, rfl, rfl⟩
  rw [List.append_nil, List.append_nil]
  exact ⟨rfl, by simpa using hne, htest⟩

theorem takes_exactly (expected : List Char) :
    (exactly expected).Takes fun _ taken => taken = expected := by
  intro text result rest hread
  unfold exactly at hread
  split at hread
  · rename_i hstarts
    cases hread
    have htext := List.prefix_iff_eq_append.mp (List.isPrefixOf_iff_prefix.mp hstarts)
    exact ⟨expected, htext.symm, rfl⟩
  · cases hread

theorem exactly_pure_apply (expected : List Char) (a : α) (text : List Char) :
    (exactly expected *> pure a : Reader α) text =
      if expected.isPrefixOf text then some (a, text.drop expected.length) else none := by
  show (exactly expected >>= fun _ => pure a : Reader α) text = _
  rw [bind_apply]
  unfold exactly
  split <;> rfl

theorem takes_exactly_pure (expected : List Char) (a : α) :
    (exactly expected *> pure a : Reader α).Takes fun result taken =>
      result = a ∧ taken = expected := by
  refine ((takes_exactly expected).bind fun _ => takes_pure a).mono ?_
  rintro _ _ ⟨_, taken, _, rfl, rfl, rfl, rfl⟩
  exact ⟨rfl, List.append_nil _⟩

theorem takes_blanks : blanks.Takes fun _ taken => IsBlankText taken := by
  intro text result rest hread
  cases hread
  refine ⟨text.takeWhile isBlank, List.takeWhile_append_dropWhile.symm, ?_⟩
  exact List.all_eq_true.mp List.all_takeWhile

/-! ## Tokens that are found -/

/-- Whether what a reader takes off a text always consists of tokens that spell what it makes of
it. -/
def Finds (reader : Reader α) (spells : α → List (List Char) → Prop) : Prop :=
  reader.Takes fun result taken => ∃ tokens, IsSpaced tokens taken ∧ spells result tokens

/-- Whether what a reader takes off a text is always one token that spells what it makes of it. -/
def FindsWord (reader : Reader α) (spells : α → List Char → Prop) : Prop :=
  reader.Finds fun result tokens => ∃ token, tokens = [token] ∧ spells result token

theorem Finds.mono {spells weaker : α → List (List Char) → Prop} (h : reader.Finds spells)
    (hweaker : ∀ result tokens, spells result tokens → weaker result tokens) :
    reader.Finds weaker :=
  Takes.mono h fun result _ ⟨tokens, hspaced, hspells⟩ =>
    ⟨tokens, hspaced, hweaker result tokens hspells⟩

theorem finds_pure (a : α) :
    (pure a : Reader α).Finds fun result tokens => result = a ∧ tokens = [] := by
  refine (takes_pure a).mono ?_
  rintro result - ⟨hresult, rfl⟩
  exact ⟨[], .nil, hresult, rfl⟩

theorem finds_guard (test : Prop) [Decidable test] :
    (guard test : Reader Unit).Finds fun _ tokens => test ∧ tokens = [] := by
  refine (takes_guard test).mono ?_
  rintro - - ⟨htest, rfl⟩
  exact ⟨[], .nil, htest, rfl⟩

theorem Finds.bind {first : α → List (List Char) → Prop} {second : α → β → List (List Char) → Prop}
    (h : reader.Finds first) (hnext : ∀ a, (next a).Finds (second a)) :
    (reader >>= next).Finds fun result tokens =>
      ∃ a front back, tokens = front ++ back ∧ first a front ∧ second a result back := by
  refine (Takes.bind h hnext).mono ?_
  rintro result - ⟨a, front, back, rfl, ⟨early, hearly, hfirst⟩, late, hlate, hsecond⟩
  exact ⟨early ++ late, hearly.append hlate, a, early, late, rfl, hfirst, hsecond⟩

theorem Finds.orElse {spells : α → List (List Char) → Prop} (h : reader.Finds spells)
    (hother : other.Finds spells) : (reader <|> other).Finds spells :=
  Takes.orElse h hother

theorem Finds.optional? {spells : α → List (List Char) → Prop} (h : reader.Finds spells) :
    (optional? reader).Finds fun result tokens =>
      match result with
      | some a => spells a tokens
      | none => tokens = [] := by
  refine (Takes.optional? h).mono ?_
  rintro (_ | a) taken hspells
  · cases hspells
    exact ⟨[], .nil, rfl⟩
  · exact hspells

/-- A reader that takes a word off the text finds a token. -/
theorem Takes.findsWord {spells : α → List Char → Prop} (h : reader.Takes spells)
    (hword : ∀ result taken, spells result taken → IsWord taken) : reader.FindsWord spells :=
  h.mono fun result taken hspells =>
    ⟨[taken], .single (hword result taken hspells), taken, rfl, hspells⟩

theorem Finds.padded {spells : α → List (List Char) → Prop} (h : reader.Finds spells) :
    (padded reader).Finds spells := by
  have hblanks : blanks.Finds fun _ tokens => tokens = [] :=
    takes_blanks.mono fun _ _ hblank => ⟨[], .of_isBlankText hblank, rfl⟩
  refine (hblanks.bind fun _ => h.bind fun result =>
    hblanks.bind fun _ => finds_pure result).mono ?_
  rintro _ _ ⟨_, _, _, rfl, rfl, result, tokens, _, rfl, hspells, _, _, _, rfl, rfl, rfl, rfl⟩
  rwa [List.nil_append, List.nil_append, List.append_nil]

theorem Takes.padded {spells : α → List Char → Prop} (h : reader.Takes spells)
    (hword : ∀ result taken, spells result taken → IsWord taken) :
    (padded reader).FindsWord spells :=
  Finds.padded (h.findsWord hword)

theorem findsWord_word (expected : String) (hword : IsWord expected.toList) :
    (word expected).FindsWord fun _ taken => taken = expected.toList :=
  (takes_exactly _).padded fun _ _ htaken => htaken ▸ hword

theorem FindsWord.many {spells : α → List Char → Prop} (h : reader.FindsWord spells) :
    (many reader).Finds (List.Forall₂ spells) := by
  have hupTo (limit : Nat) : (upTo reader limit).Finds (List.Forall₂ spells) := by
    induction limit with
    | zero =>
      refine (finds_pure []).mono ?_
      rintro - - ⟨rfl, rfl⟩
      exact .nil
    | succ limit ih =>
      refine Finds.mono (Finds.bind (Finds.optional? h) fun item? =>
        (?_ : Finds _ fun items tokens =>
          ∃ others, items = item?.toList ++ others ∧ List.Forall₂ spells others tokens)) ?_
      · cases item? with
        | none => exact (finds_pure []).mono fun _ _ ⟨hitems, htokens⟩ =>
            ⟨[], hitems, htokens ▸ .nil⟩
        | some item =>
          refine (ih.bind fun others => finds_pure (item :: others)).mono ?_
          rintro _ _ ⟨others, tokens, _, rfl, hothers, rfl, rfl⟩
          rw [List.append_nil]
          exact ⟨others, rfl, hothers⟩
      · rintro _ _ ⟨_ | item, front, back, rfl, hfront, others, rfl, hothers⟩
        · cases hfront
          exact hothers
        · obtain ⟨token, rfl, htoken⟩ := hfront
          exact .cons htoken hothers
  intro text result rest hread
  exact hupTo text.length hread

/-- What a reader makes of a whole text is spelled by the text. -/
theorem Takes.of_readAll? {spells : α → List Char → Prop} (h : reader.Takes spells)
    {text : List Char} {result : α} (hread : reader.readAll? text = some result) :
    spells result text := by
  obtain ⟨⟨_, behind⟩, hall, rfl⟩ := Option.map_eq_some_iff.mp hread
  obtain ⟨⟨_, rest⟩, hfirst, hend⟩ := Option.bind_eq_some_iff.mp hall
  cases rest with
  | cons => cases hend
  | nil =>
    cases hend
    obtain ⟨taken, htext, hspells⟩ := h hfirst
    rw [List.append_nil] at htext
    rwa [htext]

/-! ## Words that are read -/

/-- Whether a reader makes something of a token, wherever blanks or nothing follow it. -/
def Lexes (reader : Reader α) (token : List Char) (result : α) : Prop :=
  ∀ ⦃rest : List Char⦄, StartsBlank rest → reader (token ++ rest) = some (result, rest)

/-- Whether a reader makes something of the words that a text starts with, and takes them off the
text with the blanks behind them. -/
def Reads (reader : Reader α) (tokens : List (List Char)) (result : α) : Prop :=
  ∀ ⦃text : List Char⦄ ⦃more : List (List Char)⦄, words text = tokens ++ more →
    ∃ rest, reader text = some (result, rest) ∧ trimStart rest = rest ∧ words rest = more

/-- Whether a reader makes something of the words of a text, from the first one on, and leaves
nothing. -/
def Finishes (reader : Reader α) (tokens : List (List Char)) (result : α) : Prop :=
  ∀ ⦃text : List Char⦄, trimStart text = text → words text = tokens →
    reader text = some (result, [])

theorem lexes_charsWhile {test : Char → Bool} {chars : List Char}
    (hchars : ∀ c ∈ chars, test c = true) (hblank : ∀ c, isBlank c = true → test c = false) :
    (charsWhile test).Lexes chars chars := by
  intro rest hrest
  unfold charsWhile
  rw [List.takeWhile_append_of_pos hchars, List.dropWhile_append_of_pos hchars]
  cases rest with
  | nil => rw [List.takeWhile_nil, List.dropWhile_nil, List.append_nil]
  | cons c behind =>
    have hc := hblank c (hrest c rfl)
    rw [List.takeWhile_cons_of_neg (by simp [hc]), List.dropWhile_cons_of_neg (by simp [hc]),
      List.append_nil]

theorem Lexes.bind_pure {token : List Char} {a : α} (h : reader.Lexes token a) (f : α → β) :
    (reader >>= fun read => pure (f read)).Lexes token (f a) := by
  intro rest hrest
  rw [bind_of_eq_some (h hrest)]
  rfl

theorem Lexes.reads_padded {token : List Char} {result : α} (h : reader.Lexes token result) :
    (padded reader).Reads [token] result := by
  intro text more hwords
  obtain ⟨rest, htrim, -, hrest, hmore⟩ := exists_trimStart_of_words hwords
  refine ⟨trimStart rest, ?_, trimStart_trimStart rest, (words_trimStart rest).trans hmore⟩
  rw [padded_apply, htrim, bind_of_eq_some (h hrest)]
  rfl

theorem Reads.bind_pure {tokens : List (List Char)} {a : α} (h : reader.Reads tokens a)
    (f : α → β) : (reader >>= fun read => pure (f read) : Reader β).Reads tokens (f a) := by
  intro text more hwords
  obtain ⟨rest, hread, hrest⟩ := h hwords
  exact ⟨rest, bind_of_eq_some hread _, hrest⟩

theorem Reads.orElse {tokens : List (List Char)} {a : α} (h : reader.Reads tokens a)
    (other : Reader α) : (reader <|> other).Reads tokens a := by
  intro text more hwords
  obtain ⟨rest, hread, hrest⟩ := h hwords
  exact ⟨rest, orElse_of_eq_some hread other, hrest⟩

/-- A reader that is followed by one that leaves nothing reads the whole text. -/
theorem Reads.readAll?_bind {early late : List (List Char)} {a : α} {b : β}
    (h : reader.Reads early a) (hnext : (next a).Finishes late b) {text : List Char}
    (hwords : words text = early ++ late) : (reader >>= next).readAll? text = some b := by
  obtain ⟨rest, hread, htrim, hrest⟩ := h hwords
  unfold readAll?
  rw [bind_of_eq_some ((bind_of_eq_some hread next).trans (hnext htrim hrest))]
  rfl

theorem Reads.finishes_bind {early late : List (List Char)} {a : α} {b : β}
    (h : reader.Reads early a) (hnext : (next a).Finishes late b) :
    (reader >>= next).Finishes (early ++ late) b := by
  intro text _ hwords
  obtain ⟨rest, hread, htrim, hrest⟩ := h hwords
  exact (bind_of_eq_some hread next).trans (hnext htrim hrest)

theorem Finishes.bind {early : List (List Char)} {a : α} {b : β} (h : reader.Finishes early a)
    (hnext : (next a).Finishes [] b) : (reader >>= next).Finishes early b := by
  intro text htrim hwords
  rw [bind_of_eq_some (h htrim hwords)]
  exact hnext rfl rfl

theorem finishes_pure (a : α) : (pure a : Reader α).Finishes [] a := by
  intro text htrim hwords
  rw [trimStart_eq_nil_of_words hwords htrim]
  rfl

theorem finishes_guard {test : Prop} [Decidable test] (h : test) :
    (guard test : Reader Unit).Finishes [] () := by
  unfold guard
  rw [if_pos h]
  exact finishes_pure ()

theorem Reads.finishes {tokens : List (List Char)} {a : α} (h : reader.Reads tokens a) :
    reader.Finishes tokens a := by
  intro text _ hwords
  rw [← List.append_nil tokens] at hwords
  obtain ⟨rest, hread, htrim, hrest⟩ := h hwords
  rw [hread, trimStart_eq_nil_of_words hrest htrim]

theorem Finishes.optional? {tokens : List (List Char)} {a : α} (h : reader.Finishes tokens a) :
    (optional? reader).Finishes tokens (some a) :=
  fun _ htrim hwords => optional?_of_eq_some (h htrim hwords)

theorem finishes_optional?_nil (hnone : reader [] = none) :
    (optional? reader).Finishes [] none := by
  intro text htrim hwords
  cases trimStart_eq_nil_of_words hwords htrim
  exact optional?_of_eq_none hnone

/-- Words that are read one by one are read together. -/
theorem finishes_many {spells : α → List Char → Prop} (hnone : reader [] = none)
    (hreads : ∀ a token, spells a token → reader.Reads [token] a) {items : List α}
    {tokens : List (List Char)} (h : List.Forall₂ spells items tokens) :
    (many reader).Finishes tokens items := by
  have hupTo (limit : Nat) (hlimit : tokens.length ≤ limit) :
      (upTo reader limit).Finishes tokens items := by
    induction h generalizing limit with
    | nil =>
      cases limit with
      | zero => exact finishes_pure []
      | succ limit => exact (finishes_optional?_nil hnone).bind (finishes_pure [])
    | @cons item token items tokens hitem _ ih =>
      cases limit with
      | zero => cases hlimit
      | succ limit =>
        have hone : (optional? reader).Reads [token] (some item) := by
          intro text more hwords
          obtain ⟨rest, hread, hrest⟩ := hreads item token hitem hwords
          exact ⟨rest, optional?_of_eq_some hread, hrest⟩
        have hothers := ih limit (Nat.le_of_succ_le_succ hlimit)
        exact hone.finishes_bind (hothers.bind (finishes_pure (item :: items)))
  intro text htrim hwords
  exact hupTo text.length (hwords ▸ length_words_le_length text) htrim hwords

/-! ## What cannot be read -/

/-- A text without blanks stands at the start of another only within its first word. -/
theorem prefix_of_prefix_append {expected token rest : List Char} (hexpected : HasNoBlank expected)
    (hrest : StartsBlank rest) (h : expected <+: token ++ rest) : expected <+: token := by
  rcases List.prefix_or_prefix_of_prefix h (List.prefix_append token rest) with hstarts | hlonger
  · exact hstarts
  · obtain ⟨behind, rfl⟩ := hlonger
    cases behind with
    | nil => simp
    | cons c others =>
      -- what would go on behind the word is a blank
      obtain ⟨left, rfl⟩ := (List.prefix_append_right_inj token).mp h
      have hblank := hrest c rfl
      rw [hexpected c (by simp)] at hblank
      cases hblank

theorem exactly_eq_none {expected token rest : List Char} (hexpected : HasNoBlank expected)
    (hrest : StartsBlank rest) (h : ¬expected <+: token) :
    exactly expected (token ++ rest) = none := by
  unfold exactly
  rw [if_neg]
  intro hstarts
  exact h (prefix_of_prefix_append hexpected hrest (List.isPrefixOf_iff_prefix.mp hstarts))

theorem exactly_append (expected behind : List Char) :
    exactly expected (expected ++ behind) = some ((), behind) := by
  unfold exactly
  rw [if_pos (List.isPrefixOf_iff_prefix.mpr (List.prefix_append ..)), List.drop_left]

theorem lexes_exactly (expected : List Char) : (exactly expected).Lexes expected () := by
  intro rest _
  exact exactly_append expected rest

theorem reads_word (expected : String) : (word expected).Reads [expected.toList] () :=
  (lexes_exactly expected.toList).reads_padded

/-- Whether a reader fails on every text that starts with a word, behind its blanks. -/
def Rejects (reader : Reader α) (token : List Char) : Prop :=
  ∀ ⦃text : List Char⦄ ⦃more : List (List Char)⦄, words text = token :: more → reader text = none

theorem rejects_word {expected : String} {token : List Char}
    (hexpected : HasNoBlank expected.toList) (hstarts : ¬expected.toList <+: token) :
    (word expected).Rejects token := by
  intro text more hwords
  obtain ⟨rest, htrim, -, hrest, -⟩ := exists_trimStart_of_words hwords
  rw [word, padded_apply, htrim, bind_apply, exactly_eq_none hexpected hrest hstarts]
  rfl

theorem Rejects.bind {token : List Char} (h : reader.Rejects token) (next : α → Reader β) :
    (reader >>= next).Rejects token := by
  intro text more hwords
  rw [bind_apply, h hwords]
  rfl

/-- The second of two alternatives is read where the first one fails. -/
theorem Reads.orElse_of_rejects {token : List Char} {more : List (List Char)} {a : α}
    (hother : other.Rejects token) (h : reader.Reads (token :: more) a) :
    (other <|> reader).Reads (token :: more) a := by
  intro text others hwords
  obtain ⟨rest, hread, hrest⟩ := h hwords
  exact ⟨rest, (orElse_of_eq_none (hother hwords) _).trans hread, hrest⟩

end RemoteDebug.Reader
