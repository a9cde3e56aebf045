import RemoteDebug.Proofs.Command.Readers

/-!
# Two readings side by side

A reader reads two texts alike if it fails on both, or makes the same of both and leaves texts that
again correspond (`ReadsAlike`). What corresponds may be one thing before the reading and another
one behind it. Three relations are of use here: texts that differ in the blanks at their ends
(`SameTrimmed`), in the blanks at their end (`SameUpToEnd`), and in these where no blank stands at
the start any more (`SameFromStart`).

There is a law for each way in which readers are put together. Those of single characters read alike
what differs in the blanks at its end, since they take none; a padded reader reads alike what differs
in the blanks at both ends (`ReadsAlike.padded`), and leaves no blank at the start.
-/

namespace RemoteDebug

namespace Text

/-! ## Texts that differ in blanks -/

/-- Whether two texts are the same but for the blanks at their ends. -/
def SameTrimmed (text other : List Char) : Prop :=
  trim text = trim other

/-- Whether two texts are the same but for the blanks behind them. -/
def SameUpToEnd (text other : List Char) : Prop :=
  trimEnd text = trimEnd other

/-- Whether two texts are the same but for the blanks behind them, and have none in front. -/
def SameFromStart (text other : List Char) : Prop :=
  trimStart text = text ∧ trimStart other = other ∧ SameUpToEnd text other

variable {text other : List Char}

theorem sameUpToEnd_append (core : List Char) {ends others : List Char} (hends : IsBlankText ends)
    (hothers : IsBlankText others) : SameUpToEnd (core ++ ends) (core ++ others) := by
  unfold SameUpToEnd trimEnd
  rw [dropEndWhile_append_of_all hends, dropEndWhile_append_of_all hothers]

/-- Such texts have a text in common, behind which there is nothing but blanks. -/
theorem SameUpToEnd.exists_core (h : SameUpToEnd text other) :
    ∃ core ends others, text = core ++ ends ∧ other = core ++ others ∧ IsBlankText ends ∧
      IsBlankText others := by
  obtain ⟨ends, htext, hends⟩ := exists_eq_dropEndWhile_append isBlank text
  obtain ⟨others, hother, hothers⟩ := exists_eq_dropEndWhile_append isBlank other
  rw [← trimEnd] at htext hother
  rw [← h] at hother
  exact ⟨_, ends, others, htext, hother, hends, hothers⟩

theorem SameUpToEnd.sameTrimmed (h : SameUpToEnd text other) : SameTrimmed text other := by
  obtain ⟨core, ends, others, rfl, rfl, hends, hothers⟩ := h.exists_core
  unfold SameTrimmed
  rw [trim_append_blanks core hends, trim_append_blanks core hothers]

theorem SameTrimmed.sameFromStart (h : SameTrimmed text other) :
    SameFromStart (trimStart text) (trimStart other) :=
  ⟨trimStart_trimStart text, trimStart_trimStart other, h⟩

theorem SameFromStart.sameUpToEnd (h : SameFromStart text other) : SameUpToEnd text other :=
  h.2.2

theorem SameFromStart.symm (h : SameFromStart text other) : SameFromStart other text :=
  ⟨h.2.1, h.1, h.2.2.symm⟩

/-- Where no blank stands at the start, a text is empty if its blanks at the end are all of it. -/
theorem SameFromStart.eq_nil (h : SameFromStart [] other) : other = [] := by
  obtain ⟨-, hstart, hsame⟩ := h
  have htrim : trim other = [] := hsame.sameTrimmed.symm
  exact trimStart_eq_nil_of_words (trim_eq_nil_iff.mp htrim) hstart

end Text

namespace Reader

open RemoteDebug.Text

variable {α β : Type} {reader other : Reader α} {next : α → Reader β}
variable {before middle after stronger weaker : List Char → List Char → Prop}

/-- Whether a reader makes the same of any two texts in one relation, or fails on both, and leaves
texts in another relation. -/
def ReadsAlike (reader : Reader α) (before after : List Char → List Char → Prop) : Prop :=
  ∀ ⦃text other : List Char⦄, before text other →
    (reader text = none ∧ reader other = none) ∨
      ∃ a rest behind, reader text = some (a, rest) ∧ reader other = some (a, behind) ∧
        after rest behind

theorem ReadsAlike.mono (h : reader.ReadsAlike before after)
    (hbefore : ∀ text other, stronger text other → before text other)
    (hafter : ∀ rest behind, after rest behind → weaker rest behind) :
    reader.ReadsAlike stronger weaker := by
  intro text other htexts
  rcases h (hbefore text other htexts) with hnone | ⟨a, rest, behind, hread, hother, hrests⟩
  · exact .inl hnone
  · exact .inr ⟨a, rest, behind, hread, hother, hafter rest behind hrests⟩

theorem readsAlike_pure (a : α) : (pure a : Reader α).ReadsAlike before before := by
  intro text other htexts
  exact .inr ⟨a, text, other, rfl, rfl, htexts⟩

theorem ReadsAlike.bind (h : reader.ReadsAlike before middle)
    (hnext : ∀ a, (next a).ReadsAlike middle after) :
    (reader >>= next).ReadsAlike before after := by
  intro text other htexts
  rcases h htexts with ⟨hnone, hother⟩ | ⟨a, rest, behind, hread, hother, hrests⟩
  · rw [bind_apply, bind_apply, hnone, hother]
    exact .inl ⟨rfl, rfl⟩
  · rw [bind_of_eq_some hread, bind_of_eq_some hother]
    exact hnext a hrests

theorem ReadsAlike.map (h : reader.ReadsAlike before after) (f : α → β) :
    (f <$> reader).ReadsAlike before after := by
  rw [map_eq_pure_bind]
  exact h.bind fun a => readsAlike_pure (f a)

theorem ReadsAlike.seqRight {second : Reader β} (h : reader.ReadsAlike before middle)
    (hsecond : second.ReadsAlike middle after) : (reader *> second).ReadsAlike before after := by
  rw [seqRight_eq_bind]
  exact h.bind fun _ => hsecond

theorem ReadsAlike.orElse (h : reader.ReadsAlike before after)
    (hother : other.ReadsAlike before after) : (reader <|> other).ReadsAlike before after := by
  intro text further htexts
  rcases h htexts with ⟨hnone, hfurther⟩ | ⟨a, rest, behind, hread, hfurther, hrests⟩
  · rw [orElse_of_eq_none hnone, orElse_of_eq_none hfurther]
    exact hother htexts
  · rw [orElse_of_eq_some hread, orElse_of_eq_some hfurther]
    exact .inr ⟨a, rest, behind, rfl, rfl, hrests⟩

theorem ReadsAlike.optional? (h : reader.ReadsAlike before before) :
    (optional? reader).ReadsAlike before before :=
  (h.map some).orElse (readsAlike_pure none)

theorem readsAlike_guard (test : Prop) [Decidable test] :
    (guard test : Reader Unit).ReadsAlike before before := by
  unfold guard
  split
  · exact readsAlike_pure ()
  · intro text other _
    exact .inl ⟨rfl, rfl⟩

theorem readsAlike_lift (told : Option α) :
    ReadsAlike (StateT.lift told : Reader α) before before := by
  intro text other htexts
  cases told with
  | none => exact .inl ⟨rfl, rfl⟩
  | some a => exact .inr ⟨a, text, other, rfl, rfl, htexts⟩

/-! ## As many items as there are -/

/-- Whether a reader takes something off every text that it reads. -/
def Advances (reader : Reader α) : Prop :=
  ∀ ⦃text : List Char⦄ ⦃a : α⦄ ⦃rest : List Char⦄, reader text = some (a, rest) →
    rest.length < text.length

/-- A reader that finds a word takes its characters. -/
theorem FindsWord.advances {spells : α → List Char → Prop} (h : reader.FindsWord spells) :
    reader.Advances := by
  intro text a rest hread
  obtain ⟨taken, rfl, tokens, hspaced, token, rfl, -⟩ := h hread
  have hne : taken ≠ [] := by
    intro hnil
    cases hspaced with
    | blank => cases hnil
    | token htoken => exact htoken.2 (List.append_eq_nil_iff.mp hnil).1
  have hpos := List.length_pos_iff.mpr hne
  rw [List.length_append]
  omega

theorem upTo_of_eq_none {text : List Char} (h : reader text = none) (limit : Nat) :
    upTo reader limit text = some ([], text) := by
  cases limit with
  | zero => rfl
  | succ limit =>
    unfold upTo
    rw [bind_of_eq_some (optional?_of_eq_none h)]
    rfl

theorem upTo_succ_of_eq_some {text rest : List Char} {a : α} (h : reader text = some (a, rest))
    (limit : Nat) : upTo reader (limit + 1) text =
      (upTo reader limit >>= fun items => pure (a :: items) : Reader (List α)) rest := by
  conv_lhs => unfold upTo
  rw [bind_of_eq_some (optional?_of_eq_some h)]

/-- Limits that are no less than the length of the text make no difference. -/
theorem Advances.upTo_eq (h : reader.Advances) {text : List Char} {limit further : Nat}
    (hlimit : text.length ≤ limit) (hfurther : text.length ≤ further) :
    upTo reader limit text = upTo reader further text := by
  induction limit generalizing text further with
  | zero =>
    cases hread : reader text with
    | none => rw [upTo_of_eq_none hread, upTo_of_eq_none hread]
    | some read =>
      have hshorter := h hread
      omega
  | succ limit ih =>
    cases hread : reader text with
    | none => rw [upTo_of_eq_none hread, upTo_of_eq_none hread]
    | some read =>
      have hshorter := h hread
      cases further with
      | zero => omega
      | succ further =>
        rw [upTo_succ_of_eq_some hread, upTo_succ_of_eq_some hread, bind_apply, bind_apply,
          ih (by omega) (by omega : read.2.length ≤ further)]

theorem ReadsAlike.upTo (h : reader.ReadsAlike before before) (limit : Nat) :
    (upTo reader limit).ReadsAlike before before := by
  induction limit with
  | zero => exact readsAlike_pure []
  | succ limit ih =>
    refine h.optional?.bind fun item? => ?_
    cases item? with
    | none => exact readsAlike_pure []
    | some item => exact ih.bind fun items => readsAlike_pure (item :: items)

theorem ReadsAlike.many (h : reader.ReadsAlike before before) (hadvances : reader.Advances) :
    (many reader).ReadsAlike before before := by
  intro text other htexts
  -- each reading is bounded by its own text, but a common bound does as well
  have hfirst : Reader.many reader text =
      Reader.upTo reader (text.length + other.length) text :=
    hadvances.upTo_eq (Nat.le_refl _) (Nat.le_add_right _ _)
  have hsecond : Reader.many reader other =
      Reader.upTo reader (text.length + other.length) other :=
    hadvances.upTo_eq (Nat.le_refl _) (Nat.le_add_left _ _)
  rw [hfirst, hsecond]
  exact h.upTo _ htexts

/-! ## Characters that are no blanks -/

theorem readsAlike_exactly {expected : List Char} (hexpected : HasNoBlank expected) :
    (exactly expected).ReadsAlike SameUpToEnd SameUpToEnd := by
  intro text other htexts
  obtain ⟨core, ends, others, rfl, rfl, hends, hothers⟩ := htexts.exists_core
  -- what is expected stands within the common text or not at all
  by_cases hstarts : expected <+: core
  · obtain ⟨rest, rfl⟩ := hstarts
    refine .inr ⟨(), rest ++ ends, rest ++ others, ?_, ?_, sameUpToEnd_append rest hends hothers⟩
    · rw [List.append_assoc, exactly_append]
    · rw [List.append_assoc, exactly_append]
  · exact .inl ⟨exactly_eq_none hexpected hends.startsBlank hstarts,
      exactly_eq_none hexpected hothers.startsBlank hstarts⟩

theorem readsAlike_char {test : Char → Bool} (hblank : ∀ c, isBlank c = true → test c = false) :
    (char test).ReadsAlike SameUpToEnd SameUpToEnd := by
  intro text other htexts
  obtain ⟨core, ends, others, rfl, rfl, hends, hothers⟩ := htexts.exists_core
  cases core with
  | nil =>
    have hnone (text : List Char) (htext : IsBlankText text) : char test text = none := by
      cases text with
      | nil => rfl
      | cons c rest => exact if_neg (by simp [hblank c (htext c List.mem_cons_self)])
    exact .inl ⟨hnone ends hends, hnone others hothers⟩
  | cons c rest =>
    cases hc : test c with
    | false => exact .inl ⟨if_neg (by simp [hc]), if_neg (by simp [hc])⟩
    | true =>
      exact .inr ⟨c, rest ++ ends, rest ++ others, if_pos hc, if_pos hc,
        sameUpToEnd_append rest hends hothers⟩

/-- Blanks behind a text do not change how many of its characters satisfy a test from the start. -/
theorem takeWhile_append_blanks {test : Char → Bool}
    (hblank : ∀ c, isBlank c = true → test c = false) (core : List Char) {ends : List Char}
    (hends : IsBlankText ends) : (core ++ ends).takeWhile test = core.takeWhile test := by
  have hnone : ends.takeWhile test = [] := by
    cases ends with
    | nil => rfl
    | cons c rest => simp [hblank c (hends c List.mem_cons_self)]
  rw [List.takeWhile_append]
  split
  · rename_i hall
    rw [hnone, List.append_nil]
    exact ((List.takeWhile_prefix test).eq_of_length hall).symm
  · rfl

/-- What is left behind these characters keeps the blanks. -/
theorem dropWhile_append_blanks {test : Char → Bool}
    (hblank : ∀ c, isBlank c = true → test c = false) (core : List Char) {ends : List Char}
    (hends : IsBlankText ends) : (core ++ ends).dropWhile test = core.dropWhile test ++ ends := by
  have hall : ends.dropWhile test = ends := by
    cases ends with
    | nil => rfl
    | cons c rest => simp [hblank c (hends c List.mem_cons_self)]
  rw [List.dropWhile_append]
  split
  · rename_i hnil
    rw [hall, List.isEmpty_iff.mp hnil, List.nil_append]
  · rfl

theorem readsAlike_charsWhile {test : Char → Bool}
    (hblank : ∀ c, isBlank c = true → test c = false) :
    (charsWhile test).ReadsAlike SameUpToEnd SameUpToEnd := by
  intro text other htexts
  obtain ⟨core, ends, others, rfl, rfl, hends, hothers⟩ := htexts.exists_core
  refine .inr ⟨core.takeWhile test, core.dropWhile test ++ ends, core.dropWhile test ++ others,
    ?_, ?_, sameUpToEnd_append _ hends hothers⟩
  · unfold charsWhile
    rw [takeWhile_append_blanks hblank core hends, dropWhile_append_blanks hblank core hends]
  · unfold charsWhile
    rw [takeWhile_append_blanks hblank core hothers, dropWhile_append_blanks hblank core hothers]

/-! ## Blanks -/

theorem readsAlike_blanks : blanks.ReadsAlike SameTrimmed SameFromStart := by
  intro text other htexts
  exact .inr ⟨(), trimStart text, trimStart other, rfl, rfl, htexts.sameFromStart⟩

/-- A padded reader reads alike what differs in the blanks around it. -/
theorem ReadsAlike.padded (h : reader.ReadsAlike SameUpToEnd SameUpToEnd) :
    (padded reader).ReadsAlike SameTrimmed SameFromStart := by
  have hinside := h.mono (fun _ _ => SameFromStart.sameUpToEnd) fun _ _ => SameUpToEnd.sameTrimmed
  exact readsAlike_blanks.bind fun _ => hinside.bind fun a =>
    readsAlike_blanks.bind fun _ => readsAlike_pure a

/-- What is read alike with blanks around it is read alike where none are in front any more. -/
theorem ReadsAlike.fromStart (h : reader.ReadsAlike SameTrimmed SameFromStart) :
    reader.ReadsAlike SameFromStart SameFromStart :=
  h.mono (fun _ _ hsame => hsame.sameUpToEnd.sameTrimmed) fun _ _ hsame => hsame

/-- The end of the text is found in both texts or in neither. -/
theorem readsAlike_atEnd : atEnd.ReadsAlike SameFromStart SameFromStart := by
  intro text other htexts
  cases text with
  | nil =>
    obtain rfl := htexts.eq_nil
    exact .inr ⟨(), [], [], rfl, rfl, htexts⟩
  | cons c rest =>
    cases other with
    | nil => cases htexts.symm.eq_nil
    | cons d behind => exact .inl ⟨rfl, rfl⟩

/-- Texts that are read alike up to where no blank is left are read alike as a whole. -/
theorem ReadsAlike.readAll?_eq (h : reader.ReadsAlike before SameFromStart)
    {text other : List Char} (htexts : before text other) :
    reader.readAll? text = reader.readAll? other := by
  have hall := h.bind fun a => readsAlike_atEnd.bind fun _ => readsAlike_pure a
  unfold readAll?
  rcases hall htexts with ⟨hnone, hother⟩ | ⟨a, rest, behind, hread, hother, -⟩
  · rw [hnone, hother]
  · rw [hread, hother]
    rfl

end Reader

end RemoteDebug
