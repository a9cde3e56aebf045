import RemoteDebug.Proofs.Wire.LineKinds

/-!
# Where stop markers stand

Of all that a splitter holds, only whether a block is open decides what the next stop marker means.
`insideAfter` follows that one fact along the lines and `stopsFrom` tells whether a marker is met
outside; `stopObserved_pushAll` and `isOpen_pushAll` say that the splitter does the same. A splitter
that starts outside sees at least the markers that one inside sees (`stopsFrom_mono`), and the
ones it sees more are those before the first line that opens or closes a block
(`stopsFrom_outside_iff`).
-/

namespace RemoteDebug.Wire

open RemoteDebug.Text

/-! ## Inside and outside -/

/-- Whether a block is open. -/
def Splitter.isOpen (splitter : Splitter) : Bool :=
  splitter.current.isSome

/-- Whether a block is open behind a line, given whether one is open before it. -/
def insideAfter (inside : Bool) (line : String) : Bool :=
  if Splitter.isEnd (chompOf line) then false
  else if !inside && isStopMarker line then false
  else inside || Splitter.isTag (chompOf line)

/-- Whether a block is open behind lines. -/
def insideAfterAll (inside : Bool) (lines : List String) : Bool :=
  lines.foldl insideAfter inside

@[simp] theorem insideAfterAll_nil (inside : Bool) : insideAfterAll inside [] = inside := rfl

@[simp] theorem insideAfterAll_cons (inside : Bool) (line : String) (rest : List String) :
    insideAfterAll inside (line :: rest) = insideAfterAll (insideAfter inside line) rest := by
  rw [insideAfterAll, List.foldl_cons, insideAfterAll]

/-- Whether a stop marker stands outside every block of lines, given whether a block is open before
them. -/
def stopsFrom (inside : Bool) : List String → Bool
  | [] => false
  | line :: rest => !inside && isStopMarker line || stopsFrom (insideAfter inside line) rest

/-- The splitter opens and closes blocks as `insideAfter` says. -/
theorem isOpen_push (splitter : Splitter) (line : String) :
    (splitter.push line).1.isOpen = insideAfter splitter.isOpen line := by
  unfold Splitter.push Splitter.pushChomped insideAfter
  rcases splitter with ⟨_ | block, stopped⟩ <;>
    cases hend : Splitter.isEnd (chompOf line) <;>
    cases htag : Splitter.isTag (chompOf line) <;>
    cases hmarker : isStopMarker line <;>
    simp_all [Splitter.isOpen, Splitter.finish]

/-- The splitter observes a stop marker outside a block and no other one. -/
theorem stopObserved_push (splitter : Splitter) (line : String) :
    (splitter.push line).1.stopObserved =
      (splitter.stopObserved || !splitter.isOpen && isStopMarker line) := by
  unfold Splitter.push Splitter.pushChomped
  rcases splitter with ⟨_ | block, stopped⟩
  · cases hmarker : isStopMarker line with
    | true =>
      -- a marker closes no block, so it gets as far as the test for markers
      simp [isEnd_of_isStopMarker hmarker, hmarker, Splitter.isOpen]
    | false =>
      cases hend : Splitter.isEnd (chompOf line) <;>
        cases htag : Splitter.isTag (chompOf line) <;>
        simp [hmarker, Splitter.finish, Splitter.isOpen]
  · cases hend : Splitter.isEnd (chompOf line) <;>
      cases htag : Splitter.isTag (chompOf line) <;>
      simp [Splitter.finish, Splitter.isOpen]

/-- Lines open and close blocks as `insideAfterAll` says. -/
theorem isOpen_pushAll (splitter : Splitter) (lines : List String) :
    (splitter.pushAll lines).1.isOpen = insideAfterAll splitter.isOpen lines := by
  induction lines generalizing splitter with
  | nil => rfl
  | cons line rest ih =>
    rw [Splitter.pushAll, ih, isOpen_push, insideAfterAll_cons]

/-- Lines show a stop if `stopsFrom` says so, or if one was seen before them. -/
theorem stopObserved_pushAll (splitter : Splitter) (lines : List String) :
    (splitter.pushAll lines).1.stopObserved =
      (splitter.stopObserved || stopsFrom splitter.isOpen lines) := by
  induction lines generalizing splitter with
  | nil => simp [Splitter.pushAll, stopsFrom]
  | cons line rest ih =>
    rw [Splitter.pushAll, ih, isOpen_push, stopObserved_push, stopsFrom, Bool.or_assoc]

/-- A reply shows a stop exactly if a marker stands outside every block of its lines. -/
theorem splitReply_stopObserved (lines : List String) :
    (splitReply lines).stopObserved = stopsFrom false lines := by
  show (Splitter.pushAll {} lines).1.stopObserved = _
  rw [stopObserved_pushAll]
  rfl

/-! ## Lines behind lines -/

theorem insideAfterAll_append (inside : Bool) (front back : List String) :
    insideAfterAll inside (front ++ back) = insideAfterAll (insideAfterAll inside front) back :=
  List.foldl_append

/-- Lines behind lines show a stop on their own, given whether a block is open before them. -/
theorem stopsFrom_append (inside : Bool) (front back : List String) :
    stopsFrom inside (front ++ back) =
      (stopsFrom inside front || stopsFrom (insideAfterAll inside front) back) := by
  induction front generalizing inside with
  | nil => simp [stopsFrom]
  | cons line rest ih =>
    rw [List.cons_append, stopsFrom, stopsFrom, ih, Bool.or_assoc, insideAfterAll_cons]

/-- A stop marker shown is one that stands where no block is open. -/
theorem stopsFrom_iff (inside : Bool) (lines : List String) :
    stopsFrom inside lines = true ↔
      ∃ front marker back, lines = front ++ marker :: back ∧ isStopMarker marker = true ∧
        insideAfterAll inside front = false := by
  constructor
  · intro h
    induction lines generalizing inside with
    | nil => cases h
    | cons line rest ih =>
      simp only [stopsFrom, Bool.or_eq_true, Bool.and_eq_true, Bool.not_eq_true'] at h
      rcases h with ⟨hinside, hmarker⟩ | h
      · exact ⟨[], line, rest, rfl, hmarker, hinside⟩
      · obtain ⟨front, marker, back, rfl, hmarker, hfront⟩ := ih _ h
        exact ⟨line :: front, marker, back, rfl, hmarker, by rw [insideAfterAll_cons, hfront]⟩
  · rintro ⟨front, marker, back, rfl, hmarker, hfront⟩
    rw [stopsFrom_append, hfront]
    simp [stopsFrom, hmarker]

/-! ## Leaving markers out -/

theorem insideAfter_of_isStopMarker {line : String} (h : isStopMarker line = true)
    (inside : Bool) : insideAfter inside line = inside := by
  unfold insideAfter
  cases inside <;> simp [isEnd_of_isStopMarker h, h]

/-- A stop marker neither opens nor closes a block. -/
theorem insideAfterAll_filter_markers (inside : Bool) (lines : List String) :
    insideAfterAll inside (lines.filter fun line => !isStopMarker line) =
      insideAfterAll inside lines := by
  induction lines generalizing inside with
  | nil => rfl
  | cons line rest ih =>
    cases hmarker : isStopMarker line with
    | true =>
      rw [List.filter_cons_of_neg (by simp [hmarker]), insideAfterAll_cons,
        insideAfter_of_isStopMarker hmarker, ih]
    | false =>
      rw [List.filter_cons_of_pos (by simp [hmarker]), insideAfterAll_cons, insideAfterAll_cons, ih]

/-- Lines without a stop marker show no stop. -/
theorem stopsFrom_of_no_marker {lines : List String}
    (h : ∀ line ∈ lines, isStopMarker line = false) (inside : Bool) :
    stopsFrom inside lines = false := by
  refine Bool.eq_false_iff.mpr fun hstop => ?_
  obtain ⟨front, marker, back, rfl, hmarker, -⟩ := (stopsFrom_iff inside _).mp hstop
  have hnone := h marker (by simp)
  rw [hmarker] at hnone
  cases hnone

/-! ## The same lines from inside and from outside -/

/-- Whoever is inside a block stays inside at least as long as whoever is not. -/
theorem insideAfter_mono {inside outer : Bool} (h : inside = true → outer = true)
    (line : String) (hinside : insideAfter inside line = true) :
    insideAfter outer line = true := by
  unfold insideAfter at hinside ⊢
  cases hend : Splitter.isEnd (chompOf line) <;>
    cases hmarker : isStopMarker line <;>
    cases htag : Splitter.isTag (chompOf line) <;>
    cases inside <;> cases outer <;> simp_all

/-- A marker seen from inside a block is seen from outside as well. -/
theorem stopsFrom_mono {inside outer : Bool} (h : inside = true → outer = true)
    (lines : List String) (hstop : stopsFrom outer lines = true) :
    stopsFrom inside lines = true := by
  induction lines generalizing inside outer with
  | nil => cases hstop
  | cons line rest ih =>
    simp only [stopsFrom, Bool.or_eq_true, Bool.and_eq_true, Bool.not_eq_true'] at hstop ⊢
    rcases hstop with ⟨houter, hmarker⟩ | hstop
    · exact .inl ⟨Bool.eq_false_iff.mpr fun hin => by simp [h hin] at houter, hmarker⟩
    · exact .inr (ih (insideAfter_mono h line) hstop)

/-- Leaving out echoes hides no stop marker, since an echo opens a block and closes none. -/
theorem stopsFrom_filter_echo {inside outer : Bool} (h : inside = true → outer = true)
    (lines : List String) (hstop : stopsFrom outer lines = true) :
    stopsFrom inside (lines.filter fun line => !isEcho line) = true := by
  induction lines generalizing inside outer with
  | nil => cases hstop
  | cons line rest ih =>
    cases hecho : isEcho line with
    | true =>
      rw [List.filter_cons_of_neg (by simp [hecho])]
      have hinside : insideAfter outer line = true := by
        simp [insideAfter, isTag_of_isEcho hecho, isStopMarker_of_isEcho hecho]
      rw [stopsFrom, isStopMarker_of_isEcho hecho, Bool.and_false, Bool.false_or] at hstop
      -- behind the echo whoever has seen it is inside, so the other one is not further inside
      exact ih (fun _ => hinside) hstop
    | false =>
      rw [List.filter_cons_of_pos (by simp [hecho])]
      simp only [stopsFrom, Bool.or_eq_true, Bool.and_eq_true, Bool.not_eq_true'] at hstop ⊢
      rcases hstop with ⟨houter, hmarker⟩ | hstop
      · exact .inl ⟨Bool.eq_false_iff.mpr fun hin => by simp [h hin] at houter, hmarker⟩
      · exact .inr (ih (insideAfter_mono h line) hstop)

/-- Whether a stop marker comes before every other line that opens or closes a block. -/
def MarkerFirst (lines : List String) : Prop :=
  ∃ front marker back, lines = front ++ marker :: back ∧ isStopMarker marker = true ∧
    ∀ line ∈ front, Splitter.isTag (chompOf line) = false

/-- Lines that open no block leave a reader outside. -/
theorem insideAfterAll_of_plain {lines : List String}
    (h : ∀ line ∈ lines, Splitter.isTag (chompOf line) = false) :
    insideAfterAll false lines = false := by
  induction lines with
  | nil => rfl
  | cons line rest ih =>
    have hline : insideAfter false line = false := by
      simp [insideAfter, h line List.mem_cons_self]
    rw [insideAfterAll_cons, hline]
    exact ih fun later hlater => h later (List.mem_cons_of_mem _ hlater)

/-- A reader that has forgotten that it is inside a block sees the stops that stand outside, and
those before the first line that opens or closes a block. -/
theorem stopsFrom_outside_iff (lines : List String) :
    stopsFrom false lines = true ↔ stopsFrom true lines = true ∨ MarkerFirst lines := by
  constructor
  · intro h
    induction lines with
    | nil => cases h
    | cons line rest ih =>
      cases hmarker : isStopMarker line with
      | true => exact .inr ⟨[], line, rest, rfl, hmarker, by simp⟩
      | false =>
        simp only [stopsFrom, hmarker, Bool.and_false, Bool.false_or] at h ⊢
        cases htag : Splitter.isTag (chompOf line) with
        | true =>
          -- behind a line that opens or closes a block it does not matter what was open before
          have hsame : insideAfter true line = insideAfter false line := by
            simp [insideAfter, hmarker, htag]
          exact .inl (by rw [hsame]; exact h)
        | false =>
          have houtside : insideAfter false line = false := by simp [insideAfter, htag]
          rw [houtside] at h
          rcases ih h with hinside | ⟨front, marker, back, rfl, hfirst, hplain⟩
          · exact .inl (stopsFrom_mono (fun _ => rfl) rest hinside)
          · refine .inr ⟨line :: front, marker, back, rfl, hfirst, ?_⟩
            intro other hother
            rcases List.mem_cons.mp hother with rfl | hother
            · exact htag
            · exact hplain other hother
  · rintro (h | ⟨front, marker, back, rfl, hmarker, hplain⟩)
    · exact stopsFrom_mono (by simp) lines h
    · exact (stopsFrom_iff false _).mpr
        ⟨front, marker, back, rfl, hmarker, insideAfterAll_of_plain hplain⟩

end RemoteDebug.Wire
