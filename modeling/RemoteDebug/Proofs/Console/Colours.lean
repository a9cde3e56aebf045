import RemoteDebug.Console.Style

/-!
# Colours taken off

A control sequence goes from an escape character to the letter `m` behind it, and what is left of a
text without its control sequences is what a reader sees. Of a coloured line the bare line is left
(`uncoloured_coloured`): colours neither add to what is read nor take anything from it.
-/

namespace RemoteDebug.Console

/-- What is left of a text without its control sequences. The text may start inside of one. -/
def uncolouredFrom (inside : Bool) : List Char → List Char
  | [] => []
  | c :: rest =>
    if inside then uncolouredFrom (c != 'm') rest
    else if c == '\x1b' then uncolouredFrom true rest
    else c :: uncolouredFrom false rest

/-- A string without its control sequences. -/
def uncoloured (text : String) : String :=
  String.ofList (uncolouredFrom false text.toList)

variable {text inner behind : List Char}

theorem uncolouredFrom_plain (h : '\x1b' ∉ text) :
    uncolouredFrom false (text ++ behind) = text ++ uncolouredFrom false behind := by
  induction text with
  | nil => rfl
  | cons c rest ih =>
    rw [List.mem_cons, not_or] at h
    have hc : (c == '\x1b') = false := beq_false_of_ne (Ne.symm h.1)
    rw [List.cons_append, uncolouredFrom, hc, ih h.2]
    rfl

theorem uncolouredFrom_inside (h : 'm' ∉ inner) :
    uncolouredFrom true (inner ++ 'm' :: behind) = uncolouredFrom false behind := by
  induction inner with
  | nil => rfl
  | cons c rest ih =>
    rw [List.mem_cons, not_or] at h
    have hc : (c != 'm') = true := bne_iff_ne.mpr (Ne.symm h.1)
    rw [List.cons_append, uncolouredFrom, if_pos rfl, hc, ih h.2]

/-- A whole control sequence leaves nothing behind. -/
theorem uncolouredFrom_sequence (h : 'm' ∉ inner) :
    uncolouredFrom false ('\x1b' :: (inner ++ 'm' :: behind)) = uncolouredFrom false behind := by
  rw [uncolouredFrom, if_neg Bool.false_ne_true, if_pos (beq_self_eq_true _),
    uncolouredFrom_inside h]

theorem uncolouredFrom_paint (style : Style) {text : String} (h : '\x1b' ∉ text.toList)
    (behind : List Char) :
    uncolouredFrom false ((style.paint text).toList ++ behind) =
      text.toList ++ uncolouredFrom false behind := by
  have hcolour : 'm' ∉ "[38;5;".toList ++ (toString style.colour).toList := by
    cases style <;> decide
  have hsequences : (style.paint text).toList ++ behind =
      '\x1b' :: (("[38;5;".toList ++ (toString style.colour).toList) ++
        'm' :: (text.toList ++ '\x1b' :: ("[39".toList ++ 'm' :: behind))) := by
    simp [Style.paint]
  rw [hsequences, uncolouredFrom_sequence hcolour, uncolouredFrom_plain h,
    uncolouredFrom_sequence (by decide)]

theorem uncolouredFrom_embolden {text : String} {shown : List Char}
    (h : ∀ behind, uncolouredFrom false (text.toList ++ behind) =
      shown ++ uncolouredFrom false behind) (behind : List Char) :
    uncolouredFrom false ((embolden text).toList ++ behind) =
      shown ++ uncolouredFrom false behind := by
  have hsequences : (embolden text).toList ++ behind =
      '\x1b' :: ("[1".toList ++
        'm' :: (text.toList ++ '\x1b' :: ("[0".toList ++ 'm' :: behind))) := by
    simp [embolden]
  rw [hsequences, uncolouredFrom_sequence (by decide), h, uncolouredFrom_sequence (by decide)]

theorem uncolouredFrom_ite {bold : Bool} {text : String} {shown : List Char}
    (h : ∀ behind, uncolouredFrom false (text.toList ++ behind) =
      shown ++ uncolouredFrom false behind) (behind : List Char) :
    uncolouredFrom false ((if bold then embolden text else text).toList ++ behind) =
      shown ++ uncolouredFrom false behind := by
  cases bold with
  | true => exact uncolouredFrom_embolden h behind
  | false => exact h behind

theorem uncolouredFrom_span {span : Span} (h : '\x1b' ∉ span.text.toList) (behind : List Char) :
    uncolouredFrom false (span.coloured.toList ++ behind) =
      span.text.toList ++ uncolouredFrom false behind := by
  unfold Span.coloured
  cases span.style with
  | some style => exact uncolouredFrom_ite (uncolouredFrom_paint style h) behind
  | none => exact uncolouredFrom_ite (fun _ => uncolouredFrom_plain h) behind

/-- Without its colours a line is the bare line. -/
theorem uncoloured_coloured {line : Line} (h : ∀ span ∈ line, '\x1b' ∉ span.text.toList) :
    uncoloured line.coloured = line.bare := by
  have hspans : uncolouredFrom false line.coloured.toList = line.bare.toList := by
    unfold Line.coloured Line.bare
    rw [String.toList_join, String.toList_join]
    induction line with
    | nil => rfl
    | cons span rest ih =>
      obtain ⟨hspan, hrest⟩ := List.forall_mem_cons.mp h
      rw [List.map_cons, List.map_cons, List.flatMap_cons, List.flatMap_cons,
        uncolouredFrom_span hspan, ih hrest]
  unfold uncoloured
  rw [hspans, String.ofList_toList]

end RemoteDebug.Console
