import Mathlib.Data.List.Forall2
import RemoteDebug.Proofs.Address.Screens

/-!
# Walks

The disassembly view goes forward by the addresses of the second and the last line that it was told,
which need not be where a plain distance leads. On a walk nobody tells it any: each cursor is that
of the window before, and a window says at most where it ends. Such a cursor `KeepsPace`, and from
one every move leads as far as its distance says, or to an end of the address space
(`View.window?_of_keepsPace`). So the starts of a walk are a recursion on the moves
(`walk_shows_starts`), and moves that meet no end of the space on their way are undone by their
inverses (`View.reached_back`).
-/

namespace RemoteDebug

open Window

/-! ## Moves and their inverses -/

/-- A move goes as far in one direction as its inverse in the other. -/
theorem View.offset_inverse (view : View) (lines : Nat) (move : Move) :
    view.offset lines move.inverse = -view.offset lines move := by
  obtain ⟨magnitude, _ | _⟩ := move
  · rfl
  · exact (Int.neg_neg _).symm

/-- The moves that take a list of moves back: their inverses in reverse order. -/
def Move.back (moves : List Move) : List Move :=
  (moves.map Move.inverse).reverse

theorem Move.back_cons (move : Move) (rest : List Move) :
    Move.back (move :: rest) = Move.back rest ++ [move.inverse] :=
  List.reverse_cons

/-! ## Where a walk leads -/

/-- Where a window starts after a move, if the one before it started at some place. -/
def View.nextStart (view : View) (lines : Nat) (start : Int) (move : Move) : Int :=
  nearestStart (view.screen lines) (start + view.offset lines move)

/-- Where the windows of a walk start. -/
def View.starts (view : View) (lines : Nat) (start : Int) : List Move → List Int
  | [] => []
  | move :: rest =>
    let next := view.nextStart lines start move
    next :: view.starts lines next rest

/-- Where the last window of a walk starts. -/
def View.reached (view : View) (lines : Nat) (start : Int) (moves : List Move) : Int :=
  moves.foldl (view.nextStart lines) start

/-- The places that moves lead to by their distances alone, the first one included. -/
def View.places (view : View) (lines : Nat) (start : Int) (moves : List Move) : List Int :=
  moves.scanl (fun place move => place + view.offset lines move) start

/-- Whether moves meet no end of the address space: a screen has room at each place. -/
def View.StaysInSpace (view : View) (lines : Nat) (start : Int) (moves : List Move) : Prop :=
  ∀ place ∈ view.places lines start moves, 0 ≤ place ∧ place + view.screen lines ≤ maxAddress

section

variable {view : View} {lines : Nat} {start : Int} {move : Move} {moves rest : List Move}

theorem View.getLast?_starts (view : View) (lines : Nat) (start : Int) (h : moves ≠ []) :
    (view.starts lines start moves).getLast? = some (view.reached lines start moves) := by
  induction moves generalizing start with
  | nil => exact absurd rfl h
  | cons move rest ih =>
    rw [starts, List.getLast?_cons]
    rcases rest with _ | ⟨next, rest⟩
    · rfl
    · rw [ih _ (List.cons_ne_nil next rest)]
      rfl

theorem View.StaysInSpace.of_cons (h : view.StaysInSpace lines start (move :: rest)) :
    (0 ≤ start ∧ start + view.screen lines ≤ maxAddress) ∧
      view.StaysInSpace lines (start + view.offset lines move) rest := by
  unfold StaysInSpace places at h
  rw [List.scanl_cons] at h
  exact List.forall_mem_cons.mp h

/-- A screen has room at the first place. -/
theorem View.StaysInSpace.at_start (h : view.StaysInSpace lines start moves) :
    0 ≤ start ∧ start + view.screen lines ≤ maxAddress := by
  cases moves with
  | nil => exact h start (List.mem_singleton_self start)
  | cons move rest => exact h.of_cons.1

/-- Moves that meet no end of the space are undone by their inverses in reverse order. -/
theorem View.reached_back (h : view.StaysInSpace lines start moves) :
    view.reached lines start (moves ++ Move.back moves) = start := by
  induction moves generalizing start with
  | nil => rfl
  | cons move rest ih =>
    obtain ⟨⟨hlow, hhigh⟩, hrest⟩ := h.of_cons
    have hon : view.nextStart lines start move = start + view.offset lines move :=
      nearestStart_eq_self hrest.at_start.1 hrest.at_start.2
    have hback : view.nextStart lines (start + view.offset lines move) move.inverse = start := by
      rw [nextStart, offset_inverse, Int.add_neg_cancel_right]
      exact nearestStart_eq_self hlow hhigh
    calc view.reached lines start (move :: rest ++ Move.back (move :: rest))
      _ = view.nextStart lines (view.reached lines (view.nextStart lines start move)
            (rest ++ Move.back rest)) move.inverse := by
          rw [Move.back_cons, ← List.append_assoc]
          exact List.foldl_append
      _ = start := by rw [hon, ih hrest, hback]

end

/-! ## Cursors of a walk -/

/-- Whether a cursor tells a view no more than the window before it does: in the disassembly, at
most that a screen ended a screen after its first address. -/
def View.KeepsPace (view : View) (lines : Nat) (cursor : Cursor) : Prop :=
  view = .disassembly → cursor.second = none ∧
    ∀ last ∈ cursor.last, last = cursor.first + min (view.screen lines) maxAddress

/-- Nothing is told where a walk begins. -/
theorem View.keepsPace_start (view : View) (lines start : Nat) :
    view.KeepsPace lines { first := start } :=
  fun _ => ⟨rfl, by simp⟩

/-- What the view shows at a place of a walk: a window that starts there and has the width of a
screen, as far as the address space is wide enough. -/
def View.ShowsScreenAt (view : View) (lines : Nat) (found : Except Error (Option Window))
    (start : Int) : Prop :=
  ∃ window, found = .ok (some window) ∧ (window.first : Int) = start ∧
    window.width = min (view.screen lines) maxAddress

section

variable {view : View} {lines : Nat} {cursor : Cursor}

/-- From a cursor that keeps pace the disassembly goes as far as the distance of the move says. -/
theorem disassemblyRange_of_keepsPace (h : View.disassembly.KeepsPace lines cursor) (move : Move) :
    let range := disassemblyRange cursor move (View.disassembly.screen lines)
    nearestStart range.2 range.1 = View.disassembly.nextStart lines cursor.first move ∧
      range.2 = View.disassembly.screen lines := by
  obtain ⟨hsecond, hlast⟩ := h rfl
  obtain ⟨magnitude, _ | _⟩ := move
  · rw [View.nextStart, (View.offset_disassembly lines magnitude).1]
    cases magnitude with
    | large =>
      rcases hcursor : cursor.last with _ | last
      · simp only [disassemblyRange, hsecond, hcursor, and_self]
      · -- the screen before ended where the next begins, or at the end of the space
        have hend := hlast last hcursor
        simp only [disassemblyRange, hsecond, hcursor, Magnitude.disassemblyOffset, nearestStart,
          and_true]
        omega
    | _ => simp only [disassemblyRange, hsecond, and_self]
  · -- going back stops at address zero before the window is clamped
    rw [View.nextStart, (View.offset_disassembly lines magnitude).2]
    have hrange : disassemblyRange cursor ⟨magnitude, .backward⟩ (View.disassembly.screen lines) =
        (max (cursor.first - magnitude.disassemblyOffset (View.disassembly.screen lines)) 0,
          (View.disassembly.screen lines : Int)) := by
      cases magnitude <;> simp only [disassemblyRange, hsecond]
    simp only [hrange, nearestStart, and_true]
    omega

/-- A move from a cursor that keeps pace leads as far as its distance says, or to an end of the
space, and the next cursor keeps pace again. -/
theorem View.window?_of_keepsPace (haddressed : view ≠ .registers)
    (h : view.KeepsPace lines cursor) (move : Move) :
    ∃ window, view.window? cursor move lines = .ok (some window) ∧
      (window.first : Int) = view.nextStart lines cursor.first move ∧
      window.width = min (view.screen lines) maxAddress ∧
      view.KeepsPace lines window.cursor := by
  cases view with
  | registers => exact absurd rfl haddressed
  | memory =>
    obtain ⟨window, hwindow, hfirst, hwidth, -⟩ := memoryWindow_spec cursor move lines
    exact ⟨window, by rw [window?, hwindow]; rfl, hfirst, hwidth, fun h => absurd h (by decide)⟩
  | disassembly =>
    obtain ⟨window, hwindow, hfirst, hwidth, hsecond⟩ := disassemblyWindow_spec cursor move lines
    obtain ⟨hstart, hsize⟩ := disassemblyRange_of_keepsPace h move
    rw [hsize] at hwidth
    have hscreen : window.width = min (disassembly.screen lines) maxAddress := by omega
    have hends : window.last = window.first + min (disassembly.screen lines) maxAddress := by
      have hnonempty := window.first_lt_last
      unfold width at hscreen
      omega
    exact ⟨window, by rw [window?, hwindow]; rfl, hfirst.trans hstart, hscreen,
      fun _ => ⟨hsecond, fun last hlast => (Option.some.inj hlast).symm.trans hends⟩⟩

/-- The windows of a walk start where `View.starts` says, and each has the width of a screen. -/
theorem walk_shows_starts (haddressed : view ≠ .registers) (moves : List Move)
    (h : view.KeepsPace lines cursor) :
    List.Forall₂ (view.ShowsScreenAt lines) (view.walk lines cursor moves)
      (view.starts lines cursor.first moves) := by
  induction moves generalizing cursor with
  | nil => exact .nil
  | cons move rest ih =>
    obtain ⟨window, hwindow, hfirst, hwidth, hnext⟩ := View.window?_of_keepsPace haddressed h move
    have htail := ih hnext
    simp only [View.walk, View.starts, hwindow]
    rw [← hfirst]
    exact .cons ⟨window, rfl, rfl, hwidth⟩ htail

end

/-- Lists that agree item by item agree in the last one. -/
theorem exists_getLast?_of_forall₂ {α β : Type*} {agrees : α → β → Prop} {items : List α}
    {others : List β} {other : β} (h : List.Forall₂ agrees items others)
    (hlast : others.getLast? = some other) :
    ∃ item, items.getLast? = some item ∧ agrees item other := by
  have hreverse := List.forall₂_reverse_iff.mpr h
  rw [List.getLast?_eq_head?_reverse] at hlast ⊢
  generalize items.reverse = back at hreverse ⊢
  generalize others.reverse = otherBack at hreverse hlast
  cases hreverse with
  | nil => cases hlast
  | cons hhead _ =>
    obtain rfl := Option.some.inj hlast
    exact ⟨_, rfl, hhead⟩

/-! ## Navigation is a walk that stops at the ends of the space -/

/-- Each window of a walk starts where the distance of its move leads from the window before, or as
near to it as the address space allows, and has the width of a screen. If no end of the space is met
on the way, the moves are undone by their inverses in reverse order. -/
theorem walk_saturates (view : View) (haddressed : view ≠ .registers) (start lines : Nat)
    (moves : List Move) :
    List.Forall₂ (view.ShowsScreenAt lines) (view.walk lines { first := start } moves)
        (view.starts lines start moves) ∧
      (moves ≠ [] → view.StaysInSpace lines start moves →
        ∃ window, (view.walk lines { first := start } (moves ++ Move.back moves)).getLast? =
          some (.ok (some window)) ∧ window.first = start) := by
  refine ⟨walk_shows_starts haddressed moves (view.keepsPace_start lines start), fun hne h => ?_⟩
  have hwalk := walk_shows_starts haddressed (moves ++ Move.back moves)
    (view.keepsPace_start lines start)
  have hlast := view.getLast?_starts lines start
    (List.append_ne_nil_of_left_ne_nil hne (Move.back moves))
  rw [View.reached_back h] at hlast
  obtain ⟨found, hfound, window, rfl, hfirst, -⟩ := exists_getLast?_of_forall₂ hwalk hlast
  exact ⟨window, hfound, Int.ofNat_inj.mp hfirst⟩

/-- A page and two bytes on in the memory, and back again. -/
theorem page_and_bytes_undone :
    let moves : List Move := [⟨.large, .forward⟩, ⟨.small, .forward⟩]
    View.memory.StaysInSpace 16 0x1000 moves ∧
      ∃ window, (View.memory.walk 16 { first := 0x1000 } (moves ++ Move.back moves)).getLast? =
        some (.ok (some window)) ∧ window.first = 0x1000 := by
  intro moves
  have hstays : View.memory.StaysInSpace 16 0x1000 moves := by
    unfold View.StaysInSpace
    decide
  exact ⟨hstays, (walk_saturates .memory (by decide) 0x1000 16 moves).2 (by decide) hstays⟩

end RemoteDebug
