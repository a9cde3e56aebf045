import RemoteDebug.Proofs.Address.Walking

/-!
# Screens at rest

Without a move a view shows the screen nearest to an address (`View.window?_stay`). Windows end at
the highest address at the latest, so that is the one address which its own screen does not hold
(`View.contains_of_stay_iff`). A screen that a move has led to, wherever that was, is found again
from its first address (`View.restsAt_of_window?`): only a page back may be narrower than a screen,
and it starts early enough for a whole one.
-/

namespace RemoteDebug

open Window

namespace Window

/-- Whether an address is one of those that a window asks for. -/
def Contains (window : Window) (address : Nat) : Prop :=
  window.first ≤ address ∧ address < window.last

instance (window : Window) (address : Nat) : Decidable (window.Contains address) :=
  inferInstanceAs (Decidable (_ ∧ _))

/-- The start nearest to a start that is nearest already is that start. -/
theorem nearestStart_nearestStart (width start : Int) :
    nearestStart width (nearestStart width start) = nearestStart width start := by
  unfold nearestStart
  omega

end Window

/-- Every view but the registers shows a range of addresses. -/
theorem View.isAddressed_of_ne {view : View} (h : view ≠ .registers) : view.isAddressed = true := by
  cases view with
  | registers => exact absurd rfl h
  | memory => rfl
  | disassembly => rfl

/-- Whether a view that shows a screen at an address starts right there. -/
def View.RestsAt (view : View) (lines first : Nat) : Prop :=
  nearestStart (view.screen lines) first = first

section

variable {view : View} {cursor : Cursor} {move : Move} {lines : Nat} {window : Window}

/-- Without a move a view shows the screen nearest to an address. -/
theorem View.window?_stay (haddressed : view ≠ .registers) (address lines : Nat) :
    ∃ window, view.window? { first := address } .stay lines = .ok (some window) ∧
      (window.first : Int) = nearestStart (view.screen lines) address ∧
      window.width = min (view.screen lines) maxAddress := by
  obtain ⟨window, hwindow, hfirst, hwidth, -⟩ :=
    window?_of_keepsPace haddressed (view.keepsPace_start lines address) .stay
  have hoffset : view.offset lines .stay = 0 := rfl
  rw [nextStart, hoffset, Int.add_zero] at hfirst
  exact ⟨window, hwindow, hfirst, hwidth⟩

/-- The screen of an address holds it, unless it is the highest one, before which windows end. -/
theorem View.contains_of_stay_iff {address : Nat}
    (h : view.window? { first := address } .stay lines = .ok (some window))
    (hinside : address ≤ maxAddress) : window.Contains address ↔ address < maxAddress := by
  have haddressed : view ≠ .registers := by
    rintro rfl
    cases h
  obtain ⟨other, hother, hfirst, hwidth⟩ := window?_stay haddressed address lines
  rw [h] at hother
  obtain rfl := Option.some.inj (Except.ok.inj hother)
  have hscreen := View.screen_pos haddressed lines
  have hlast := window.last_le_max
  have hnonempty := window.first_lt_last
  unfold Window.Contains
  unfold Window.width at hwidth
  unfold nearestStart at hfirst
  constructor
  · intro hholds
    omega
  · intro hbelow
    omega

/-- A page back that is cut short starts a whole screen before an address of the space, or at its
lower end. -/
theorem nearestStart_of_endsAtSecond {second : Nat} (hfirst : cursor.first ≤ maxAddress)
    (h : View.disassembly.EndsAtSecond cursor move lines second) :
    let range := disassemblyRange cursor move (View.disassembly.screen lines)
    let start := nearestStart range.2 range.1
    nearestStart (View.disassembly.screen lines) start = start := by
  have hlt := h.2.2.2
  rw [disassemblyRange_of_endsAtSecond h]
  dsimp only
  unfold nearestStart
  omega

/-- Where a move has led to, a view finds the same start again, if it has not gone back to a screen
beyond the space. -/
theorem View.restsAt_of_window? (h : view.window? cursor move lines = .ok (some window))
    (hspace : cursor.second.isSome = true → cursor.first ≤ maxAddress) :
    view.RestsAt lines window.first := by
  unfold RestsAt
  cases view with
  | registers => cases h
  | memory =>
    obtain ⟨found, hfound, hfirst, -, -⟩ := memoryWindow_spec cursor move lines
    rw [window?, hfound] at h
    obtain rfl := Option.some.inj (Except.ok.inj h)
    rw [hfirst]
    exact nearestStart_nearestStart _ _
  | disassembly =>
    obtain ⟨found, hfound, hfirst, -, -⟩ := disassemblyWindow_spec cursor move lines
    rw [window?, hfound] at h
    obtain rfl := Option.some.inj (Except.ok.inj h)
    rw [hfirst]
    by_cases hcut : ∃ second, View.disassembly.EndsAtSecond cursor move lines second
    · obtain ⟨second, hcut⟩ := hcut
      have hfirst : cursor.first ≤ maxAddress := by
        apply hspace
        rw [hcut.2.2.1]
        rfl
      exact nearestStart_of_endsAtSecond hfirst hcut
    · have hsize := disassemblyRange_size fun second hends => hcut ⟨second, hends⟩
      rw [hsize]
      exact nearestStart_nearestStart _ _

end

end RemoteDebug
