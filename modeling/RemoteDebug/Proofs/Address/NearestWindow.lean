import RemoteDebug.Proofs.Address.Resting
import RemoteDebug.Proofs.Address.Words

/-!
# The nearest window in the address space

Clamping corrects a range three times: at zero, at the highest address, and once more at zero for a
range wider than the space. What comes out is the window of the range's width that is nearest to it
(`IsNearestTo`): no other window of this width starts closer to the start of the range, a range in
the space stays where it is, and so a window is clamped to itself. A machine computes this without
an overflow for every range whose width fits its word (`clamped_is_nearest`).
-/

namespace RemoteDebug.Window

variable {window other : Window} {first last : Int}

/-- Whether a window is the nearest in the address space to a range, which may reach beyond it. -/
structure IsNearestTo (window : Window) (first last : Int) : Prop where
  /-- The window lies in the space and holds an address. -/
  inSpace : window.first < window.last ∧ window.last ≤ maxAddress
  /-- The window is as wide as the range, or as the space if that is less. -/
  width_eq : (window.width : Int) = min (last - first) maxAddress
  /-- The window starts where the range does, or as near to it as the space allows. -/
  first_eq : (window.first : Int) = max 0 (min first (maxAddress - (last - first)))
  /-- No window of this width starts nearer to the start of the range. -/
  nearest : ∀ other : Window, other.width = window.width →
    (window.first - first : Int).natAbs ≤ (other.first - first : Int).natAbs
  /-- A range in the space stays where it is. -/
  kept : 0 ≤ first → last ≤ maxAddress → (window.first : Int) = first ∧ (window.last : Int) = last
  /-- The window is clamped to itself. -/
  settled : clamped window.first window.last = .ok window

/-- The start at which a window is put is at most as far from the wanted one as any other at which
a window of its width lies in the space. -/
theorem nearestStart_le_natAbs {width start there : Int} (hlow : 0 ≤ there)
    (hhigh : there + width ≤ maxAddress) :
    (nearestStart width start - start).natAbs ≤ (there - start).natAbs := by
  unfold nearestStart
  omega

/-- Windows are the same if they start alike, are as wide and tell the same of their second line. -/
theorem eq_of_first_of_width (hfirst : window.first = other.first)
    (hwidth : window.width = other.width) (hsecond : window.second = other.second) :
    window = other := by
  have hlast : window.last = other.last := by
    rw [← window.first_add_width, ← other.first_add_width, hfirst, hwidth]
  cases window
  cases other
  simp only [mk.injEq]
  exact ⟨hfirst, hlast, hsecond⟩

/-- A window whose second line is not known is clamped to itself. -/
theorem clamped_self (hsecond : window.second = none) :
    clamped window.first window.last = .ok window := by
  have hspace := window.last_le_max
  have hlast := window.first_add_width
  have hpos : 0 < (window.width : Int) := Int.natCast_pos.mpr window.width_pos
  obtain ⟨again, hagain, hstart, hwidth, hnone⟩ := clamped_spec window.first hpos
  rw [nearestStart_eq_self (by omega) (by omega)] at hstart
  have hsame : again = window := by
    apply eq_of_first_of_width
    · omega
    · omega
    · rw [hnone, hsecond]
  rw [← hlast, Int.natCast_add, hagain, hsame]

/-- What a range with an address in it is clamped to is the nearest window to it. -/
theorem exists_isNearestTo (h : first < last) :
    ∃ window, clamped first last = .ok window ∧ window.IsNearestTo first last := by
  have hpos : 0 < last - first := by omega
  obtain ⟨window, hclamped, hstart, hwidth, hsecond⟩ := clamped_spec first hpos
  have hrange : first + (last - first) = last := by omega
  rw [hrange] at hclamped
  have hlast := window.first_add_width
  refine ⟨window, hclamped, ⟨window.first_lt_last, window.last_le_max⟩, hwidth, hstart, ?_, ?_,
    clamped_self hsecond⟩
  · intro other hother
    have hend := other.first_add_width
    have hspace := other.last_le_max
    rw [hstart]
    by_cases hfits : last - first ≤ maxAddress
    · apply nearestStart_le_natAbs <;> omega
    · -- only the whole space is as wide
      have hwhole : (other.first : Int) = nearestStart (last - first) first := by
        unfold nearestStart
        omega
      exact Nat.le_of_eq (by rw [hwhole])
  · intro hlow hhigh
    rw [nearestStart_eq_self hlow (by omega)] at hstart
    omega

/-- Clamping refuses the ranges without an address and no others. -/
theorem clamped_eq_error_iff :
    clamped first last = .error (.emptyWindow first last) ↔ last ≤ first := by
  constructor
  · intro herror
    by_contra hrange
    obtain ⟨window, hclamped, -⟩ := exists_isNearestTo (Int.not_le.mp hrange)
    rw [hclamped] at herror
    cases herror
  · intro hempty
    unfold clamped
    rw [dif_neg (by omega)]

/-- A range whose width fits a signed word of 64 bits is clamped in such words without an overflow.
It is refused exactly if no address lies in it, and clamped to the nearest window if not. -/
theorem clamped_is_nearest (first last : Int) (hwidth : last - first < 2 ^ 63) :
    clampedInWords? first last = some (clamped first last) ∧
      (clamped first last = .error (.emptyWindow first last) ↔ last ≤ first) ∧
      (first < last →
        ∃ window, clamped first last = .ok window ∧ window.IsNearestTo first last) :=
  ⟨clampedInWords?_eq hwidth, clamped_eq_error_iff, exists_isNearestTo⟩

/-- The widest range below zero gives the whole space. -/
theorem lowest_range_is_clamped :
    (-1 : Int) - -2 ^ 63 < 2 ^ 63 ∧ (-2 ^ 63 : Int) < -1 ∧
      ∃ window, clampedInWords? (-2 ^ 63) (-1) = some (.ok window) ∧ window.first = 0 ∧
        window.last = maxAddress := by
  have hwidth : (-1 : Int) - -2 ^ 63 < 2 ^ 63 := by decide
  have hrange : (-2 ^ 63 : Int) < -1 := by decide
  obtain ⟨hwords, -, hnearest⟩ := clamped_is_nearest (-2 ^ 63) (-1) hwidth
  obtain ⟨window, hclamped, hwindow⟩ := hnearest hrange
  have hfirst := hwindow.first_eq
  have hwide := hwindow.width_eq
  have hlast := window.first_add_width
  have hspace : (maxAddress : Int) < 2 ^ 63 - 1 := by decide
  refine ⟨hwidth, hrange, window, ?_, ?_, ?_⟩
  · rw [hwords, hclamped]
  · omega
  · omega

end RemoteDebug.Window
