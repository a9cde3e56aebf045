import RemoteDebug.Error

/-!
# Address windows

The target has a 24-bit address space. A window is a half-open range of it that holds at least
one address, and both facts are part of the type. A range that reaches beyond an end of the space
is shifted back into it, keeping its width as long as the space is wide enough.
-/

namespace RemoteDebug

/-- The highest address of the target. -/
def maxAddress : Nat :=
  0xFFFFFF

/-- A half-open range of addresses that is not empty, with the address at which its second line
begins where that is known in advance. -/
structure Window where
  first : Nat
  last : Nat
  second : Option Nat := none
  first_lt_last : first < last := by omega
  last_le_max : last ≤ maxAddress := by omega
deriving DecidableEq, Repr

namespace Window

/-- The number of addresses in a window. -/
def width (window : Window) : Nat :=
  window.last - window.first

/-- A window as two addresses of at least six digits. -/
def text (window : Window) : String :=
  "$" ++ Hex.lower 6 window.first ++ "-$" ++ Hex.lower 6 window.last

/-- The range moved up, as a whole, as far as it takes to start in the address space. -/
def shiftUp (first last : Int) : Int × Int :=
  if first < 0 then (0, last - first) else (first, last)

/-- The range moved down, as a whole, as far as it takes to end in the address space. -/
def shiftDown (first last : Int) : Int × Int :=
  if (maxAddress : Int) < last then (maxAddress - (last - first), maxAddress) else (first, last)

/-- The window nearest to a range. A range wider than the address space gives the whole of it; an
empty range is refused. -/
def clamped (first last : Int) : Except Error Window :=
  if h : first < last then
    let raised := shiftUp first last
    let lowered := shiftDown raised.1 raised.2
    .ok {
      first := lowered.1.toNat
      last := lowered.2.toNat
      first_lt_last := by
        simp only [lowered, raised, shiftUp, shiftDown, maxAddress]
        split <;> split <;> simp only <;> omega
      last_le_max := by
        simp only [lowered, raised, shiftUp, shiftDown, maxAddress]
        split <;> split <;> simp only <;> omega
    }
  else .error (.emptyWindow first last)

end Window

end RemoteDebug
