/-!
# Registers of the target

The processor has eight data registers, eight address registers, the program counter, the status
register and two further stack pointers. All hold 32 bits but the status register, which holds 16.
The order of the constructors is the order in which registers are listed.
-/

namespace RemoteDebug

/-- A register of the target processor. -/
inductive Register where
  | d0 | d1 | d2 | d3 | d4 | d5 | d6 | d7
  | a0 | a1 | a2 | a3 | a4 | a5 | a6 | a7
  | pc | sr | usp | isp
deriving DecidableEq, Repr

namespace Register

/-- All registers in order. -/
def all : List Register :=
  [d0, d1, d2, d3, d4, d5, d6, d7, a0, a1, a2, a3, a4, a5, a6, a7, pc, sr, usp, isp]

/-- The position of a register in the order. -/
def index : Register → Fin 20
  | d0 => 0 | d1 => 1 | d2 => 2 | d3 => 3 | d4 => 4 | d5 => 5 | d6 => 6 | d7 => 7
  | a0 => 8 | a1 => 9 | a2 => 10 | a3 => 11 | a4 => 12 | a5 => 13 | a6 => 14 | a7 => 15
  | pc => 16 | sr => 17 | usp => 18 | isp => 19

/-- The name of a register. -/
def name : Register → String
  | d0 => "D0" | d1 => "D1" | d2 => "D2" | d3 => "D3"
  | d4 => "D4" | d5 => "D5" | d6 => "D6" | d7 => "D7"
  | a0 => "A0" | a1 => "A1" | a2 => "A2" | a3 => "A3"
  | a4 => "A4" | a5 => "A5" | a6 => "A6" | a7 => "A7"
  | pc => "PC" | sr => "SR" | usp => "USP" | isp => "ISP"

/-- The register of a name in upper case. -/
def ofName? (name : String) : Option Register :=
  all.find? fun register => register.name == name

/-- The largest value that a register holds. -/
def maxValue : Register → Nat
  | sr => 0xFFFF
  | _ => 0xFFFFFFFF

end Register

end RemoteDebug
