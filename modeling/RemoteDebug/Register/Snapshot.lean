import RemoteDebug.Register.Basic

/-!
# Register snapshots

A snapshot holds a value for each register that the target has told. Two snapshots are compared to
find the registers that changed between them, and the status register is shown as a text with one
label for each of its flags.
-/

namespace RemoteDebug

/-- The values of some registers. -/
structure Snapshot where
  values : Vector (Option Nat) 20 := Vector.replicate 20 none
deriving DecidableEq, Repr

namespace Snapshot

/-- The snapshot without any value. -/
def empty : Snapshot :=
  {}

/-- The value of a register, if the snapshot holds one. -/
def value (snapshot : Snapshot) (register : Register) : Option Nat :=
  snapshot.values[register.index]

/-- The snapshot in which a register has a value, replacing the one it had. -/
def insert (snapshot : Snapshot) (register : Register) (value : Nat) : Snapshot :=
  ⟨snapshot.values.set register.index (some value)⟩

/-- The snapshot of a list of values, in which a later value replaces an earlier one. -/
def ofList (entries : List (Register × Nat)) : Snapshot :=
  entries.foldl (fun snapshot entry => snapshot.insert entry.1 entry.2) empty

/-- The registers that have a value, with their values, in the order of the registers. -/
def toList (snapshot : Snapshot) : List (Register × Nat) :=
  Register.all.filterMap fun register => (snapshot.value register).map fun value =>
    (register, value)

/-- The number of registers that have a value. -/
def size (snapshot : Snapshot) : Nat :=
  snapshot.toList.length

/-- Whether no register has a value. -/
def isEmpty (snapshot : Snapshot) : Bool :=
  snapshot.toList.isEmpty

/-- Whether a register has a value in both snapshots and the two differ. -/
def changedIn (snapshot previous : Snapshot) (register : Register) : Bool :=
  match snapshot.value register, previous.value register with
  | some now, some before => now != before
  | _, _ => false

/-- The registers whose value differs from the one in an earlier snapshot, in order. A register
that the earlier snapshot does not hold has not changed. -/
def changedSince (snapshot previous : Snapshot) : List Register :=
  Register.all.filter (snapshot.changedIn previous)

end Snapshot

/-! ## Flags of the status register -/

/-- The bits of the status register that are shown, from the highest, with their labels. -/
def statusBits : List (Nat × String) :=
  [(15, "T1"), (14, "T0"), (13, "S"), (12, "M"), (10, "2"), (9, "1"), (8, "0"),
   (4, "X"), (3, "N"), (2, "Z"), (1, "V"), (0, "C")]

/-- The label of a set bit, or as many dashes as the label has characters. -/
def statusLabel (status : Nat) (entry : Nat × String) : List Char :=
  if status.testBit entry.1 then entry.2.toList else List.replicate entry.2.length '-'

/-- The fourteen characters that show the flags of the status register. -/
def statusFlags (status : Nat) : String :=
  String.ofList (statusBits.flatMap (statusLabel status))

/-- The flags shown for a snapshot, if it holds the status register. -/
def Snapshot.statusFlags (snapshot : Snapshot) : Option String :=
  (snapshot.value .sr).map RemoteDebug.statusFlags

end RemoteDebug
