import RemoteDebug.Address.Navigation

/-!
# What is known of the target

The session and the watcher share what is known of the target: whether it is stopped, and the
position that is shown. When the target starts to run the position is forgotten, but for its first
address if it is to stay there.
-/

namespace RemoteDebug

/-- What is known of the target: the shown position and whether it is stopped. -/
structure TargetState where
  first : Option Nat := none
  second : Option Nat := none
  last : Option Nat := none
  stopped : Bool := false
deriving DecidableEq, Repr

namespace TargetState

/-- The position, if its first address is known. -/
def cursor (target : TargetState) : Option Cursor :=
  target.first.map fun first => { first, second := target.second, last := target.last }

/-- The state with another position. -/
def moveTo (target : TargetState) (cursor : Cursor) : TargetState :=
  { target with first := some cursor.first, second := cursor.second, last := cursor.last }

/-- The state without the addresses that the target told, and without the first address if the
program counter is to be followed. -/
def clear (target : TargetState) (followPc : Bool) : TargetState :=
  { target with
    first := if followPc then none else target.first
    second := none
    last := none }

/-- The state without the addresses that continue the screen of a view. -/
def forgetContinuation (target : TargetState) : TargetState :=
  { target with second := none, last := none }

end TargetState

end RemoteDebug
