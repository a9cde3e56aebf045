/-!
# Views

The target is looked at through three views. Two of them show a range of addresses; the registers
are shown as a whole. A table with an entry for each view is a value with three fields, so that it
is total and has one form.
-/

namespace RemoteDebug

/-- What a view shows of the target. -/
inductive View where
  | registers
  | memory
  | disassembly
deriving DecidableEq, Repr

namespace View

/-- The views in the order in which they are asked for and shown. -/
def all : List View :=
  [.registers, .memory, .disassembly]

/-- The name of a view. -/
def name : View → String
  | registers => "registers"
  | memory => "memory"
  | disassembly => "disassembly"

/-- The view that a name or abbreviation stands for. -/
def ofName? : String → Option View
  | "registers" | "regs" => some registers
  | "memory" | "mem" => some memory
  | "disassembly" | "disasm" => some disassembly
  | _ => none

/-- Whether a view shows a range of addresses. -/
def isAddressed : View → Bool
  | registers => false
  | memory | disassembly => true

end View

/-- A table with an entry for each view. -/
structure PerView (α : Type) where
  registers : α
  memory : α
  disassembly : α
deriving DecidableEq, Repr

namespace PerView

variable {α : Type}

/-- The table with the same entry for every view. -/
def const (entry : α) : PerView α :=
  ⟨entry, entry, entry⟩

/-- The entry for a view. -/
def get (table : PerView α) : View → α
  | .registers => table.registers
  | .memory => table.memory
  | .disassembly => table.disassembly

/-- The table in which a view has another entry. -/
def set (table : PerView α) (view : View) (entry : α) : PerView α :=
  match view with
  | .registers => { table with registers := entry }
  | .memory => { table with memory := entry }
  | .disassembly => { table with disassembly := entry }

/-- Setting an entry changes this entry and no other. -/
@[simp] theorem get_set (table : PerView α) (view other : View) (entry : α) :
    (table.set view entry).get other = if view = other then entry else table.get other := by
  cases view <;> cases other <;> rfl

@[simp] theorem get_set_self (table : PerView α) (view : View) (entry : α) :
    (table.set view entry).get view = entry := by
  rw [get_set, if_pos rfl]

/-- Setting an entry keeps the entries that are the same already. -/
theorem get_set_of_get {table : PerView α} {other : View} {entry : α} (h : table.get other = entry)
    (view : View) : (table.set view entry).get other = entry := by
  rw [get_set, h, ite_self]

/-- Every entry of a constant table is the same. -/
@[simp] theorem get_const (entry : α) (view : View) : (const entry).get view = entry := by
  cases view <;> rfl

/-- Tables with the same entries are the same. -/
theorem ext_get {table other : PerView α} (h : ∀ view, table.get view = other.get view) :
    table = other := by
  have first := h .registers
  have second := h .memory
  have third := h .disassembly
  cases table
  cases other
  simp_all [get]

end PerView

/-- The views whose entry is true, in order. -/
def PerView.toList (chosen : PerView Bool) : List View :=
  View.all.filter chosen.get

/-- The table that is true for the views of a list. -/
def PerView.ofList (views : List View) : PerView Bool :=
  ⟨views.contains .registers, views.contains .memory, views.contains .disassembly⟩

namespace PerView

/-- The listed views are those whose entry is true. -/
theorem mem_toList_iff (chosen : PerView Bool) (view : View) :
    view ∈ chosen.toList ↔ chosen.get view = true := by
  unfold toList View.all
  cases view <;> simp

theorem get_ofList_cons (view : View) (views : List View) :
    (ofList (view :: views)).get view = true := by
  cases view <;> simp [ofList, get]

end PerView

end RemoteDebug
