/-!
# TOML values

The values of a TOML document. A table remembers how it came to be, because this decides in which
ways it may be extended. Its entries keep the order in which they were written.
-/

namespace RemoteDebug.Toml

/-- How a table came to be. -/
inductive Origin where
  /-- It has a header of its own. -/
  | header
  /-- Headers of tables within it imply it. -/
  | implied
  /-- Dotted keys define it. -/
  | dotted
  /-- It is written between braces, and closed. -/
  | braces
deriving DecidableEq, Repr

/-- A floating point number: infinite or none at all, or digits times a power of ten. -/
inductive Floating where
  | infinite (negative : Bool)
  | notANumber
  | finite (negative : Bool) (digits : Nat) (exponent : Int)
deriving DecidableEq, Repr

/-- A value. -/
inductive Value where
  | string (text : String)
  | integer (value : Int)
  | float (value : Floating)
  | boolean (value : Bool)
  | datetime
  | array (items : List Value)
  | table (origin : Origin) (entries : List (String × Value))
  /-- The tables that double brackets define one after the other. -/
  | tables (items : List (List (String × Value)))
deriving Repr

/-- The entries of a table in order. -/
abbrev Entries : Type :=
  List (String × Value)

namespace Entries

/-- The value of a key. -/
def find? (entries : Entries) (key : String) : Option Value :=
  List.lookup key entries

/-- The entries with another value for a key that has one. -/
def replace (entries : Entries) (key : String) (value : Value) : Entries :=
  entries.map fun entry => if entry.1 = key then (key, value) else entry

/-- The entries without a key. -/
def remove (entries : Entries) (key : String) : Entries :=
  entries.filter fun entry => entry.1 ≠ key

end Entries

end RemoteDebug.Toml
