import RemoteDebug.Toml.Value

/-!
# Assembling TOML tables

A key may be defined once, and a table may have one header. A table that only headers of inner
tables imply may still get its own header. Dotted keys define tables on the way, which they alone
may extend; a table between braces is closed.
-/

namespace RemoteDebug.Toml

/-- Where keys are defined: in a table that dotted keys defined, or in another. -/
structure Place where
  entries : Entries := []
  dotted : Bool := false

/-- Changes the entries at the end of a path. Tables that are missing on the way are made, as
`made`; tables with a header may be passed only if they are not closed to this way of definition. -/
def atPath {α : Type} (made : Origin) (change : Place → Option (α × Entries)) :
    List String → Place → Option (α × Entries)
  | [], place => change place
  | key :: rest, place =>
    let within (dotted : Bool) (inner : Entries) : Option (α × Entries) :=
      atPath made change rest { entries := inner, dotted }
    match place.entries.find? key with
    | none =>
      (within (made == .dotted) []).map fun (result, inner) =>
        (result, place.entries ++ [(key, .table made inner)])
    | some (.table .braces _) => none
    | some (.table .header inner) =>
      if made == .dotted then none
      else (within false inner).map fun (result, changed) =>
        (result, place.entries.replace key (.table .header changed))
    | some (.table origin inner) =>
      (within (origin == .dotted) inner).map fun (result, changed) =>
        (result, place.entries.replace key (.table origin changed))
    | some (.tables items) =>
      match items.reverse with
      | [] => none
      | last :: earlier =>
        (within false last).map fun (result, changed) =>
          (result, place.entries.replace key (.tables (changed :: earlier).reverse))
    | some _ => none

/-- Defines a key by a value. A table is extended by plain keys or by dotted ones, as it came to
be. -/
def define (isPlain : Bool) (key : String) (value : Value) (place : Place) :
    Option (Unit × Entries) :=
  if place.dotted == isPlain then none
  else match place.entries.find? key with
    | none => some ((), place.entries ++ [(key, value)])
    | some _ => none

/-- The entries with a value for a key that may be dotted. -/
def insert (entries : Entries) (path : List String) (value : Value) : Option Entries :=
  match path.reverse with
  | [] => none
  | last :: before =>
    (atPath .dotted (define before.isEmpty last value) before.reverse { entries }).map Prod.snd

/-- Takes out the table that a header is about to define: an implied one, or none yet. -/
def takeImplied (key : String) (place : Place) : Option (Entries × Entries) :=
  match place.entries.find? key with
  | none => some ([], place.entries)
  | some (.table .implied inner) => some (inner, place.entries.remove key)
  | some _ => none

/-- Puts a table with a header in place. -/
def putTable (key : String) (inner : Entries) (place : Place) : Option (Unit × Entries) :=
  match place.entries.find? key with
  | none => some ((), place.entries ++ [(key, .table .header inner)])
  | some _ => none

/-- Makes sure that a key may hold one more table of a list. -/
def openTables (key : String) (place : Place) : Option (Unit × Entries) :=
  match place.entries.find? key with
  | none => some ((), place.entries ++ [(key, .tables [])])
  | some (.tables items) => some ((), place.entries.replace key (.tables items))
  | some _ => none

/-- Puts one more table of a list in place. -/
def putTables (key : String) (inner : Entries) (place : Place) : Option (Unit × Entries) :=
  match place.entries.find? key with
  | none => some ((), place.entries ++ [(key, .tables [inner])])
  | some (.tables items) => some ((), place.entries.replace key (.tables (items ++ [inner])))
  | some _ => none

/-! ## Documents -/

/-- A line of a document that says something. -/
inductive Statement where
  /-- A key and its value. -/
  | pair (path : List String) (value : Value)
  /-- The header of a table. -/
  | header (path : List String)
  /-- The header of one more table of a list. -/
  | listHeader (path : List String)

/-- The table whose lines are being read: where it goes, and whether into a list. -/
structure Current where
  path : List String := []
  inList : Bool := false
  entries : Entries := []

/-- The part of a document read so far: the tables that are finished, and the one that is not. -/
structure Draft where
  root : Entries := []
  current : Current := {}

namespace Draft

/-- The document with the current table put in place. -/
def finish (draft : Draft) : Option Entries :=
  match draft.current.path.reverse with
  | [] => some draft.current.entries
  | last :: before =>
    let put := if draft.current.inList then putTables last draft.current.entries
      else putTable last draft.current.entries
    (atPath .implied put before.reverse { entries := draft.root }).map Prod.snd

/-- The document behind one more line. -/
def add (draft : Draft) : Statement → Option Draft
  | .pair path value =>
    (insert draft.current.entries path value).map fun entries =>
      { draft with current := { draft.current with entries } }
  | .header path => do
    let root ← draft.finish
    let last :: before := path.reverse | none
    let (inner, root) ← atPath .implied (takeImplied last) before.reverse { entries := root }
    return { root, current := { path, entries := inner } }
  | .listHeader path => do
    let root ← draft.finish
    let last :: before := path.reverse | none
    let (_, root) ← atPath .implied (openTables last) before.reverse { entries := root }
    return { root, current := { path, inList := true } }

end Draft

/-- The table that the lines of a document make up. -/
def assemble (statements : List Statement) : Option Entries := do
  let draft ← statements.foldlM Draft.add {}
  draft.finish

end RemoteDebug.Toml
