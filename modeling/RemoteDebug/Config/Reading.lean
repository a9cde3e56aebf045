import RemoteDebug.Config.Mismatch
import RemoteDebug.Error
import RemoteDebug.Toml.Document

/-!
# Reading configurations

A configuration is read strictly: a table or an option that is not known is a mismatch, as is a
value of another type. What is left out keeps its default. The entries are looked at in the order of
the document, and the first mismatch counts; whether a user may set the lines is looked at last.
-/

namespace RemoteDebug.Config

/-! ## Options -/

/-- One more than the largest number that an option holds. -/
def numberBound : Nat :=
  0x100000000

/-- The lines that a value sets. -/
def linesOf (value : Toml.Value) : Except Mismatch Nat :=
  match value with
  | .integer number =>
    if 0 ≤ number ∧ number < numberBound then .ok number.toNat
    else .error (.wrongNumber number)
  | found => .error (.wrongType found .lines)

/-- Whether a value lets the position follow the program counter. -/
def followPcOf (value : Toml.Value) : Except Mismatch Bool :=
  match value with
  | .boolean on => .ok on
  | found => .error (.wrongType found .followPc)

/-- The configuration with one more option. -/
def setOption (config : Config) (option : String × Toml.Value) : Except Mismatch Config :=
  if option.1 = linesName then
    (linesOf option.2).map fun lines => { config with lines }
  else if option.1 = followPcName then
    (followPcOf option.2).map fun followPc => { config with followPc }
  else .error (.unknownOption option.1)

/-- The configuration that the items of a list set in the order of the options. Further items do
not matter. -/
def ofItems (items : List Toml.Value) : Except Mismatch Config :=
  ([linesName, followPcName].zip items).foldlM setOption {}

/-- The name that stands for the only entry of a date. -/
def dateEntryName : String :=
  "$__toml_private_datetime"

/-- The configuration that the value of the table sets. -/
def ofValue : Toml.Value → Except Mismatch Config
  | .table _ options => options.foldlM setOption {}
  | .array items => ofItems items
  | .tables items => ofItems (items.map (.table .header))
  | .datetime => .error (.unknownOption dateEntryName)
  | found => .error (.wrongType found .options)

/-! ## Documents -/

/-- The configuration that a document holds. A document has each table once. -/
def ofEntries (entries : Toml.Entries) : Except Mismatch Config :=
  entries.foldlM (fun _ entry =>
    if entry.1 = tableName then ofValue entry.2 else .error (.unknownTable entry.1)) {}

/-- The configuration that a text holds. -/
def ofText (text : String) : Except Mismatch Config := do
  let entries ← (Toml.read? text).elim (.error .noDocument) .ok
  let config ← ofEntries entries
  unless allowsLines config.lines do throw (.linesOutOfRange config.lines)
  return config

/-! ## Files -/

/-- What is found at the path of a configuration. -/
inductive Found where
  /-- Nothing. -/
  | nothing
  /-- What cannot be read, with the system's text. -/
  | unreadable (cause : String)
  /-- A file that holds bytes. -/
  | bytes (content : ByteArray)

/-- The configuration in what is found, none if nothing is. -/
def ofFound : Found → Except Mismatch (Option Config)
  | .nothing => .ok none
  | .unreadable cause => .error (.unreadable cause)
  | .bytes content =>
    match String.fromUTF8? content with
    | some text => (ofText text).map some
    | none => .error .noText

/-- The configuration at a path, or the error that tells why there is none. -/
def load? (path : String) (found : Found) : Except Error (Option Config) :=
  (ofFound found).mapError fun mismatch => .configMismatch path mismatch.message

/-- The configuration in what is found, or the default one. -/
def load (found : Found) : Config :=
  match ofFound found with
  | .ok (some config) => config
  | _ => {}

end RemoteDebug.Config
