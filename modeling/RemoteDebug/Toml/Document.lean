import RemoteDebug.Toml.Assembly
import RemoteDebug.Toml.Scalar

/-!
# TOML documents

Values, lines and whole documents. Arrays and tables between braces nest only so far, and reading a
value recurses on the depth that is left. A document is a list of lines; each line says one thing or
nothing, and what they say together is left to `assemble`.
-/

namespace RemoteDebug.Toml

open RemoteDebug.Reader

/-! ## Values -/

/-- How deep arrays and tables between braces may nest. -/
def valueDepth : Nat :=
  79

/-- Reads `true` or `false`. -/
def boolean : Reader Bool :=
  (exactly "true".toList *> pure true) <|> (exactly "false".toList *> pure false)

/-- Reads a value that holds no other values. What starts like a date or a number is tried as a
date first and as an integer last. -/
def scalar : Reader Value :=
  .string <$> stringValue <|> .boolean <$> boolean <|> datetime *> pure .datetime <|>
  .float <$> floating <|> .integer <$> integer

/-- Reads the items of a list with commas between them. -/
def separated {α : Type} (item : Reader α) : Reader (List α) := do
  match ← optional? item with
  | none => return []
  | some first => return first :: (← many (exactly [','] *> item))

/-- Reads an array. Gaps may stand around its items, and a comma behind the last one. -/
def array (item : Reader Value) : Reader Value := do
  exactly ['[']
  let items ← separated do
    gaps
    let value ← item
    gaps
    return value
  unless items.isEmpty do
    let _ ← optional? (exactly [','])
  gaps
  exactly [']']
  return .array items

/-- Reads a key and its value. -/
def pair (item : Reader Value) : Reader (List String × Value) := do
  let path ← key
  exactly ['=']
  spaces
  return (path, ← item)

/-- Reads a table between braces, which stands on one line. -/
def bracedTable (item : Reader Value) : Reader Value := do
  exactly ['{']
  let pairs ← separated do
    let entry ← pair item
    spaces
    return entry
  spaces
  exactly ['}']
  let entries ← StateT.lift <|
    pairs.foldlM (fun entries (path, value) => insert entries path value) []
  return .table .braces entries

/-- Reads a value that nests no deeper than a bound. -/
def value : Nat → Reader Value
  | 0 => scalar
  | depth + 1 => scalar <|> array (value depth) <|> bracedTable (value depth)

/-! ## Lines -/

/-- Reads the header of a table, or of one more table of a list. -/
def header : Reader Statement :=
  (do
    exactly ['[', '[']
    let path ← key
    exactly [']', ']']
    return .listHeader path) <|>
  (do
    exactly ['[']
    let path ← key
    exactly [']']
    return .header path)

/-- Reads what a line says. -/
def statement : Reader Statement :=
  header <|> (do
    let (path, value) ← pair (value valueDepth)
    return .pair path value)

/-- Reads a line up to its line end, and tells what it says, if anything. -/
def lineBody : Reader (Option Statement) := do
  spaces
  let said ← optional? statement
  trailing
  return said

/-- Reads the lines of a document. -/
def statements : Reader (List Statement) := do
  let ended ← many do
    let said ← lineBody
    lineEnd
    return said
  let last ← lineBody
  return (ended ++ [last]).reduceOption

/-! ## Documents -/

/-- The mark with which a document may start. -/
def byteOrderMark : Char :=
  '\ufeff'

/-- The table that a document holds, if it is one. -/
def read? (text : String) : Option Entries := do
  let marked : Reader (List Statement) := do
    let _ ← optional? (exactly [byteOrderMark])
    statements
  assemble (← marked.readAll? text.toList)

end RemoteDebug.Toml
