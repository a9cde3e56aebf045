import RemoteDebug.Config.Basic
import RemoteDebug.Decimal.Shortest
import RemoteDebug.Text.Quoted
import RemoteDebug.Toml.Value

/-!
# Why a file is no configuration

Each cause has a wording that names what was found and what was expected in its place. Of a scalar
the wording gives the value, too.
-/

namespace RemoteDebug

/-- The text of a floating point number. -/
def Toml.Floating.text : Toml.Floating → String
  | infinite negative => if negative then "-inf" else "inf"
  | notANumber => "NaN"
  | finite negative digits exponent =>
    match Decimal.Binary.ofDecimal? digits exponent with
    | some number => Decimal.shortestText negative number
    | none => if negative then "-inf" else "inf"

/-- How a value is named where another one was expected. A date counts as a map. -/
def Toml.Value.described : Toml.Value → String
  | string text => "string " ++ Text.Quoted.quote text
  | integer value => "integer `" ++ toString value ++ "`"
  | float value => "floating point `" ++ value.text ++ "`"
  | boolean value => "boolean `" ++ (if value then "true" else "false") ++ "`"
  | datetime | table _ _ => "map"
  | array _ | tables _ => "sequence"

namespace Config

/-- What a value is expected to be. -/
inductive Expected where
  | options
  | lines
  | followPc
deriving DecidableEq, Repr

/-- How what is expected is named. -/
def Expected.text : Expected → String
  | options => "struct UiConfig"
  | lines => "u32"
  | followPc => "a boolean"

/-- Why a file is no configuration. -/
inductive Mismatch where
  /-- It cannot be read. -/
  | unreadable (cause : String)
  /-- It is no text. -/
  | noText
  /-- It is no TOML document. -/
  | noDocument
  /-- The document has a table that configurations do not have. -/
  | unknownTable (name : String)
  /-- The table has an option that configurations do not have. -/
  | unknownOption (name : String)
  /-- A value is of another type than expected. -/
  | wrongType (found : Toml.Value) (expected : Expected)
  /-- A number of lines is negative, or has more than 32 bits. -/
  | wrongNumber (found : Int)
  /-- A user may not set this number of lines. -/
  | linesOutOfRange (lines : Nat)
deriving Repr

/-- The wording of a mismatch. -/
def Mismatch.message : Mismatch → String
  | unreadable cause => cause
  | noText => "stream did not contain valid UTF-8"
  | noDocument => "no document of tables and values"
  | unknownTable name => "unknown field `" ++ name ++ "`, expected `" ++ tableName ++ "`"
  | unknownOption name =>
    "unknown field `" ++ name ++ "`, expected `" ++ linesName ++ "` or `" ++ followPcName ++ "`"
  | wrongType found expected =>
    "invalid type: " ++ found.described ++ ", expected " ++ expected.text
  | wrongNumber found =>
    "invalid value: " ++ (Toml.Value.integer found).described ++
      ", expected " ++ Expected.lines.text
  | linesOutOfRange lines => "lines must be in " ++ linesRange ++ ", got " ++ toString lines

end Config

end RemoteDebug
