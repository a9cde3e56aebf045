/-!
# Configurations

The options that outlast a run: how many lines a screen has, and whether the position follows the
program counter. A configuration is written as a TOML document with one table.
-/

namespace RemoteDebug

/-- The options that outlast a run. -/
structure Config where
  lines : Nat := 12
  followPc : Bool := true
deriving DecidableEq, Repr

namespace Config

/-! ## Lines -/

/-- The least number of lines that a user may set. -/
def minLines : Nat :=
  5

/-- The largest number of lines that a user may set. -/
def maxLines : Nat :=
  50

/-- The numbers of lines that a user may set, as they are told. -/
def linesRange : String :=
  toString minLines ++ "..=" ++ toString maxLines

/-- Whether a user may set a number of lines. -/
def allowsLines (lines : Nat) : Bool :=
  minLines ≤ lines && lines ≤ maxLines

/-! ## Names -/

/-- The name of the table that holds the options. -/
def tableName : String :=
  "general"

/-- The name of the option for the lines. -/
def linesName : String :=
  "lines"

/-- The name of the option for the program counter. -/
def followPcName : String :=
  "follow_pc"

/-- Where the file is if no other place is given, below the user's own directory. -/
def defaultPath : String :=
  ".config/rdbctl/config.toml"

/-- The document that holds a configuration. -/
def text (config : Config) : String :=
  "[" ++ tableName ++ "]\n" ++
  linesName ++ " = " ++ toString config.lines ++ "\n" ++
  followPcName ++ " = " ++ (if config.followPc then "true" else "false") ++ "\n"

end Config

end RemoteDebug
