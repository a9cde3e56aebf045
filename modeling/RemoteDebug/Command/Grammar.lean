import RemoteDebug.Command.Basic
import RemoteDebug.Command.Reader

/-!
# The grammar of commands

Each command has a word, and some have a short form of it. The commands are tried in a fixed order,
each on the whole line; the first that reads it wins. A command word need not be followed by a
blank, so `g10` reads as `g 10`.
-/

namespace RemoteDebug

namespace Command

open RemoteDebug.Text Reader

/-! ## Command words -/

/-- The word that gives the focus to a view. -/
def focusWord : String :=
  "view"

/-- The word that sets the active views. -/
def viewsWord : String :=
  "views"

/-- The word for the moves, which are typed as arrows. -/
def moveWord : String :=
  "move"

/-- The word that shows an address. -/
def gotoWord : String :=
  "goto"

/-- The short form of `gotoWord`. -/
def gotoShort : String :=
  "g"

/-- The word that executes one instruction. -/
def stepIntoWord : String :=
  "step"

/-- The short form of `stepIntoWord`. -/
def stepIntoShort : String :=
  "s"

/-- The word that executes one instruction over a call. -/
def stepOverWord : String :=
  "next"

/-- The short form of `stepOverWord`. -/
def stepOverShort : String :=
  "n"

/-- The word that stops or resumes the target. -/
def toggleWord : String :=
  "toggle"

/-- The short form of `toggleWord`. -/
def toggleShort : String :=
  "t"

/-- The word that stops the target. -/
def pauseWord : String :=
  "pause"

/-- The word that resumes the target. -/
def resumeWord : String :=
  "continue"

/-- The short form of `resumeWord`. -/
def resumeShort : String :=
  "c"

/-- The word that shows the active views again. -/
def refreshWord : String :=
  "refresh"

/-- The short form of `refreshWord`. -/
def refreshShort : String :=
  "r"

/-- The word that sets the lines of a screen. -/
def linesWord : String :=
  "lines"

/-- The word that sets whether the program counter is followed. -/
def followWord : String :=
  "follow"

/-- The word that loads a file into memory. -/
def loadWord : String :=
  "load"

/-- The word that saves memory into a file. -/
def saveWord : String :=
  "save"

/-- The word that sends a text as it is. -/
def rawWord : String :=
  "raw"

/-- The short form of `rawWord`. -/
def rawShort : String :=
  "!"

/-- The word that explains commands. -/
def helpWord : String :=
  "help"

/-- The short form of `helpWord`. -/
def helpShort : String :=
  "h"

/-- The word with which a user leaves. It is no command of the session. -/
def leaveWord : String :=
  "quit"

/-- The short form of `leaveWord`. -/
def leaveShort : String :=
  "q"

/-! ## Arguments -/

/-- Reads a command word or its short form; padded. -/
def eitherWord (long short : String) : Reader Unit :=
  word long <|> word short

/-- Reads an address of the address space; padded. -/
def address : Reader Nat := do
  let address ← hexNumber
  guard (address ≤ maxAddress)
  return address

/-- Reads the name of a view; padded. -/
def viewName : Reader View :=
  padded do
    let name ← identifier
    StateT.lift (View.ofName? (String.ofList name))

/-- Reads a move: one to three arrows in one direction; padded. -/
def arrows : Reader Move :=
  padded <|
    (exactly ['<', '<', '<'] *> pure ⟨.large, .backward⟩) <|>
    (exactly ['<', '<'] *> pure ⟨.medium, .backward⟩) <|>
    (exactly ['<'] *> pure ⟨.small, .backward⟩) <|>
    (exactly ['>', '>', '>'] *> pure ⟨.large, .forward⟩) <|>
    (exactly ['>', '>'] *> pure ⟨.medium, .forward⟩) <|>
    (exactly ['>'] *> pure ⟨.small, .forward⟩)

/-- Reads `on` or `off`; padded. -/
def switch : Reader Bool :=
  (word "on" *> pure true) <|> (word "off" *> pure false)

/-! ## Commands -/

/-- Reads the views to be active, at least one. -/
def viewList : Reader (List View) := do
  let views ← many viewName
  guard !views.isEmpty
  return views

/-- Reads a request to load a file. -/
def loadReader : Reader Command := do
  word loadWord
  let path ← plainWord
  let address ← optional? address
  return .load path address

/-- Reads a request to save a file. -/
def saveReader : Reader Command := do
  word saveWord
  let path ← plainWord
  let address ← address
  let length ← hexNumber
  return .save path address length

/-- Reads a text to be sent as it is. -/
def rawReader : Reader Command := do
  word rawWord <|> exactly rawShort.toList
  let text := trim (← charsWhile fun _ => true)
  guard !text.isEmpty
  return .raw (String.ofList text)

/-- Reads a request for help. -/
def helpReader : Reader Command :=
  padded do
    eitherWord helpWord helpShort
    let topic ← optional? identifier
    return .help (topic.map String.ofList)

/-- The readers of the commands, in the order in which they are tried. -/
def readers : List (Reader Command) :=
  [ .move <$> arrows,
    .views <$> (word viewsWord *> viewList),
    .focus <$> (word focusWord *> viewName),
    .goto <$> (eitherWord gotoWord gotoShort *> address),
    eitherWord stepIntoWord stepIntoShort *> pure .stepInto,
    eitherWord stepOverWord stepOverShort *> pure .stepOver,
    eitherWord toggleWord toggleShort *> pure .toggle,
    word pauseWord *> pure .pause,
    eitherWord resumeWord resumeShort *> pure .resume,
    eitherWord refreshWord refreshShort *> pure .refresh,
    .lines <$> (word linesWord *> decimalNumber),
    .follow <$> (word followWord *> switch),
    loadReader,
    saveReader,
    rawReader,
    helpReader ]

/-- The command that a text reads as, if any. -/
def read? (text : List Char) : Option Command :=
  readers.findSome? fun reader => reader.readAll? text

/-- The command that a typed line reads as, or why it does not. -/
def parse (line : String) : Except CommandError Command :=
  match read? line.toList with
  | some command => .ok command
  | none => .error (if line.isEmpty then .nothingTyped else .notUnderstood)

end Command

end RemoteDebug
