import Mathlib.Data.List.Forall2
import RemoteDebug.Command.Grammar
import RemoteDebug.Proofs.Text.Spacing

/-!
# What the help documents

The help names the words of each command and its arguments; a user separates them by blanks.
`Documents` says which texts stand for a command by the help alone, without the order in which the
commands are tried: the words of the text are a word of the command and one word for each argument.
Only a text that is sent as it is may have blanks in it.
-/

namespace RemoteDebug

open RemoteDebug.Text

/-- The names of a view that the help lists. -/
def View.names : View → List String
  | registers => ["regs", "registers"]
  | memory => ["mem", "memory"]
  | disassembly => ["disasm", "disassembly"]

/-- The arrow for a direction. -/
def Direction.arrow : Direction → Char
  | forward => '>'
  | backward => '<'

/-- How many arrows stand for a magnitude. -/
def Magnitude.arrowCount : Magnitude → Nat
  | zero => 0
  | small => 1
  | medium => 2
  | large => 3

/-- The arrows for a move. -/
def Move.arrows (move : Move) : String :=
  String.ofList (List.replicate move.magnitude.arrowCount move.direction.arrow)

namespace Command

/-! ## Words for arguments -/

/-- The marks that may stand before hexadecimal digits. -/
def numberMarks : List (List Char) :=
  [[], ['$'], ['0', 'x'], ['0', 'X']]

/-- Whether a word is a number of at most eight hexadecimal digits, with or without a mark. -/
def IsNumberWord (value : Nat) (word : List Char) : Prop :=
  ∃ mark ∈ numberMarks, ∃ digits, word = mark ++ digits ∧ digits.length ≤ 8 ∧
    Hex.read? digits = some value

/-- Whether a word is an address. -/
def IsAddressWord (address : Nat) (word : List Char) : Prop :=
  IsNumberWord address word ∧ address ≤ maxAddress

/-- Whether a word is a number of 32 bits in decimal, without zeros in front. -/
def IsCountWord (count : Nat) (word : List Char) : Prop :=
  word = Nat.toDigits 10 count ∧ count < 0x100000000

/-- Whether a word is a path. -/
def IsPathWord (path : String) (word : List Char) : Prop :=
  word = path.toList ∧ IsWord word

/-- Whether a word is one of the names of a view. -/
def IsViewWord (view : View) (word : List Char) : Prop :=
  String.ofList word ∈ view.names

/-- Whether a text is an identifier. -/
def IsIdentifier (text : List Char) : Prop :=
  ∃ first rest, text = first :: rest ∧ isIdentifierStart first = true ∧
    ∀ c ∈ rest, isIdentifierRest c = true

/-- Whether a word is a topic of help. -/
def IsTopicWord (topic : String) (word : List Char) : Prop :=
  word = topic.toList ∧ IsIdentifier word

/-! ## Commands -/

/-- Whether a command takes no arguments. -/
def isBare : Command → Bool
  | move _ | stepInto | stepOver | toggle | pause | resume | refresh => true
  | _ => false

/-- The words for a command, long or short; arrows for a move. -/
def heads : Command → List String
  | move towards => if towards.isStay then [] else [towards.arrows]
  | views _ => [viewsWord]
  | focus _ => [focusWord]
  | goto _ => [gotoWord, gotoShort]
  | stepInto => [stepIntoWord, stepIntoShort]
  | stepOver => [stepOverWord, stepOverShort]
  | toggle => [toggleWord, toggleShort]
  | pause => [pauseWord]
  | resume => [resumeWord, resumeShort]
  | refresh => [refreshWord, refreshShort]
  | lines _ => [linesWord]
  | follow _ => [followWord]
  | load _ _ => [loadWord]
  | save _ _ _ => [saveWord]
  | raw _ => [rawWord]
  | help _ => [helpWord, helpShort]

/-- Whether words are the arguments of a command, one for each. -/
inductive HasArguments : Command → List (List Char) → Prop
  | bare {command : Command} (h : command.isBare = true) : HasArguments command []
  | focus {view : View} {word : List Char} (h : IsViewWord view word) :
    HasArguments (.focus view) [word]
  | views {views : List View} {words : List (List Char)} (hne : views ≠ [])
    (h : List.Forall₂ IsViewWord views words) : HasArguments (.views views) words
  | goto {address : Nat} {word : List Char} (h : IsAddressWord address word) :
    HasArguments (.goto address) [word]
  | lines {count : Nat} {word : List Char} (h : IsCountWord count word) :
    HasArguments (.lines count) [word]
  | follow (on : Bool) : HasArguments (.follow on) [(if on then "on" else "off").toList]
  | load {path : String} {word : List Char} (hpath : IsPathWord path word) :
    HasArguments (.load path none) [word]
  | loadAt {path : String} {address : Nat} {word start : List Char} (hpath : IsPathWord path word)
    (haddress : IsAddressWord address start) :
    HasArguments (.load path (some address)) [word, start]
  | save {path : String} {address length : Nat} {word start extent : List Char}
    (hpath : IsPathWord path word) (haddress : IsAddressWord address start)
    (hlength : IsNumberWord length extent) :
    HasArguments (.save path address length) [word, start, extent]
  | help : HasArguments (.help none) []
  | topic {topic : String} {word : List Char} (h : IsTopicWord topic word) :
    HasArguments (.help (some topic)) [word]

/-- Whether a text stands for a command by the help: its words are a word of the command and the
arguments. What is sent as it is goes to the end of the text, without the blanks around it. -/
inductive Documents : Command → List Char → Prop
  | words {command : Command} {text : List Char} {head : String} {arguments : List (List Char)}
    (hwords : Text.words text = head.toList :: arguments) (hhead : head ∈ command.heads)
    (harguments : command.HasArguments arguments) : Documents command text
  | raw {told : String} {text rest : List Char} (htext : trimStart text = rawWord.toList ++ rest)
    (hgap : StartsBlank rest) (htold : trim rest = told.toList) (hne : told.toList ≠ []) :
    Documents (.raw told) text
  | rawShort {told : String} {rest : List Char} (htold : trim rest = told.toList)
    (hne : told.toList ≠ []) : Documents (.raw told) (Command.rawShort.toList ++ rest)

/-- How many words a documented text for a command has, unless it is sent as it is behind the short
form. -/
def wordCount : Command → Nat
  | .views shown => shown.length + 1
  | load _ address => if address.isSome then 3 else 2
  | save _ _ _ => 4
  | raw told => (wordsOf told).length + 1
  | help topic => if topic.isSome then 2 else 1
  | command => if command.isBare then 1 else 2

theorem HasArguments.length_eq {command : Command} {arguments : List (List Char)}
    (h : command.HasArguments arguments) : arguments.length + 1 = command.wordCount := by
  cases h with
  | bare hbare => cases command <;> first | rfl | cases hbare
  | views _ hwords => exact congrArg (· + 1) hwords.length_eq.symm
  | _ => rfl

end Command

end RemoteDebug
