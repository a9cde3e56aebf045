import RemoteDebug.Config.Basic
import RemoteDebug.Session.Basic
import RemoteDebug.Text.Reader

/-!
# Command lines

The arguments of the program are options, of which some take a value, either behind an equals sign
or as the next argument. An argument that starts with a hyphen is never taken as a value. Every
option may be given once, but for the one that is counted.
-/

namespace RemoteDebug.CommandLine

/-! ## Options -/

/-- An option with a value. -/
inductive ValueOption where
  | connect
  | config
  | lines
  | pollPause
  | replyLimit
  | logFile
deriving DecidableEq, Repr

/-- The name of an option with a value. -/
def ValueOption.name : ValueOption → String
  | connect => "--connect"
  | config => "--config"
  | lines => "--lines"
  | pollPause => "--poll-ms"
  | replyLimit => "--timeout-ms"
  | logFile => "--log-file"

/-- An option with the name of its value. -/
def ValueOption.shown : ValueOption → String
  | connect => "--connect <CONNECT>"
  | config => "--config <CONFIG>"
  | lines => "--lines <LINES>"
  | pollPause => "--poll-ms <POLL_MS>"
  | replyLimit => "--timeout-ms <TIMEOUT_MS>"
  | logFile => "--log-file <LOG_FILE>"

/-- The options with a value. -/
def ValueOption.all : List ValueOption :=
  [.connect, .config, .lines, .pollPause, .replyLimit, .logFile]

/-- An option without a value. -/
inductive Flag where
  | stay
  | verbose
  | help
  | version
deriving DecidableEq, Repr

/-- The name of an option without a value. -/
def Flag.name : Flag → String
  | stay => "--no-follow-pc"
  | verbose => "--verbose"
  | help => "--help"
  | version => "--version"

/-- An option without a value as errors name it. -/
def Flag.shown : Flag → String
  | verbose => "--verbose..."
  | flag => flag.name

/-- The options without a value. -/
def Flag.all : List Flag :=
  [.stay, .verbose, .help, .version]

/-- The option that a letter stands for. -/
def Flag.ofLetter? : Char → Option Flag
  | 'v' => some verbose
  | 'h' => some help
  | 'V' => some version
  | _ => none

/-- What the options set. -/
structure Options where
  connect : Option String := none
  config : Option String := none
  lines : Option Nat := none
  pollMilliseconds : Option Nat := none
  replyMilliseconds : Option Nat := none
  logFile : Option String := none
  stay : Bool := false
  verbosity : Nat := 0
deriving DecidableEq, Repr

/-- What a command line asks for. -/
inductive Request where
  | run (options : Options)
  | help
  | version
deriving DecidableEq, Repr

/-! ## Errors -/

/-- Why a text is no number of a range from zero. -/
inductive NumberFault where
  | empty
  | noDigit
  | tooLarge
deriving DecidableEq, Repr

/-- The wording of the reason why a text is no number. -/
def NumberFault.message : NumberFault → String
  | empty => "cannot parse integer from empty string"
  | noDigit => "invalid digit found in string"
  | tooLarge => "number too large to fit in target type"

/-- Why a command line is refused. -/
inductive UsageError where
  /-- There is no such option. -/
  | unknown (argument : String)
  /-- The value of an option is missing. -/
  | missingValue (option : ValueOption)
  /-- An option without a value has one. -/
  | unexpectedValue (flag : Flag) (value : String)
  /-- An option is given twice; this is how it is named. -/
  | repeated (shown : String)
  /-- A value is not what the option takes. -/
  | invalidValue (option : ValueOption) (value reason : String)
deriving DecidableEq, Repr

/-- The wording of an error. -/
def UsageError.message : UsageError → String
  | unknown argument => "error: unexpected argument '" ++ argument ++ "' found"
  | missingValue option =>
    "error: a value is required for '" ++ option.shown ++ "' but none was supplied"
  | unexpectedValue flag value =>
    "error: unexpected value '" ++ value ++ "' for '" ++ flag.shown ++
      "' found; no more were expected"
  | repeated shown => "error: the argument '" ++ shown ++ "' cannot be used multiple times"
  | invalidValue option value reason =>
    "error: invalid value '" ++ value ++ "' for '" ++ option.shown ++ "': " ++ reason

/-- The exit code of the program if its command line is refused. -/
def UsageError.exitCode : Nat :=
  2

/-! ## Values -/

/-- The number that digits behind a value make up, below a bound. -/
def readDigits (bound value : Nat) : List Char → Except NumberFault Nat
  | [] => .ok value
  | c :: rest =>
    if !Reader.isDecimalDigit c then .error .noDigit
    else
      let next := 10 * value + (c.toNat - '0'.toNat)
      if bound ≤ next then .error .tooLarge else readDigits bound next rest

/-- The number that a text holds, below a bound. A plus sign may stand in front. -/
def readNumber (bound : Nat) (text : String) : Except NumberFault Nat :=
  match text.toList with
  | [] => .error .empty
  | ['+'] => .error .noDigit
  | '+' :: digits => readDigits bound 0 digits
  | digits => readDigits bound 0 digits

/-- One more than the largest number of milliseconds. -/
def millisecondsBound : Nat :=
  0x10000000000000000

/-- One more than the largest number of lines that is a number at all. -/
def linesBound : Nat :=
  0x100000000

/-- The number in the value of an option. -/
def numberOf (option : ValueOption) (bound : Nat) (value : String) : Except UsageError Nat :=
  (readNumber bound value).mapError fun fault => .invalidValue option value fault.message

/-- The path in the value of an option. -/
def pathOf (option : ValueOption) (value : String) : Except UsageError String :=
  if value.isEmpty then .error (.missingValue option) else .ok value

/-- The options with one more value. -/
def Options.setValue (options : Options) (option : ValueOption) (value : String) :
    Except UsageError Options := do
  let once {α : Type} (before : Option α) : Except UsageError Unit :=
    if before.isSome then .error (.repeated option.shown) else .ok ()
  match option with
  | .connect =>
    once options.connect
    return { options with connect := some value }
  | .config =>
    once options.config
    return { options with config := some (← pathOf option value) }
  | .logFile =>
    once options.logFile
    return { options with logFile := some (← pathOf option value) }
  | .pollPause =>
    once options.pollMilliseconds
    return { options with pollMilliseconds := some (← numberOf option millisecondsBound value) }
  | .replyLimit =>
    once options.replyMilliseconds
    return { options with replyMilliseconds := some (← numberOf option millisecondsBound value) }
  | .lines =>
    once options.lines
    let lines ← numberOf option linesBound value
    unless Config.allowsLines lines do
      throw (.invalidValue option value ("must be in " ++ Config.linesRange))
    return { options with lines := some lines }

/-- The options with one more option without a value; a request for help or the version ends the
reading. -/
def Options.setFlag (options : Options) : Flag → Except UsageError (Options ⊕ Request)
  | .stay =>
    if options.stay then .error (.repeated Flag.stay.shown)
    else .ok (.inl { options with stay := true })
  | .verbose => .ok (.inl { options with verbosity := options.verbosity + 1 })
  | .help => .ok (.inr .help)
  | .version => .ok (.inr .version)

/-- The options with the options without a value that letters stand for. -/
def Options.setLetters (options : Options) : List Char → Except UsageError (Options ⊕ Request)
  | [] => .ok (.inl options)
  | letter :: rest =>
    match Flag.ofLetter? letter with
    | none => .error (.unknown (String.ofList ['-', letter]))
    | some flag => do
      match ← options.setFlag flag with
      | .inl options => options.setLetters rest
      | .inr request => return .inr request

/-! ## Arguments -/

/-- What one argument is. -/
inductive Argument where
  /-- The mark behind which no options stand. -/
  | endOfOptions
  /-- An option with a value, which may stand behind an equals sign. -/
  | value (option : ValueOption) (given : Option String)
  /-- An option without a value, behind which one may stand nevertheless. -/
  | flag (flag : Flag) (given : Option String)
  /-- The letters of options. -/
  | letters (letters : List Char)
  /-- An option that there is not. -/
  | unknown (name : String)
  /-- Any other text. -/
  | plain (text : String)
deriving DecidableEq, Repr

/-- A text cut at its first equals sign, if it has one. -/
def cutAtEquals (text : String) : String × Option String :=
  match text.splitOn "=" with
  | name :: first :: rest => (name, some (String.intercalate "=" (first :: rest)))
  | _ => (text, none)

/-- What an argument is. -/
def Argument.of (text : String) : Argument :=
  match text.toList with
  | ['-', '-'] => .endOfOptions
  | '-' :: '-' :: _ =>
    let (name, given) := cutAtEquals text
    match ValueOption.all.find? (·.name = name), Flag.all.find? (·.name = name) with
    | some found, _ => .value found given
    | none, some found => .flag found given
    | none, none => .unknown name
  | '-' :: letter :: rest => .letters (letter :: rest)
  | _ => .plain text

/-- The error of an option whose value is missing, in front of the argument that is none. An option
that there is not counts more. -/
def missingBefore (option : ValueOption) : Argument → UsageError
  | .unknown name => .unknown name
  | .letters (letter :: _) =>
    if (Flag.ofLetter? letter).isSome then .missingValue option
    else .unknown (String.ofList ['-', letter])
  | _ => .missingValue option

/-- Reads the arguments behind those that set the options. -/
def readArguments (options : Options) : List String → Except UsageError Request
  | [] => .ok (.run options)
  | text :: rest =>
    match Argument.of text with
    | .plain text => .error (.unknown text)
    | .unknown name => .error (.unknown name)
    | .endOfOptions =>
      match rest with
      | [] => .ok (.run options)
      | next :: _ => .error (.unknown next)
    | .flag flag (some value) => .error (.unexpectedValue flag value)
    | .flag flag none => do
      match ← options.setFlag flag with
      | .inl options => readArguments options rest
      | .inr request => return request
    | .letters letters => do
      match ← options.setLetters letters with
      | .inl options => readArguments options rest
      | .inr request => return request
    | .value option (some value) => do
      readArguments (← options.setValue option value) rest
    | .value option none =>
      match rest with
      | [] => .error (.missingValue option)
      | next :: rest =>
        match Argument.of next with
        | .plain value => do
          readArguments (← options.setValue option value) rest
        | argument => .error (missingBefore option argument)

/-- What the arguments of the program ask for. -/
def parse (arguments : List String) : Except UsageError Request :=
  readArguments {} arguments

/-! ## Settings -/

/-- Where the target is looked for if no address is given. -/
def defaultAddress : String :=
  "127.0.0.1:56001"

/-- The settings of a session by the options and the configuration; the options count more. -/
def Options.settings (options : Options) (config : Config) : Settings :=
  let standard : Settings := {}
  { lines := options.lines.getD config.lines
    followPc := config.followPc && !options.stay
    replyLimit := (options.replyMilliseconds.map .ofMilliseconds).getD standard.replyLimit
    pollPause := (options.pollMilliseconds.map .ofMilliseconds).getD standard.pollPause }

/-! ## Texts -/

/-- The name of the program and its version. -/
def versionText : String :=
  "rdbctl 0.1.0"

/-- The explanation of the options. -/
def helpText : String :=
  String.intercalate "\n" [
    "rdbctl is a console controller for the line-oriented remote debug protocol of a running " ++
      "machine emulator.",
    "",
    "Usage: rdbctl [OPTIONS]",
    "",
    "Options:",
    "      --connect <CONNECT>        Remote debug socket of the emulator " ++
      "[env: RDBCTL_CONNECT=] [default: 127.0.0.1:56001]",
    "      --config <CONFIG>          Configuration file (default: ~/.config/rdbctl/config.toml)",
    "      --lines <LINES>            Memory dump and disassembly lines, overrides " ++
      "configuration file",
    "      --no-follow-pc             Don't re-anchor views at program counter when the " ++
      "target stops",
    "      --poll-ms <POLL_MS>        Interval of polling for stop notifications in " ++
      "milliseconds [default: 200]",
    "      --timeout-ms <TIMEOUT_MS>  Max time to wait for a reply in milliseconds [default: 5000]",
    "      --log-file <LOG_FILE>      Write logs into file instead of stderr",
    "  -v, --verbose...               Raise log verbosity (-v info, -vv debug, -vvv trace)",
    "  -h, --help                     Print help",
    "  -V, --version                  Print version"]

/-- What stands behind the wording of an error. -/
def usageText : String :=
  "\n\nUsage: rdbctl [OPTIONS]\n\nFor more information, try '--help'."

end RemoteDebug.CommandLine
