import RemoteDebug.Command.Grammar

/-!
# Help

The text that lists all commands, and a text for each command. A topic is a command word or the
short form of one.
-/

namespace RemoteDebug.Console

open RemoteDebug.Command

/-- Lines of text, each with a line end. -/
def ofLines (lines : List String) : String :=
  String.join (lines.map (· ++ "\n"))

/-- The name of a command as a heading. -/
def heading (name : String) : String :=
  "\x1b[32;1m" ++ name ++ "\x1b[0m"

/-- The forms of the commands, each with what it does. -/
def commandForms : List (String × String) :=
  [ ("view regs|mem|disasm", "focus a view, navigation applies to the focused view"),
    ("views <view> [<view>...]", "set views requested on each refresh"),
    ("<, <<, <<<, >, >>, >>>", "move inspection window backward or forward"),
    ("g, goto <addr>", "inspect from address"),
    ("s, step", "execute one instruction"),
    ("n, next", "execute one instruction, step over subroutine calls"),
    ("t, toggle", "stop a running target or resume a stopped one"),
    ("pause", "stop a running target"),
    ("c, continue", "resume a stopped target"),
    ("r, refresh", "refresh active views"),
    ("lines <number>", "set number of lines in memory and disassembly views"),
    ("follow on|off", "re-anchor views at program counter after each stop"),
    ("load <file> [<addr>]", "load file contents into target memory"),
    ("save <file> <addr> <length>", "save target memory into file"),
    ("!, raw <text>", "send text to the target as is, print the reply"),
    ("h, help <>|<command>", "show help"),
    ("q, quit", "exit") ]

/-- The column at which the list of commands tells what they do. -/
def purposeColumn : Nat :=
  45

/-- A line of the list of commands. -/
def formLine (form : String × String) : String :=
  String.ofList (form.1.toList.rightpad purposeColumn ' ') ++ "-- " ++ form.2

/-- Lists the commands. -/
def overview : String :=
  ofLines (["", "Available commands:", ""] ++ commandForms.map formLine)

/-- Explains how a view gets the focus. -/
def focusHelp : String :=
  ofLines [
    heading "view",
    "Focus a view. Focused view becomes active if it isn't, navigation moves apply to it only.",
    "",
    "Available views:",
    "regs, registers - cpu registers, changed since previous refresh are highlighted",
    "mem, memory - memory dump, 16 bytes per row",
    "disasm, disassembly - disassembled instructions"]

/-- Explains how views become active. -/
def viewsHelp : String :=
  ofLines [
    heading "views",
    "Set views requested on each refresh, the focused view always stays active.",
    "",
    "Examples of usage:",
    "views regs disasm - show registers and disassembly after each stop"]

/-- Explains the moves. -/
def moveHelp : String :=
  ofLines [
    heading "<, <<, <<<, >, >>, >>>",
    "Move inspection window of the focused view, more arrows mean a larger step.",
    "",
    "memory: 2 bytes, one row (16 bytes), one screenful",
    "disassembly: backward steps approximate instruction boundaries, forward steps",
    "continue from the second shown instruction or after the last shown one"]

/-- Explains how an address is shown. -/
def gotoHelp : String :=
  ofLines [
    heading "g, goto",
    "Inspect from an explicit address, address is hexadecimal, `$` and `0x` prefixes are allowed.",
    "",
    "Examples of usage:",
    "goto $fc0030"]

/-- Explains how one instruction is executed. -/
def stepIntoHelp : String :=
  ofLines [
    heading "s, step",
    "Execute a single instruction and refresh views. Ignored while the target is running."]

/-- Explains how a subroutine is stepped over. -/
def stepOverHelp : String :=
  ofLines [
    heading "n, next",
    "Execute a single instruction, subroutine calls are executed as a whole. Ignored " ++
      "while the target is running."]

/-- Explains how the target is stopped or resumed. -/
def toggleHelp : String :=
  ofLines [
    heading "t, toggle",
    "Stop a running target or resume a stopped one. Views refresh as soon as the target " ++
      "reports the stop."]

/-- Explains how the target is stopped. -/
def pauseHelp : String :=
  ofLines [
    heading "pause",
    "Stop a running target."]

/-- Explains how the target is resumed. -/
def resumeHelp : String :=
  ofLines [
    heading "c, continue",
    "Resume a stopped target."]

/-- Explains how the views are shown again. -/
def refreshHelp : String :=
  ofLines [
    heading "r, refresh",
    "Request all active views again."]

/-- Explains how the lines of a screen are set. -/
def linesHelp : String :=
  ofLines [
    heading "lines",
    "Set number of lines in memory and disassembly views (5 to 50). The value is saved " ++
      "into configuration file."]

/-- Explains how the program counter is followed. -/
def followHelp : String :=
  ofLines [
    heading "follow",
    "Re-anchor views at program counter each time the target stops. The value is saved " ++
      "into configuration file.",
    "",
    "Examples of usage:",
    "follow off - keep inspecting the same address across stops"]

/-- Explains how a file is loaded. -/
def loadHelp : String :=
  ofLines [
    heading "load",
    "Load file contents into target memory, first address of the inspection window is " ++
      "used if address is omitted.",
    "",
    "Examples of usage:",
    "load /tmp/patch.bin $10000"]

/-- Explains how memory is saved. -/
def saveHelp : String :=
  ofLines [
    heading "save",
    "Save target memory range into file.",
    "",
    "Examples of usage:",
    "save /tmp/dump.bin $10000 $400 - save 1024 bytes from address $10000"]

/-- Explains how text is sent as it is. -/
def rawHelp : String :=
  ofLines [
    heading "!, raw",
    "Send text to the target as is, print the reply.",
    "",
    "Examples of usage:",
    "! info video"]

/-- Explains how the console ends. -/
def quitHelp : String :=
  ofLines [
    heading "q, quit",
    "Exit, the target keeps its execution state."]

/-- The text for a topic, if it is one; the list of all commands is no topic. -/
def topicHelp? (topic : String) : Option String :=
  if topic = focusWord then some focusHelp
  else if topic = viewsWord then some viewsHelp
  else if topic = moveWord then some moveHelp
  else if topic = gotoWord ∨ topic = gotoShort then some gotoHelp
  else if topic = stepIntoWord ∨ topic = stepIntoShort then some stepIntoHelp
  else if topic = stepOverWord ∨ topic = stepOverShort then some stepOverHelp
  else if topic = toggleWord ∨ topic = toggleShort then some toggleHelp
  else if topic = pauseWord then some pauseHelp
  else if topic = resumeWord ∨ topic = resumeShort then some resumeHelp
  else if topic = refreshWord ∨ topic = refreshShort then some refreshHelp
  else if topic = linesWord then some linesHelp
  else if topic = followWord then some followHelp
  else if topic = loadWord then some loadHelp
  else if topic = saveWord then some saveHelp
  else if topic = rawWord then some rawHelp
  else if topic = leaveShort ∨ topic = leaveWord then some quitHelp
  else none

/-- The text that answers a request for help. -/
def help : Option String → String
  | none => overview
  | some topic => (topicHelp? topic).getD "unknown command"

end RemoteDebug.Console
