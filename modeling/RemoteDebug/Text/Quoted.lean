import RemoteDebug.Text.Hex
import RemoteDebug.Text.Unprintable

/-!
# Quoted text in messages

A message shows text of foreign origin inside double quotes, so that a reader sees where it ends
and what it holds: the quote and the backslash are escaped, the usual controls have short
escapes, and every other character that does not print on its own is written by its code point.
-/

namespace RemoteDebug.Text.Quoted

/-- The escape of a character by its code point. -/
def escapeByCode (c : Char) : List Char :=
  ['\\', 'u', '\x7b'] ++ Hex.digits 1 c.toNat ++ ['\x7d']

/-- The form that a character takes inside quotes. -/
def escape (c : Char) : List Char :=
  if c = '\x00' then ['\\', '0']
  else if c = '\t' then ['\\', 't']
  else if c = '\n' then ['\\', 'n']
  else if c = '\r' then ['\\', 'r']
  else if c = '\x22' || c = '\\' then ['\\', c]
  else if isUnprintable c then escapeByCode c
  else [c]

/-- A text in double quotes. -/
def quote (text : String) : String :=
  String.ofList ('\x22' :: (text.toList.flatMap escape ++ ['\x22']))

end RemoteDebug.Text.Quoted
