import RemoteDebug.Text.Blank

/-!
# Sync tokens

Replies carry no number, so a request ends with a command that makes the target echo a token. All
that arrives before the echo belongs to the request or to an earlier one; the echo of any other
token is a leftover.
-/

namespace RemoteDebug.Wire

/-- What the text of every token starts with. -/
def tokenStart : String :=
  "sync-"

/-- What every echo of a token starts with, up to the token. -/
def echoStart : String :=
  "#echo "

/-- A token, told from others by its number. -/
structure SyncToken where
  number : Nat
deriving DecidableEq, Repr

namespace SyncToken

/-- The text of a token. -/
def text (token : SyncToken) : String :=
  tokenStart ++ toString token.number

/-- The line by which the target echoes a token. -/
def replyLine (token : SyncToken) : String :=
  echoStart ++ token.text

/-- Whether a line echoes the token. -/
def isReply (token : SyncToken) (line : String) : Bool :=
  Text.trimEndOf line == token.replyLine

/-- Whether a line echoes another token. -/
def isStaleReply (token : SyncToken) (line : String) : Bool :=
  let text := Text.trimEnd line.toList
  (echoStart ++ tokenStart).toList.isPrefixOf text && String.ofList text != token.replyLine

end SyncToken

end RemoteDebug.Wire
