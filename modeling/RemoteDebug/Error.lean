import RemoteDebug.Duration
import RemoteDebug.Text.Hex
import RemoteDebug.Text.Quoted

/-!
# What can go wrong

Errors are causes. A `DecodeError` is confined to the reply block that it was found in; an `Error`
ends the operation that met it. The wording of each is fixed here and nowhere else, and so is the
distinction between errors that a session survives and the two that end it.
-/

namespace RemoteDebug

/-- What is wrong with one reply block. -/
inductive DecodeError where
  /-- The block names no register. -/
  | emptyBlock
  /-- The block is of another kind than the decoder reads. -/
  | unexpectedKind (expected found : String)
  /-- The tag line ends before a field. -/
  | missingField (field : String)
  /-- A token lacks its separator. -/
  | malformedToken (token : String)
  /-- A field does not hold a number, or the payload does not hold bytes. -/
  | invalidHex (field value : String)
  /-- No register has this name. -/
  | unknownRegister (name : String)
  /-- A number is too large for its field. -/
  | valueOutOfRange (field : String) (value : Nat)
  /-- The target answered with another status than success. -/
  | rejected (status : String)
deriving DecidableEq, Repr

/-- The wording of a decode error. -/
def DecodeError.message : DecodeError → String
  | .emptyBlock => "empty block"
  | .unexpectedKind expected found =>
    "expect `" ++ expected ++ "` block, got `" ++ found ++ "`"
  | .missingField field => "missing field `" ++ field ++ "`"
  | .malformedToken token => "malformed token `" ++ token ++ "`"
  | .invalidHex field value =>
    "invalid hex value in `" ++ field ++ "`: " ++ Text.Quoted.quote value
  | .unknownRegister name => "unknown register " ++ Text.Quoted.quote name
  | .valueOutOfRange field value =>
    "value " ++ Hex.marked value ++ " out of range for `" ++ field ++ "`"
  | .rejected status => "request rejected by target: " ++ status

/-- What ends an operation. -/
inductive Error where
  /-- Reading or writing failed, with the system's own text. -/
  | io (text : String)
  /-- The channel reached its end. -/
  | channelClosed
  /-- What was awaited did not arrive in time, or can no longer arrive. -/
  | noReply (awaited : String) (waited : Duration)
  /-- A reply block that the operation depends on is malformed. -/
  | decode (cause : DecodeError)
  /-- The status reply does not tell the program counter. -/
  | noProgramCounter
  /-- The target has to be stopped first. -/
  | notStopped
  /-- The address lies outside the address space. -/
  | addressOutOfRange (address : Nat)
  /-- A window was asked for that would hold no address. -/
  | emptyWindow (first last : Int)
  /-- The configuration file does not hold a configuration. -/
  | configMismatch (path reason : String)
deriving DecidableEq, Repr

namespace Error

/-- The wording of an error. -/
def message : Error → String
  | io text => text
  | channelClosed => "debug channel closed"
  | noReply awaited waited =>
    "no reply: `" ++ awaited ++ "` not received in " ++ waited.text
  | decode cause => cause.message
  | noProgramCounter => "program counter not found in status reply"
  | notStopped => "target is running, stop it first"
  | addressOutOfRange address =>
    "address " ++ Hex.marked address ++ " is out of 24-bit address space"
  | emptyWindow first last =>
    "address window contract violated: first " ++ Hex.markedWord first ++ " >= last " ++
      Hex.markedWord last
  | configMismatch path reason =>
    "configuration mismatch in " ++ Text.Quoted.quote path ++ ": " ++ reason ++
      ", remove the file and try again"

/-- Whether a session cannot go on after an error. -/
def isFatal : Error → Bool
  | channelClosed => true
  | emptyWindow _ _ => true
  | _ => false

end Error

end RemoteDebug
