import RemoteDebug.Text.Blank

/-!
# Stop markers

When the target stops on its own, or on request, it sends a line that is not part of any reply. Two
spellings are in use; blanks at the end of the line do not matter.
-/

namespace RemoteDebug.Wire

/-- The stop marker. -/
def stopMarker : String :=
  "!break"

/-- The stop marker of older targets. -/
def legacyStopMarker : String :=
  "#break"

/-- Whether a line is a stop marker. -/
def isStopMarker (line : String) : Bool :=
  let text := Text.trimEndOf line
  text == stopMarker || text == legacyStopMarker

end RemoteDebug.Wire
