import RemoteDebug.Session.Basic

/-!
# Refreshing the views

A refresh is two exchanges. The first asks for the status, since the position may follow the
program counter; the second asks for every active view, in the order of the views. Both end with
the echo of a token of their own. All that a refresh finds is collected beside the session and put
in place at the end, so that a refresh that fails changes nothing.
-/

namespace RemoteDebug

open RemoteDebug.Decode RemoteDebug.Wire

/-! ## Exchanges -/

/-- Marks the target as stopped if a stop marker stood in a reply, and tells the user if it was
running. -/
def observeStop (reply : Reply) : Operation Unit := do
  if reply.stopObserved then
    if ← Operation.perform (.markStopped .done) then
      Operation.perform (.announceStop (.done ()))

/-- Sends requests and a request to echo a new token, and takes the reply. -/
def exchange (requests : List Request) : Operation Reply := do
  let token ← Operation.perform (.takeToken .done)
  let limit := (← get).settings.replyLimit
  let lines := (requests ++ [Request.sync token]).map Request.line
  let reply := splitReply (← Operation.attempt (.converse lines (.echo token) limit .done))
  observeStop reply
  return reply

/-! ## The parts of a refresh -/

/-- The position at which a refresh looks: an address that was asked for, else the position before,
else the program counter. The status reply matters in the last case only. -/
def anchor (target : TargetState) (status : Option Block) (address : Option Nat) :
    Except Error Cursor :=
  match address, target.first with
  | some address, _ => .ok { first := address }
  | none, some first => .ok { first, second := target.second, last := target.last }
  | none, none =>
    match status with
    | none => .error .noProgramCounter
    | some block =>
      (programCounter block).map fun pc =>
        { first := pc, second := target.second, last := target.last }

namespace Session

/-- The window that a view is going to ask for: only the focused view moves, and a view that is
not active asks for none. -/
def plannedWindow (session : Session) (cursor : Cursor) (move : Move) (view : View) :
    Except Error (Option Window) :=
  if session.views.get view then
    view.window? cursor (if view = session.focus then move else .stay) session.settings.lines
  else .ok none

/-- The windows that the views are going to ask for. -/
def plannedWindows (session : Session) (cursor : Cursor) (move : Move) :
    Except Error (PerView (Option Window)) := do
  let registers ← session.plannedWindow cursor move .registers
  let memory ← session.plannedWindow cursor move .memory
  let disassembly ← session.plannedWindow cursor move .disassembly
  return { registers, memory, disassembly }

/-- The requests of the active views. -/
def viewRequests (session : Session) (windows : PerView (Option Window)) : List Request :=
  session.views.toList.map fun view => .ofView view (windows.get view)

/-- What the active views show according to a list of blocks; of several blocks for a view the last
counts. -/
def shownIn (session : Session) (blocks : List Block) : PerView (Option Shown) :=
  blocks.foldl (fun shown block =>
    match Decode.block? block session.snapshot with
    | some (view, content) =>
      if session.views.get view then shown.set view (some content) else shown
    | none => shown) (.const none)

/-- The position behind a refresh: that of the focused view's window if it has one, and for the
disassembly the addresses that the target told. -/
def positionAfter (session : Session) (cursor : Cursor) (windows : PerView (Option Window))
    (shown : PerView (Option Shown)) : Cursor :=
  let position := match windows.get session.focus with
    | some window => window.cursor
    | none => cursor
  match session.focus, shown.disassembly with
  | .disassembly, some (.ok (.disassembly listing)) =>
    { position with
      second := listing.secondAddress
      last := listing.lastShownAddress session.settings.lines }
  | _, _ => position

/-- The session with what a refresh found. Registers that could not be read do not replace those
read before. -/
def withShown (session : Session) (windows : PerView (Option Window))
    (shown : PerView (Option Shown)) : Session :=
  { session with
    windows
    shown
    snapshot := match shown.registers with
      | some (.ok (.registers report)) => some report.registers
      | _ => session.snapshot }

end Session

/-! ## The refresh -/

/-- The two exchanges of a refresh, and what becomes of their replies. -/
def refreshCycle (address : Option Nat) (move : Move) : Operation Unit := do
  let target ← Operation.target
  Operation.enter .awaitingStatus
  let status ← exchange [.status]
  let cursor ← liftExcept (anchor target (status.block? .status) address)
  let windows ← liftExcept ((← get).plannedWindows cursor move)
  Operation.enter .awaitingReply
  let reply ← exchange ((← get).viewRequests windows)
  let session ← get
  let shown := session.shownIn reply.blocks
  Operation.changeTarget fun target =>
    target.moveTo (session.positionAfter cursor windows shown)
  set (session.withShown windows shown)

/-- Refreshes the active views of a stopped target, from an address if one is given, and moves the
focused view. -/
def refresh (address : Option Nat) (move : Move) : Operation Unit := do
  unless (← Operation.target).stopped do throw .notStopped
  Operation.keepingPhase (refreshCycle address move)
  Operation.enter .stopped

end RemoteDebug
