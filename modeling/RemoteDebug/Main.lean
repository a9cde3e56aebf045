import RemoteDebug.Channel.ByteStream
import RemoteDebug.CommandLine
import RemoteDebug.Config.Reading
import RemoteDebug.Console.Handling
import RemoteDebug.Session.Watcher
import Std.Async.TCP

/-!
# The program

The outer layer: the socket, the keyboard and the file of the configuration. What is said to the
target and what is printed is decided elsewhere; here dialogues are carried out over a socket, and
texts are printed. Between two typed lines the watcher takes its turn.
-/

namespace RemoteDebug.Terminal

open Std.Async Std.Net RemoteDebug.Wire

/-! ## The socket -/

/-- A connection to the target: its socket, the bytes that arrived, and what else lies outside the
session. The channel of this world is not used. -/
structure Connection where
  socket : TCP.Socket.Client
  stream : IO.Ref ByteStream
  world : IO.Ref (World Unit)

/-- How long one poll waits for a line. -/
def pollMilliseconds : Nat :=
  50

/-- Receives bytes until the stream ends. -/
partial def Connection.receiveAll (connection : Connection) : IO Unit := do
  match ← (connection.socket.recv? 4096).block with
  | some bytes =>
    connection.stream.modify fun stream => stream.receive bytes.toList
    connection.receiveAll
  | none => connection.stream.modify ByteStream.finish

/-- The address of a socket: a host, a colon and a number. -/
def socketAddress? (text : String) : Option SocketAddress := do
  let parts := text.splitOn ":"
  let number ← (CommandLine.readNumber 0x10000 (parts.getLastD "")).toOption
  let host := String.intercalate ":" parts.dropLast
  match IPv4Addr.ofString (if host = "localhost" then "127.0.0.1" else host) with
  | some addr => return .v4 ⟨addr, number.toUInt16⟩
  | none =>
    let addr ← IPv6Addr.ofString (String.ofList ((host.toList.drop 1).dropLast))
    return .v6 ⟨addr, number.toUInt16⟩

/-- Connects to the target. -/
def Connection.connect (address : String) : IO Connection := do
  let some target := socketAddress? address
    | throw (.userError "invalid socket address")
  let socket ← TCP.Socket.Client.mk
  (socket.connect target).block
  socket.noDelay
  let connection : Connection := {
    socket, stream := ← IO.mkRef {}, world := ← IO.mkRef { channel := { peer := () } } }
  let receive : IO Unit := do
    try connection.receiveAll catch _ => connection.stream.modify ByteStream.finish
  let _ ← IO.asTask receive .dedicated
  return connection

/-! ## Dialogues over the socket -/

/-- Sends lines. -/
def Connection.send (connection : Connection) (lines : List String) : IO (Except Error Unit) := do
  try
    for line in lines do
      (connection.socket.send ⟨(ByteStream.encodeLine line).toArray⟩).block
    return .ok ()
  catch failure => return .error (.io (toString failure))

/-- Takes the next line, or none if there is no whole line up to a point of time. -/
partial def Connection.pollUntil (connection : Connection) (deadline : Nat) :
    IO (Except Error (Option String)) := do
  match ← connection.stream.modifyGet ByteStream.poll with
  | .ok none =>
    if deadline ≤ (← IO.monoMsNow) then return .ok none
    IO.sleep 2
    connection.pollUntil deadline
  | found => return found

/-- Takes the next line, or none if there is no whole line soon. -/
def Connection.poll (connection : Connection) : IO (Except Error (Option String)) := do
  connection.pollUntil ((← IO.monoMsNow) + pollMilliseconds)

/-- Reads the socket by steps, which are told the time since a point of it and what a poll found. -/
partial def Connection.readSince (connection : Connection) (start : Nat)
    (step : Duration → Except Error (Option String) → ReadStep) (newestFirst : List String) :
    IO (Except Error (List String)) := do
  let found ← connection.poll
  let waited : Duration := ⟨(← IO.monoNanosNow) - start⟩
  match step waited found with
  | .done => return .ok newestFirst.reverse
  | .fails cause => return .error cause
  | .goesOn kept => connection.readSince start step (kept.toList ++ newestFirst)

/-- Reads the socket by steps. -/
def Connection.read (connection : Connection)
    (step : Duration → Except Error (Option String) → ReadStep) :
    IO (Except Error (List String)) := do
  connection.readSince (← IO.monoNanosNow) step []

/-- Carries out a dialogue over a connection. -/
def Connection.carryOut {α : Type} (connection : Connection) : Dialogue α → IO α
  | .done result => return result
  | .takeToken next => do
    connection.carryOut (next (← connection.world.modifyGet World.takeToken))
  | .send lines next => do connection.carryOut (next (← connection.send lines))
  | .converse lines awaited limit next => do
    let outcome ← match ← connection.send lines with
      | .error cause => pure (.error cause)
      | .ok () => connection.read (ReadStep.awaiting awaited limit)
    connection.carryOut (next outcome)
  | .readTarget next => do connection.carryOut (next (← connection.world.get).target)
  | .changeTarget change next => do
    connection.world.modify fun world => { world with target := change world.target }
    connection.carryOut next
  | .markStopped next => do
    connection.carryOut (next (← connection.world.modifyGet World.markStopped))
  | .announceStop next => do
    connection.world.modify fun world => world.announce .stopped
    connection.carryOut next
  | .beginWatch next => do
    connection.carryOut (next (← connection.world.modifyGet World.beginWatch))

/-- One round of the watcher: its steps, with the socket drained where it polls. -/
def Connection.watchOnce (connection : Connection) : IO Unit := do
  if (← connection.world.modifyGet WatchStage.checking.step) = .polling then
    let found ← connection.read fun _ => ReadStep.draining
    connection.world.modify fun world =>
      ((WatchStage.behindPoll found).followUp 2 world).2

/-! ## The console -/

/-- Saves a configuration, and makes the directories in which its file lies. -/
def saveConfig (path : String) (config : Config) : IO Unit := do
  let directory := String.intercalate "/" (path.splitOn "/").dropLast
  try
    unless directory.isEmpty do IO.FS.createDirAll directory
    IO.FS.writeFile path config.text
  catch _ => return

/-- What is found at the path of a configuration. -/
def findConfig (path : String) : IO Config.Found := do
  try
    return .bytes (← IO.FS.readBinFile path)
  catch
    | .noFileOrDirectory .. => return .nothing
    | failure => return .unreadable (toString failure)

/-- Does what a console tells. -/
def tellUser (configPath : Option String) (console : Console) : IO Console := do
  let output ← IO.getStdout
  for told in console.outputs do
    match told, configPath with
    | .print text, _ => output.putStrLn text
    | .save config, some path => saveConfig path config
    | .save _, none => pure ()
  output.flush
  return { console with outputs := [] }

/-- What keeps a console going: its connection, the lines typed so far, and the path of its
configuration. The end of the input is none. -/
structure Desk where
  connection : Connection
  typed : IO.Ref (List (Option String))
  configPath : Option String

/-- Reads typed lines until the user leaves or the input ends. -/
partial def Desk.readLines (desk : Desk) (input : IO.FS.Stream) : IO Unit := do
  let line ← input.getLine
  desk.typed.modify (· ++ [if line.isEmpty then none else some line])
  unless line.isEmpty || Console.isLeaving line do desk.readLines input

/-- Lets the console act, and does what it tells. -/
def Desk.act (desk : Desk) (console : Console) (action : StateT Console Dialogue Unit) :
    IO Console := do
  if console.ending.isSome then return console
  let ((), after) ← desk.connection.carryOut (action.run console)
  tellUser desk.configPath after

/-- Lets the console notice what has come up. -/
def Desk.settle (desk : Desk) (console : Console) : IO Console := do
  let events ← desk.connection.world.modifyGet fun world =>
    (world.events, { world with events := [] })
  events.foldlM (fun console event => desk.act console (Console.notice event)) console

/-- Carries on until the console has ended; tells how it ended. -/
partial def Desk.serve (desk : Desk) (console : Console) (nextPoll : Nat) : IO Console.Ending := do
  match console.ending with
  | some ending => return ending
  | none =>
    let console ← desk.settle console
    let now ← IO.monoMsNow
    match ← desk.typed.modifyGet fun lines => (lines.head?, lines.drop 1) with
    | some (some line) => desk.serve (← desk.act console (Console.type line)) nextPoll
    | some none =>
      desk.serve (← desk.act console (modify fun console => console.finish .finished)) nextPoll
    | none =>
      if (← desk.connection.world.get).watching && nextPoll ≤ now then
        desk.connection.watchOnce
        desk.serve console (now + console.session.settings.pollPause.inMilliseconds)
      else
        IO.sleep 5
        desk.serve console nextPoll

/-- Runs a console with options, and gives the exit code. -/
def run (options : CommandLine.Options) : IO UInt32 := do
  let leave (ending : Console.Ending) : IO UInt32 := do
    if let some failure := ending.failure? then (← IO.getStderr).putStrLn failure
    return ending.exitCode.toUInt32
  if let some path := options.logFile then
    try
      let _ ← IO.FS.Handle.mk path .append
    catch _ => return ← leave (.fatal ("open log file " ++ path))
  let home ← IO.getEnv "HOME"
  let configPath := options.config.or (home.map (· ++ "/" ++ Config.defaultPath))
  let config ← match configPath with
    | some path => pure (Config.load (← findConfig path))
    | none => pure {}
  let known := options.connect.or (← IO.getEnv "RDBCTL_CONNECT")
  let address := known.getD CommandLine.defaultAddress
  let connection ← try Connection.connect address catch _ => return ← leave (.unreachable address)
  let desk : Desk := { connection, typed := ← IO.mkRef [], configPath }
  IO.println Console.welcome
  let _ ← IO.asTask (desk.readLines (← IO.getStdin)) .dedicated
  let ending ← desk.serve { session := { settings := options.settings config } } 0
  connection.socket.native.cancelRecv
  leave ending

end RemoteDebug.Terminal

/-- Does what the arguments ask for. -/
def main (arguments : List String) : IO UInt32 := do
  match RemoteDebug.CommandLine.parse arguments with
  | .ok (.run options) => RemoteDebug.Terminal.run options
  | .ok .help =>
    IO.println RemoteDebug.CommandLine.helpText
    return 0
  | .ok .version =>
    IO.println RemoteDebug.CommandLine.versionText
    return 0
  | .error cause =>
    (← IO.getStderr).putStrLn (cause.message ++ RemoteDebug.CommandLine.usageText)
    return RemoteDebug.CommandLine.UsageError.exitCode.toUInt32
