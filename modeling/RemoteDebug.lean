import RemoteDebug.Main
import RemoteDebug.Console.Run
import RemoteDebug.Simulator.FileTree
import RemoteDebug.Simulator.Machine
import RemoteDebug.Proofs.Interleaving.Continuations
import RemoteDebug.Proofs.Session.Atomicity
import RemoteDebug.Proofs.Session.FaithfulRefresh
import RemoteDebug.Proofs.Session.Leftovers
import RemoteDebug.Proofs.Session.StopNotice
import RemoteDebug.Proofs.Watcher.Cutting
import RemoteDebug.Proofs.Wire.Streams
import RemoteDebug.Proofs.Session.Isolation
import RemoteDebug.Proofs.Interleaving.StaleMarkers
import RemoteDebug.Proofs.Channel.StopDetectors
import RemoteDebug.Proofs.Interleaving.Phases
import RemoteDebug.Proofs.Interleaving.RequestOrder
import RemoteDebug.Proofs.Interleaving.Watchers
import RemoteDebug.Proofs.Interleaving.Readings
import RemoteDebug.Proofs.Command.Acceptance
import RemoteDebug.Proofs.Console.Sending
import RemoteDebug.Proofs.Channel.OwnReply
import RemoteDebug.Proofs.Wire.Respelling
import RemoteDebug.Proofs.Address.Words
import RemoteDebug.Proofs.Address.Walking
import RemoteDebug.Proofs.Interleaving.Staying
import RemoteDebug.Proofs.Interleaving.Paging
import RemoteDebug.Proofs.Console.MemoryView
import RemoteDebug.Proofs.Decode.RegisterTokens
import RemoteDebug.Proofs.Decode.InstructionLines
import RemoteDebug.Proofs.Address.NearestWindow
import RemoteDebug.Proofs.Wire.TagFields
import RemoteDebug.Proofs.Decode.AcceptedNumbers
import RemoteDebug.Proofs.Command.Padding
import RemoteDebug.Proofs.Command.ParallelReading
