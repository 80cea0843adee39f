import Vmstated.Library.Machine
import Vmstated.Library.Window
import Vmstated.Libprocwatch.StateChange
import Vmstated.Libprocwatch.ProcessState
import Vmstated.Libprocwatch.Transitions
import Vmstated.Libprocwatch.BhyveDirector
import Vmstated.Libprocwatch.StartSpec
import Vmstated.Libprocwatch.ExitSpec
import Vmstated.Libprocwatch.Director
import Vmstated.Libprocwatch.DirectorSpec
import Vmstated.Libprocwatch.Operations
import Vmstated.Properties.ExitSettles
import Vmstated.Properties.FailedSticky
import Vmstated.Properties.HookFailure
import Vmstated.Properties.Launch
import Vmstated.Properties.Lifecycle
import Vmstated.Properties.ProcessExit
import Vmstated.Properties.SingleProcess
import Vmstated.Properties.StartRequest
import Vmstated.Properties.Throttle
import Vmstated.Libcommand.BhyveCommand
import Vmstated.Libcommand.VmInfo
import Vmstated.Libcommand.VmInfoSpec
import Vmstated.Libprocwatch.DirectorInfo
import Vmstated.Libprocwatch.Fleet
import Vmstated.Libprocwatch.HookBrackets
import Vmstated.Libprocwatch.RebootRequests
import Vmstated.Library.Transfer
import Vmstated.Libsocket.Exchange
import Vmstated.Libsocket.SocketConnect
import Vmstated.Properties.Chunking
import Vmstated.Properties.DataReply
import Vmstated.Properties.HookBrackets
import Vmstated.Properties.RebootList
import Vmstated.Properties.RebootWakeup
import Vmstated.Properties.ReplyIsolation
import Vmstated.Properties.Status
import Vmstated.Properties.StopUndone
import Vmstated.Properties.Identifiers
import Vmstated.Properties.Codec
import Vmstated.Properties.AcceptedParameters
import Vmstated.Properties.GeneratedConfig
import Vmstated.Properties.UclConfiguration
import Vmstated.Properties.ParserProgress
import Vmstated.Properties.ReadData
import Vmstated.Properties.ZeroTail
import Vmstated.Properties.ListenerBounds
import Vmstated.Properties.MalformedMessages
import Vmstated.Properties.ClientRequest
import Vmstated.Properties.TextReply
import Vmstated.Properties.CommandHandling
import Vmstated.Properties.StartOutcome
import Vmstated.Properties.LastBoot
import Vmstated.Properties.StatusDecoding
import Vmstated.Properties.WireItems
import Vmstated.Properties.ConfigRoundTrip
import Vmstated.Properties.TableParsing
import Vmstated.Properties.CombineResult
import Vmstated.Properties.ConsolePorts
import Vmstated.Properties.CheckerSpec
import Vmstated.Properties.MemorySize
import Vmstated.Properties.ParsedLines
import Vmstated.Properties.IdentifierLimit
import Vmstated.Properties.StateGraph
import Vmstated.Properties.RebootLookup
import Vmstated.Properties.LogForwarding
import Vmstated.Properties.FixedStrings
import Vmstated.Properties.ProcessCopies
import Vmstated.Properties.Collecting
import Vmstated.Properties.LinkedConsoles
import Vmstated.Properties.MachineRuns
import Vmstated.Properties.RebootOrder
import Vmstated.Properties.Connections
import Vmstated.Properties.LogContents
import Vmstated.Properties.LogRelease
import Vmstated.Properties.Sessions
import Vmstated.Properties.StatusScreen
import Vmstated.Properties.ConfiguredRuns
import Vmstated.Properties.ServerStop
import Vmstated.Properties.Daemons
