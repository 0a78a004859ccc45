import Tailserver.Library.Memory
import Tailserver.Library.LinkedList
import Tailserver.Library.Units
import Tailserver.Buffer.Basic
import Tailserver.Buffer.Linked
import Tailserver.Buffer.Append
import Tailserver.Buffer.RequiredTail
import Tailserver.Buffer.Counted
import Tailserver.Buffer.Holds
import Tailserver.Buffer.Ready
import Tailserver.Buffer.Execution
import Tailserver.Buffer.FreshMemory
import Tailserver.Library.Decimal
import Tailserver.Library.DoublyLinked
import Tailserver.Kernel
import Tailserver.SafeWrite
import Tailserver.Server.Basic
import Tailserver.Library.Returns
import Tailserver.Server.Tailers
import Tailserver.Server.Writes
import Tailserver.Server.Runs
import Tailserver.Server.Tee
import Tailserver.Server.Streams
import Tailserver.Server.BlockingWrites
import Tailserver.Client.Connection
import Tailserver.Client.Calls
import Tailserver.Client.Decoder
import Tailserver.Client.Session
import Tailserver.Client.HostilePeer
import Tailserver.Client.Loop
import Tailserver.Client.Output
import Tailserver.Client.Callback
import Tailserver.Client.Reconnect
import Tailserver.Buffer.OutOfMemory
import Tailserver.Server.OutOfMemory
import Tailserver.Client.OutOfMemory
import Tailserver.Server.Growth
import Tailserver.Client.Conversation
import Tailserver.EndToEnd
import Tailserver.Client.Header
import Tailserver.Buffer.Checked
import Tailserver.Buffer.Packing
import Tailserver.Client.Connect
import Tailserver.Server.Ownership
import Tailserver.Server.Gate
import Tailserver.ManyClients
import Tailserver.CommandLine.Number
import Tailserver.CommandLine.Arguments
import Tailserver.Server.Process
import Tailserver.Library.Exclusive
import Tailserver.Client.Process
import Tailserver.Library.Amortized
import Tailserver.Termination
import Tailserver.Server.Accepting
import Tailserver.Buffer.Cost
import Tailserver.Client.Retrying
import Tailserver.Reopening.Basic
import Tailserver.Reopening.Connection
import Tailserver.Reopening.Coupled
import Tailserver.Reopening.Output
import Tailserver.Client.Failures
import Tailserver.Failures
import Tailserver.Pipe
import Tailserver.Server.Records
