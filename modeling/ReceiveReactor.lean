import ReceiveReactor.Address.Basic
import ReceiveReactor.Address.Raw
import ReceiveReactor.Address.Text
import ReceiveReactor.Buffer
import ReceiveReactor.Bytes
import ReceiveReactor.Bytes.Text
import ReceiveReactor.Control.Channel
import ReceiveReactor.Control.Record
import ReceiveReactor.Errno
import ReceiveReactor.Error
import ReceiveReactor.Host.Answer
import ReceiveReactor.Host.Basic
import ReceiveReactor.Host.Endpoint
import ReceiveReactor.Host.Inet
import ReceiveReactor.Host.Option
import ReceiveReactor.Host.Pipe
import ReceiveReactor.Host.Transfer
import ReceiveReactor.Kernel.Call
import ReceiveReactor.Kernel.Program
import ReceiveReactor.Kernel.Script
import ReceiveReactor.Proofs.AddressGrammar
import ReceiveReactor.Proofs.AddressLayout
import ReceiveReactor.Proofs.AddressText
import ReceiveReactor.Proofs.Aftermath
import ReceiveReactor.Proofs.Agreement
import ReceiveReactor.Proofs.Alignment
import ReceiveReactor.Proofs.Ancillary
import ReceiveReactor.Proofs.Attempt
import ReceiveReactor.Proofs.Bytes
import ReceiveReactor.Proofs.CallbackStop
import ReceiveReactor.Proofs.Change
import ReceiveReactor.Proofs.Channel
import ReceiveReactor.Proofs.Circulation
import ReceiveReactor.Proofs.Columns
import ReceiveReactor.Proofs.Consumer
import ReceiveReactor.Proofs.Custody
import ReceiveReactor.Proofs.DatagramPort
import ReceiveReactor.Proofs.Datagrams
import ReceiveReactor.Proofs.Effect
import ReceiveReactor.Proofs.EndOfStream
import ReceiveReactor.Proofs.Exchange
import ReceiveReactor.Proofs.Exit
import ReceiveReactor.Proofs.FailedAllocation
import ReceiveReactor.Proofs.Footprint
import ReceiveReactor.Proofs.Generations
import ReceiveReactor.Proofs.History
import ReceiveReactor.Proofs.HostPipe
import ReceiveReactor.Proofs.Intake
import ReceiveReactor.Proofs.Intrusion
import ReceiveReactor.Proofs.Invariant
import ReceiveReactor.Proofs.LocalAddress
import ReceiveReactor.Proofs.LocalPipe
import ReceiveReactor.Proofs.LocalPort
import ReceiveReactor.Proofs.LocalStream
import ReceiveReactor.Proofs.Naming
import ReceiveReactor.Proofs.OptionValues
import ReceiveReactor.Proofs.Ownership
import ReceiveReactor.Proofs.Pass
import ReceiveReactor.Proofs.Policy
import ReceiveReactor.Proofs.Preparation
import ReceiveReactor.Proofs.Readiness
import ReceiveReactor.Proofs.Reception
import ReceiveReactor.Proofs.Record
import ReceiveReactor.Proofs.RecordBlock
import ReceiveReactor.Proofs.Reentrancy
import ReceiveReactor.Proofs.Registry
import ReceiveReactor.Proofs.Residue
import ReceiveReactor.Proofs.Sending
import ReceiveReactor.Proofs.SetUp
import ReceiveReactor.Proofs.Source
import ReceiveReactor.Proofs.StaleRecords
import ReceiveReactor.Proofs.Stop
import ReceiveReactor.Proofs.StreamPort
import ReceiveReactor.Proofs.StreamSocket
import ReceiveReactor.Proofs.Streams
import ReceiveReactor.Proofs.Sweep
import ReceiveReactor.Proofs.System
import ReceiveReactor.Proofs.TextFields
import ReceiveReactor.Proofs.Transaction
import ReceiveReactor.Proofs.Turnover
import ReceiveReactor.Proofs.Wake
import ReceiveReactor.Quoted
import ReceiveReactor.Reactor.Basic
import ReceiveReactor.Reactor.Config
import ReceiveReactor.Reactor.Wake
import ReceiveReactor.Readiness
import ReceiveReactor.Registry
import ReceiveReactor.Socket.Handle
import ReceiveReactor.Socket.Kind
import ReceiveReactor.Socket.Listening
import ReceiveReactor.Socket.Naming
import ReceiveReactor.Socket.Open
import ReceiveReactor.Socket.Options
import ReceiveReactor.Socket.Sctp
import ReceiveReactor.Socket.Transfer
import ReceiveReactor.Task
import ReceiveReactor.World.Attempt
import ReceiveReactor.World.Basic
import ReceiveReactor.World.Label
import ReceiveReactor.World.Reactor
import ReceiveReactor.World.Socket
import ReceiveReactor.World.Task
