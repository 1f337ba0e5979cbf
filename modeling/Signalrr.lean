import Signalrr.Automata.System
import Signalrr.Automata.Observer
import Signalrr.Automata.Numbering
import Signalrr.Automata.ReplayChannel
import Signalrr.Automata.RetryTrace
import Signalrr.Automata.InputLoop
import Signalrr.Hub.Message
import Signalrr.Hub.MessageBus
import Signalrr.Hub.PendingRuns
import Signalrr.Transport.SendQueue
import Signalrr.Transport.SendResults
import Signalrr.Transport.WebSocketTransport
import Signalrr.Transport.WebSocketClose
import Signalrr.Transport.CloseProgress
import Signalrr.HubConnection.MessageBuffer
import Signalrr.HubConnection.FailedSend
import Signalrr.HubConnection.Link
import Signalrr.HubConnection.LinkDelivery
import Signalrr.HubConnection.StatefulSession
import Signalrr.HubConnection.LateFailure
import Signalrr.HubConnection.AckTimer
import Signalrr.HubConnection.ConcurrentSend
import Signalrr.HubConnection.BufferRuns
import Signalrr.HubConnection.Dispatch
import Signalrr.HubConnection.Core
import Signalrr.HubConnection.Lifecycle
import Signalrr.HubConnection.CallSteps
import Signalrr.HubConnection.InvocationIds
import Signalrr.HubConnection.StreamHandles
import Signalrr.HubConnection.UploadStreams
import Signalrr.HubConnection.UploadOrder
import Signalrr.HubConnection.LostCalls
import Signalrr.HubConnection.FailedCalls
import Signalrr.HubConnection.InvocationAnswer
import Signalrr.HubConnection.ConnectOperation
import Signalrr.HubConnection.TaskSteps
import Signalrr.HubConnection.CloseNotify
import Signalrr.HubConnection.StoredSenders
import Signalrr.HubConnection.Backpressure
import Signalrr.HubConnection.StartRace
import Signalrr.HubConnection.CloseOverridesStart
import Signalrr.HubConnection.StaysClosed
import Signalrr.HubConnection.CleanEnd
import Signalrr.HubConnection.CallbackFlag
import Signalrr.HubConnection.CloseFields
import Signalrr.HubConnection.Close
import Signalrr.HubConnection.ClosedCallbacks
import Signalrr.HubConnection.CloseReports
import Signalrr.HubConnection.ReconnectLoop
import Signalrr.HubConnection.ReconnectPolicy
import Signalrr.HubConnection.SupervisorLoop
import Signalrr.HubConnection.BackgroundLoops
import Signalrr.Framing.Base128
import Signalrr.Framing.MessageFormat
import Signalrr.MessagePack.Format
import Signalrr.MessagePack.Reader
import Signalrr.MessagePack.Writer
import Signalrr.Hub.MessagePack.Decode
import Signalrr.Hub.JsonValue
import Signalrr.Hub.MessagePack.Values
import Signalrr.Hub.MessagePack.Brotli
import Signalrr.Hub.MessagePack.RoundTrip
import Signalrr.Hub.MessagePack.Compression
import Signalrr.Hub.MessagePack.ParsedArguments
import Signalrr.Hub.MessagePack.SkipValue
import Signalrr.Hub.MessagePack.WordLengths
import Signalrr.Hub.JsonMessage
import Signalrr.Hub.JsonProtocol
import Signalrr.Hub.JsonInput
import Signalrr.Hub.ProtocolKind
import Signalrr.Hub.UnknownTypes
import Signalrr.Url.Canonical
import Signalrr.Connection.Handshake
import Signalrr.Connection.Negotiate
import Signalrr.Connection.WebSocketUrl
import Signalrr.Connection.RedactedUrl
import Signalrr.Connection.NegotiateRequest
import Signalrr.Connection.Connect
import Signalrr.Transport.WireMessages
import Signalrr.HubConnection.KeepAliveLog
import Signalrr.HubConnection.KeepAlive
import Signalrr.HubConnection.Delivery
import Signalrr.HubConnection.ServerCalls
import Signalrr.HubConnection.CallResults
