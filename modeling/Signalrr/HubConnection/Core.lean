import Signalrr.Hub.MessageBus
import Signalrr.HubConnection.Dispatch

set_option relaxedAutoImplicit false
set_option autoImplicit false

/-!
# The shared fields of a hub connection and its calls

`src/hub_connection/mod.rs`, `runtime.rs`, `stream.rs` and `upload_stream.rs`: the fields that
`start`, `close`, the supervisor and the calls of a `HubConnection` share, and the steps of
`invoke`, `stream` and `send`, of stream handles and of upload tasks. A step takes one lock, reads
or writes under it, and releases it; a send holds the runtime lock for its whole duration.

The steps of `start`, `close` and the supervisor on these fields are listed as `Op`; when they are
taken is the subject of `Signalrr.HubConnection.Lifecycle`.

## Main definitions

* `Signalrr.HubConnection.HubRuntime`, `Signalrr.HubConnection.Control`,
  `Signalrr.HubConnection.Core` — the fields.
* `Signalrr.HubConnection.Call` — a call with its stream handle and its upload task.
* `Signalrr.HubConnection.Op` — what the life cycle of the connection does to the fields.
* `Signalrr.HubConnection.Core.next` — one step.

## Design

Buffers, transports and calls are named by their positions in lists, server connections are
numbered in the order in which they are established. A reference to a buffer, `Arc<MessageBuffer>`,
is its name. The calls of a receive task are atomic. A receive task ends with its runtime: it
leaves its loop when the runtime is shut down, aborted or dropped.

`Log` records what has happened, for statements about runs; no step reads it.
-/

namespace Signalrr.HubConnection

open Hub

/-! ## Fields -/

/-- `HubConnectionState`. -/
inductive HubConnectionState where
  | disconnected
  | connecting
  | connected
  | disconnecting
  | reconnecting
  deriving DecidableEq, Repr

/-- The name of a state in messages. -/
def HubConnectionState.toText : HubConnectionState → String
  | disconnected => "Disconnected"
  | connecting => "Connecting"
  | connected => "Connected"
  | disconnecting => "Disconnecting"
  | reconnecting => "Reconnecting"

/-- `HubRuntime`: the server connection and the transport it runs on, its buffer and the counter of
its invocation ids. -/
structure HubRuntime where
  connection : ℕ
  transport : ℕ
  messageBuffer : Option ℕ
  invocationId : ℕ
  deriving DecidableEq, Repr

/-- `RetryContext`, with the elapsed time in milliseconds. -/
structure RetryContext where
  elapsed : ℕ
  previousRetryCount : ℕ
  retryReason : String
  deriving DecidableEq, Repr

/-- `ConnectionOptions`, as far as the tasks of a connection read them. -/
structure ConnectionOptions where
  protocol : HubProtocol
  transferFormat : TransferFormat
  statefulReconnectBufferSize : ℕ
  /-- `next_retry_delay` of the policy, with the delay in milliseconds. -/
  reconnectPolicy : Option (RetryContext → Option ℕ)

/-- The options as the dispatch of messages uses them. -/
def ConnectionOptions.dispatch (options : ConnectionOptions) : DispatchConfig :=
  ⟨options.protocol, options.transferFormat⟩

/-- A task that can hold `connect_operation`. -/
inductive Task where
  | start (i : ℕ)
  | close (i : ℕ)
  deriving DecidableEq, Repr

/-- The fields of `HubConnection` that calls do not touch; calls only read `state`. -/
structure Control where
  state : HubConnectionState
  connectionId : Option String
  /-- The connection a transport can be reopened for. -/
  resume : Option ℕ
  closing : Bool
  /-- The value of `stop_reconnect`. -/
  stopReconnect : Bool
  /-- How often the value of `stop_reconnect` was set. -/
  stopVersion : ℕ
  /-- The supervisor whose handle is stored. -/
  supervisor : Option ℕ
  connectionStarted : Bool
  /-- The rounds of closed callbacks, with their reasons. -/
  closedCallbacks : List (Option String)
  /-- The rounds of reconnecting callbacks, with their reasons. -/
  reconnectingCallbacks : List (Option String)
  /-- The rounds of reconnected callbacks, with the ids of the connections. -/
  reconnectedCallbacks : List (Option String)
  /-- Who holds `connect_operation`. -/
  connectOperation : Option Task
  remainingHandshakeData : Option HubProtocolInput
  initialMessages : List HubMessage

/-- `LifecycleCallbacks::invoke_closed`. -/
def Control.invokeClosed (c : Control) (reason : Option String) : Control :=
  if c.connectionStarted then
    { c with connectionStarted := false, closedCallbacks := c.closedCallbacks ++ [reason] }
  else c

/-- `invoke_closed` leaves the state alone. -/
@[simp] lemma Control.invokeClosed_state (c : Control) (reason : Option String) :
    (c.invokeClosed reason).state = c.state := by
  unfold invokeClosed
  split <;> rfl

/-- `invoke_closed` leaves `closing` alone. -/
@[simp] lemma Control.invokeClosed_closing (c : Control) (reason : Option String) :
    (c.invokeClosed reason).closing = c.closing := by
  unfold invokeClosed
  split <;> rfl

/-- `invoke_closed` leaves the lock alone. -/
@[simp] lemma Control.invokeClosed_connectOperation (c : Control) (reason : Option String) :
    (c.invokeClosed reason).connectOperation = c.connectOperation := by
  unfold invokeClosed
  split <;> rfl

/-- `invoke_closed` leaves `resume` alone. -/
@[simp] lemma Control.invokeClosed_resume (c : Control) (reason : Option String) :
    (c.invokeClosed reason).resume = c.resume := by
  unfold invokeClosed
  split <;> rfl

/-- `invoke_closed` leaves the connection id alone. -/
@[simp] lemma Control.invokeClosed_connectionId (c : Control) (reason : Option String) :
    (c.invokeClosed reason).connectionId = c.connectionId := by
  unfold invokeClosed
  split <;> rfl

/-- `invoke_closed` leaves the handle of the supervisor alone. -/
@[simp] lemma Control.invokeClosed_supervisor (c : Control) (reason : Option String) :
    (c.invokeClosed reason).supervisor = c.supervisor := by
  unfold invokeClosed
  split <;> rfl

/-! ## Calls -/

/-- `HubArgument`. What an upload stream yields is not known when the call is made. -/
inductive HubArgument where
  | value (value : Value)
  | stream

/-- `replace_streaming_params`, with the counter `next_id` reads: the remaining values, the ids of
the upload streams and the new counter. -/
def replaceStreamingParams : List HubArgument → ℕ → List Value × List String × ℕ
  | [], counter => ([], [], counter)
  | .value value :: rest, counter =>
    let r := replaceStreamingParams rest counter
    (value :: r.1, r.2.1, r.2.2)
  | .stream :: rest, counter =>
    let r := replaceStreamingParams rest (counter + 1)
    (r.1, toString (counter + 1) :: r.2.1, r.2.2)

/-- `UploadCommand`. -/
inductive UploadCommand where
  | item (streamId : String) (item : Value)
  | complete (streamId : String) (error : Option String)

/-- The stream a command is for. -/
def UploadCommand.streamId : UploadCommand → String
  | .item streamId _ => streamId
  | .complete streamId _ => streamId

/-- The message of a command. -/
def UploadCommand.message : UploadCommand → HubMessage
  | .item streamId value => .streamItem ⟨[], some streamId, value⟩
  | .complete streamId error => .completion ⟨[], streamId, error, none⟩

/-- The three ways to call the server. -/
inductive CallKind where
  | invoke
  | stream
  | send
  deriving DecidableEq, Repr

/-- Where a call is. -/
inductive CallPc where
  /-- `require_connected`. -/
  | checkConnected
  /-- `replace_streaming_params` under the runtime lock. -/
  | takeStreamIds
  /-- `next_invocation_id` under the runtime lock. -/
  | takeId
  /-- `register_pending` or `register_stream`. -/
  | register
  /-- `send_through`, up to the release of the runtime lock. -/
  | sendThrough
  /-- `send_through`, waiting for room in the buffer. -/
  | awaitRoom (buffer : ℕ)
  /-- `launch_upload_streams`. -/
  | launch
  /-- The send has failed: `remove_pending`. -/
  | cleanup (error : Error)
  /-- `response.await` of `invoke`. -/
  | awaitResponse
  | returned (error : Option Error)
  deriving DecidableEq, Repr

/-- Where a `HubMethodStream` is. -/
inductive HandlePc where
  /-- There is none. -/
  | none
  | live
  /-- `cancel` was called: `remove_pending`. -/
  | cancelling
  /-- `cancel` goes on to send `CancelInvocation`. -/
  | cancelRemoved
  /-- It was dropped, and the spawned task starts: `remove_pending`. -/
  | dropping
  /-- The spawned task goes on to send `CancelInvocation`. -/
  | dropRemoved
  | done
  deriving DecidableEq, Repr

/-- A call, with its stream handle and its upload task. -/
structure Call where
  kind : CallKind
  target : String
  arguments : List HubArgument
  pc : CallPc
  values : List Value
  streamIds : List String
  id : Option String
  /-- The connection whose runtime gave `id`. -/
  idConnection : Option ℕ
  /-- The connection whose runtime the invocation was sent through. -/
  sentOn : Option ℕ
  handle : HandlePc
  /-- The upload task runs. -/
  uploading : Bool
  /-- The upload streams that have not ended. -/
  producers : List String
  /-- The channel between the upload streams and the upload task. -/
  commands : List UploadCommand

namespace Call

/-- A call that has just been made. -/
def new (kind : CallKind) (target : String) (arguments : List HubArgument) : Call where
  kind := kind
  target := target
  arguments := arguments
  pc := .checkConnected
  values := []
  streamIds := []
  id := none
  idConnection := none
  sentOn := none
  handle := .none
  uploading := false
  producers := []
  commands := []

/-- The `stream_ids` of the message. -/
def streamIds? (c : Call) : Option (List String) :=
  if c.streamIds.isEmpty then none else some c.streamIds

/-- The message a call sends. -/
def message (c : Call) : HubMessage :=
  match c.kind with
  | .stream => .streamInvocation ⟨[], c.id.getD "", c.target, c.values, c.streamIds?⟩
  | .invoke | .send => .invocation ⟨[], c.id, c.target, .json c.values, c.streamIds?⟩

end Call

/-- What has happened so far. -/
structure Log where
  /-- The ids handed out, with the connections they were handed out on. -/
  issued : List (ℕ × String) := []
  /-- The invocations sent with an id, with their calls. -/
  invoked : List (String × ℕ) := []
  /-- The `Completion`s and `StreamItem`s delivered, with the calls that got them. -/
  delivered : List (String × ℕ) := []
  /-- The entries of the pending table that another registration has replaced. -/
  overwritten : List (String × PendingInvocation) := []
  /-- The entries removed by stream handles: the call of the handle and the one of the entry. -/
  removals : List (ℕ × ℕ) := []
  /-- The connections `CancelInvocation`s of stream handles were sent on. -/
  cancels : List (ℕ × ℕ) := []
  /-- The connections messages of upload tasks were sent on. -/
  uploads : List (ℕ × String × ℕ) := []

/-- The shared fields, the calls and the log. -/
structure Core where
  control : Control
  pending : PendingTable
  deliveries : List Delivery
  runtime : Option HubRuntime
  messageBuffer : Option ℕ
  /-- All buffers made so far. -/
  buffers : List MessageBuffer
  /-- `closed` of all transports made so far. -/
  transports : List Bool
  /-- How many server connections have been established. -/
  connections : ℕ
  calls : List Call
  log : Log

namespace Core

/-- A `HubConnection` that was never started. -/
def new : Core where
  control :=
    { state := .disconnected
      connectionId := none
      resume := none
      closing := false
      stopReconnect := false
      stopVersion := 0
      supervisor := none
      connectionStarted := false
      closedCallbacks := []
      reconnectingCallbacks := []
      reconnectedCallbacks := []
      connectOperation := none
      remainingHandshakeData := none
      initialMessages := [] }
  pending := []
  deliveries := []
  runtime := none
  messageBuffer := none
  buffers := []
  transports := []
  connections := 0
  calls := []
  log := {}

/-- Changes a call. -/
def setCall (c : Core) (i : ℕ) (call : Call) : Core := { c with calls := c.calls.set i call }

/-- `HubRuntime::send_with_backpressure`: the fields afterwards, and the result. -/
def runtimeSend (options : ConnectionOptions) (c : Core) (rt : HubRuntime) (message : HubMessage)
    (waiter : Waiter) (outcome : Except Error Unit) : Core × Except Error (Option Waiter) :=
  match rt.messageBuffer.bind fun b => c.buffers[b]?.map fun buffer => (b, buffer) with
  | none =>
    (c, (sendHubMessage options.protocol options.transferFormat (fun _ => outcome) message).2.map
      fun _ => none)
  | some (b, buffer) =>
    let o := buffer.send options.protocol options.transferFormat (fun _ => outcome) message waiter
    ({ c with buffers := c.buffers.set b o.buffer }, o.result)

/-- `WebSocketTransport::close` after its `queue.stop()`, which may never come back: marks the
transport closed; the sink closes with `outcome`, unless it was closed before. -/
def closeTransport (c : Core) (t : ℕ) (outcome : Except Error Unit) : Core × Except Error Unit :=
  ({ c with transports := c.transports.set t true },
    if c.transports[t]? = some true then .ok () else outcome)

/-- `HubRuntime::shutdown`; the `Close` message is written with outcome `write`. -/
def shutdown (options : ConnectionOptions) (c : Core) (rt : HubRuntime)
    (write outcome : Except Error Unit) : Core × Except Error Unit :=
  let r := c.runtimeSend options rt (.close ⟨none, none⟩) 0 write
  r.1.closeTransport rt.transport outcome

/-! ## What the life cycle does to the fields -/

end Core

/-- A step of `start`, `close` or the supervisor on the shared fields. -/
inductive Op where
  /-- A field of `Control` changes, or nothing does. -/
  | control (c : Control)
  /-- `cancel_all_pending`. -/
  | cancelAllPending (error : String)
  /-- A new runtime is stored. A reopened one replays its buffer, the `k`-th write of the replay
  having outcome `writes k`. -/
  | storeRuntime (connection transport : ℕ) (messageBuffer : Option ℕ)
    (writes : Option (ℕ → Except Error Unit))
  /-- The runtime is taken or cleared. -/
  | takeRuntime
  /-- `use_connection_buffer` stores a new buffer, or none. -/
  | storeBuffer (stateful : Bool)
  /-- `*message_buffer = None`. -/
  | clearBuffer
  /-- `MessageBuffer::disconnected`. -/
  | disconnectBuffer (b : ℕ)
  /-- `HubRuntime::shutdown`. -/
  | shutdownRuntime (rt : HubRuntime) (write outcome : Except Error Unit)
  /-- A transport is closed and the result is ignored. -/
  | closeTransport (t : ℕ)
  /-- A server connection is established over a new transport. -/
  | connect
  /-- A new transport is opened for an old connection. -/
  | reopen

/-- The operation awaits `WebSocketTransport::close`. -/
def Op.closesTransport : Op → Bool
  | .shutdownRuntime .. | .closeTransport _ => true
  | _ => false

/-- The result of `resend` on a buffer. -/
def resendResult (options : ConnectionOptions) (buffers : List MessageBuffer) (b : Option ℕ)
    (writes : ℕ → Except Error Unit) : Except Error Unit :=
  match b.bind fun b => buffers[b]? with
  | none => .ok ()
  | some buffer =>
    (buffer.resend options.protocol options.transferFormat fun k _ => writes k).result

namespace Core

/-- `HubRuntime::resend_buffered_messages`. -/
def resend (options : ConnectionOptions) (c : Core) (b : Option ℕ)
    (writes : ℕ → Except Error Unit) : Core :=
  match b.bind fun b => c.buffers[b]?.map fun buffer => (b, buffer) with
  | none => c
  | some (b, buffer) =>
    let o := buffer.resend options.protocol options.transferFormat fun k _ => writes k
    { c with buffers := c.buffers.set b o.buffer }

/-- The effect of an operation. A new runtime counts its invocation ids from the beginning. -/
def applyOp (options : ConnectionOptions) (c : Core) : Op → Core
  | .control control => { c with control := control }
  | .cancelAllPending error =>
    let r := c.pending.cancelAllPending error
    { c with pending := r.1, deliveries := c.deliveries ++ r.2 }
  | .storeRuntime connection transport messageBuffer writes =>
    let c := { c with runtime := some ⟨connection, transport, messageBuffer, 0⟩ }
    match writes with
    | none => c
    | some writes => c.resend options messageBuffer writes
  | .takeRuntime => { c with runtime := none }
  | .storeBuffer stateful =>
    if stateful then
      { c with
        messageBuffer := some c.buffers.length
        buffers := c.buffers ++ [.new options.statefulReconnectBufferSize] }
    else { c with messageBuffer := none }
  | .clearBuffer => { c with messageBuffer := none }
  | .disconnectBuffer b => { c with buffers := c.buffers.modify b MessageBuffer.disconnected }
  | .shutdownRuntime rt write outcome => (c.shutdown options rt write outcome).1
  | .closeTransport t => { c with transports := c.transports.set t true }
  | .connect =>
    { c with transports := c.transports ++ [false], connections := c.connections + 1 }
  | .reopen => { c with transports := c.transports ++ [false] }

/-! ## Steps of calls -/

/-- A step of a call that goes through the runtime lock needs a runtime. -/
def withRuntime (c : Core) (i : ℕ) (call : Call) (f : HubRuntime → Core) : Core :=
  match c.runtime with
  | none => c.setCall i { call with pc := .returned (some .notConnected) }
  | some rt => f rt

/-- `next_invocation_id` for the upload streams of the call. -/
def takeStreamIds (c : Core) (i : ℕ) (call : Call) : Core :=
  c.withRuntime i call fun rt =>
    let r := replaceStreamingParams call.arguments rt.invocationId
    let c := { c with
      runtime := some { rt with invocationId := r.2.2 }
      log := { c.log with issued := c.log.issued ++ r.2.1.map fun id => (rt.connection, id) } }
    c.setCall i { call with
      values := r.1
      streamIds := r.2.1
      pc := if call.kind = .send then .sendThrough else .takeId }

/-- `next_invocation_id` for the call. -/
def takeId (c : Core) (i : ℕ) (call : Call) : Core :=
  c.withRuntime i call fun rt =>
    let id := toString (rt.invocationId + 1)
    let c := { c with
      runtime := some { rt with invocationId := rt.invocationId + 1 }
      log := { c.log with issued := c.log.issued ++ [(rt.connection, id)] } }
    c.setCall i { call with
      id := some id
      idConnection := some rt.connection
      pc := .register }

/-- `register_pending` or `register_stream`; the latter is followed by the construction of the
handle. -/
def register (c : Core) (i : ℕ) (call : Call) (id : String) : Core :=
  let log := { c.log with
    overwritten := c.log.overwritten ++ c.pending.entries id }
  if call.kind = .stream then
    let c := { c with pending := c.pending.registerStream id i, log := log }
    c.setCall i { call with handle := .live, pc := .sendThrough }
  else
    let c := { c with pending := c.pending.registerPending id i, log := log }
    c.setCall i { call with pc := .sendThrough }

/-- Where a call goes on when its send has failed. -/
def failedPc (call : Call) (error : Error) : CallPc :=
  match call.id with
  | some _ => .cleanup error
  | none => .returned (some error)

/-- `send_through` up to the release of the runtime lock. -/
def sendThrough (options : ConnectionOptions) (c : Core) (i : ℕ) (call : Call)
    (outcome : Except Error Unit) : Core :=
  match c.runtime with
  | none => c.setCall i { call with pc := failedPc call .notConnected }
  | some rt =>
    let r := c.runtimeSend options rt call.message i outcome
    let c := { r.1 with log := { c.log with
      invoked := c.log.invoked ++ (call.id.map fun id => (id, i)).toList } }
    c.setCall i { call with
      sentOn := some rt.connection
      pc :=
        match r.2 with
        | .error error => failedPc call error
        | .ok none => .launch
        | .ok (some _) => .awaitRoom (rt.messageBuffer.getD 0) }

/-- `launch_upload_streams`, and the return of `send` and `stream`. -/
def launch (c : Core) (i : ℕ) (call : Call) : Core :=
  c.setCall i { call with
    uploading := !call.streamIds.isEmpty
    producers := call.streamIds
    pc := if call.kind = .invoke then .awaitResponse else .returned none }

/-- `remove_pending` after a failed send. A stream handle is dropped with the call. -/
def cleanup (c : Core) (i : ℕ) (call : Call) (error : Error) : Core :=
  let c := { c with pending := (c.pending.removePending (call.id.getD "")).1 }
  c.setCall i { call with
    handle := if call.handle = .live then .dropping else call.handle
    pc := .returned (some error) }

/-- The calls a buffer owes a signal, `backpressure` of its items. -/
def waiters (b : MessageBuffer) : List Waiter := b.messages.filterMap BufferedItem.backpressure

/-- One step of call `i`; `outcome` is the outcome of a write. -/
def callStep (options : ConnectionOptions) (c : Core) (i : ℕ) (call : Call)
    (outcome : Except Error Unit) : Option Core :=
  match call.pc with
  | .checkConnected =>
    some (c.setCall i { call with
      pc := if c.control.state = .connected then .takeStreamIds
        else .returned (some .notConnected) })
  | .takeStreamIds => some (c.takeStreamIds i call)
  | .takeId => some (c.takeId i call)
  | .register => call.id.map fun id => c.register i call id
  | .sendThrough => some (c.sendThrough options i call outcome)
  | .awaitRoom b =>
    -- an acknowledgement has made room
    if ∀ buffer ∈ c.buffers[b]?, i ∉ waiters buffer then
      some (c.setCall i { call with pc := .launch })
    else none
  | .launch => some (c.launch i call)
  | .cleanup error => some (c.cleanup i call error)
  | .awaitResponse =>
    -- a result has been sent, or the sender has been dropped
    if c.deliveries.any (fun d => d.tx = i) || c.pending.all (fun e => e.2.tx ≠ i) then
      some (c.setCall i { call with pc := .returned none })
    else none
  | .returned _ => none

/-- The buffer call `i` waits on has been dropped. -/
def roomDropped (c : Core) (i : ℕ) (call : Call) : Option Core :=
  match call.pc with
  | .awaitRoom _ => some (c.setCall i { call with pc := .launch })
  | _ => none

/-! ## Steps of handles and upload tasks -/

/-- `remove_pending` by the handle of call `i`; goes on at `removed` when there was an entry. -/
def handleRemove (c : Core) (i : ℕ) (call : Call) (removed missing : HandlePc) : Core :=
  let id := call.id.getD ""
  let r := c.pending.removePending id
  let removals := (c.pending.entries id).map fun e => (i, e.2.tx)
  let c := { c with
    pending := r.1
    log := { c.log with removals := c.log.removals ++ removals } }
  c.setCall i { call with handle := if r.2 then removed else missing }

/-- `CancelInvocation` by the handle of call `i`, when there is a runtime. -/
def handleSend (options : ConnectionOptions) (c : Core) (i : ℕ) (call : Call) (sent : HandlePc)
    (outcome : Except Error Unit) : Core :=
  match c.runtime with
  | none => c.setCall i { call with handle := sent }
  | some rt =>
    let r := c.runtimeSend options rt (.cancelInvocation ⟨[], call.id.getD ""⟩) i outcome
    let c := { r.1 with log := { c.log with cancels := c.log.cancels ++ [(i, rt.connection)] } }
    c.setCall i { call with handle := sent }

/-- One step of the handle of call `i`. `cancel` consumes the handle, so it is dropped at the
end. -/
def handleStep (options : ConnectionOptions) (c : Core) (i : ℕ) (call : Call)
    (outcome : Except Error Unit) : Option Core :=
  match call.handle with
  | .cancelling => some (c.handleRemove i call .cancelRemoved .dropping)
  | .cancelRemoved => some (c.handleSend options i call .dropping outcome)
  | .dropping => some (c.handleRemove i call .dropRemoved .done)
  | .dropRemoved => some (c.handleSend options i call .done outcome)
  | .none | .live | .done => none

/-- The producer of an upload stream gets the next item, an error or the end of the stream. -/
def produce (c : Core) (i : ℕ) (call : Call) (streamId : String)
    (item : Option (Except String Value)) : Option Core :=
  if streamId ∈ call.producers then
    some (c.setCall i
      (match item with
      | some (.ok value) => { call with commands := call.commands ++ [.item streamId value] }
      | some (.error error) =>
        { call with
          commands := call.commands ++ [.complete streamId (some error)]
          producers := call.producers.erase streamId }
      | none =>
        { call with
          commands := call.commands ++ [.complete streamId none]
          producers := call.producers.erase streamId }))
  else none

/-- The upload task of call `i` takes a command and sends its message through the runtime of that
moment; it ends without a runtime, on a failed send, and when all streams have ended. -/
def uploadStep (options : ConnectionOptions) (c : Core) (i : ℕ) (call : Call)
    (outcome : Except Error Unit) : Option Core :=
  if call.uploading then
    match call.commands with
    | [] =>
      if call.producers = [] then some (c.setCall i { call with uploading := false }) else none
    | command :: rest =>
      match c.runtime with
      | none => some (c.setCall i { call with uploading := false, commands := rest })
      | some rt =>
        let r := c.runtimeSend options rt command.message i outcome
        let c := { r.1 with log := { c.log with
          uploads := c.log.uploads ++ [(i, command.streamId, rt.connection)] } }
        some (c.setCall i { call with
          commands := rest
          uploading :=
            match r.2 with
            | .ok _ => true
            | .error _ => false })
  else none

/-! ## Received messages -/

/-- The id of the call a message answers. -/
def answerId? : HubMessage → Option String
  | .completion message => some message.invocationId
  | .streamItem message => message.invocationId
  | _ => none

/-- A receive task dispatches a message; `b` is the buffer of its runtime. Handlers and what is
written to the transport are left to `DispatchContext.dispatch`. -/
def receive (options : ConnectionOptions) (c : Core) (b : Option ℕ) (message : HubMessage)
    (outcome : Except Error Unit) : Core :=
  let ctx : DispatchContext Unit :=
    { DispatchContext.init (b.bind fun b => c.buffers[b]?) with pending := c.pending }
  let ctx := (ctx.dispatch options.dispatch message (fun _ _ => .ok none) outcome).1
  { c with
    pending := ctx.pending
    deliveries := c.deliveries ++ ctx.deliveries
    buffers :=
      match b, ctx.messageBuffer with
      | some b, some buffer => c.buffers.set b buffer
      | _, _ => c.buffers
    log := { c.log with delivered := c.log.delivered ++
      (answerId? message).toList.flatMap fun id => ctx.deliveries.map fun d => (id, d.tx) } }

end Core

/-- A step on the shared fields. -/
inductive CoreAction where
  /-- A step of `start`, `close` or the supervisor. -/
  | op (op : Op)
  /-- A call is made. -/
  | newCall (kind : CallKind) (target : String) (arguments : List HubArgument)
  /-- A step of a call. -/
  | call (i : ℕ) (outcome : Except Error Unit)
  /-- The buffer a call waits on has been dropped. -/
  | roomDropped (i : ℕ)
  /-- `cancel` is called on the handle of a call. -/
  | cancelHandle (i : ℕ)
  /-- The handle of a call is dropped. -/
  | dropHandle (i : ℕ)
  /-- A step of the handle of a call. -/
  | handle (i : ℕ) (outcome : Except Error Unit)
  /-- A step of an upload stream of a call. -/
  | produce (i : ℕ) (streamId : String) (item : Option (Except String Value))
  /-- A step of the upload task of a call. -/
  | upload (i : ℕ) (outcome : Except Error Unit)
  /-- A receive task dispatches a message. -/
  | receive (b : Option ℕ) (message : HubMessage) (outcome : Except Error Unit)
  /-- `cancel_stream` removes an entry. -/
  | cancelStream (id : String)

namespace Core

/-- One step. -/
def next (options : ConnectionOptions) (c : Core) : CoreAction → Option Core
  | .op op => some (c.applyOp options op)
  | .newCall kind target arguments =>
    some { c with calls := c.calls ++ [.new kind target arguments] }
  | .call i outcome => c.calls[i]?.bind fun call => c.callStep options i call outcome
  | .roomDropped i => c.calls[i]?.bind fun call => c.roomDropped i call
  | .cancelHandle i =>
    c.calls[i]?.bind fun call =>
      if call.handle = .live ∧ call.pc = .returned none then
        some (c.setCall i { call with handle := .cancelling })
      else none
  | .dropHandle i =>
    c.calls[i]?.bind fun call =>
      if call.handle = .live ∧ call.pc = .returned none then
        some (c.setCall i { call with handle := .dropping })
      else none
  | .handle i outcome => c.calls[i]?.bind fun call => c.handleStep options i call outcome
  | .produce i streamId item => c.calls[i]?.bind fun call => c.produce i call streamId item
  | .upload i outcome => c.calls[i]?.bind fun call => c.uploadStep options i call outcome
  | .receive b message outcome => some (c.receive options b message outcome)
  | .cancelStream id =>
    some { c with pending := (c.pending.removePending id).1 }

end Core

end Signalrr.HubConnection
