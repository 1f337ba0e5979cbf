import Signalrr.Automata.System
import Signalrr.HubConnection.Core

set_option relaxedAutoImplicit false
set_option autoImplicit false

/-!
# Start, close and the supervisor

The tasks of `src/hub_connection/mod.rs` that establish, replace and end connections. Each of them
is a program counter; one step of a task takes a lock or reads an atomic, does what the source does
under it, and moves on. Tasks interleave with each other and with the calls of `Core` in any order.

## Main definitions

* `Signalrr.HubConnection.ShutdownPc`, `StartPc`, `ClosePc`, `SupervisorPc` — where
  `shutdown_active_connection`, `start`, `close` and a supervisor are.
* `Signalrr.HubConnection.World` — the shared fields and the tasks.
* `Signalrr.HubConnection.World.next`, `Signalrr.HubConnection.World.system` — one step, and the
  runs of a hub connection.
* `Signalrr.HubConnection.World.Step` — everything that can happen, one constructor for each kind of
  task.

## Main results

* `Signalrr.HubConnection.World.step_of_next` — every step is a `Step`.
* `Signalrr.HubConnection.World.core_of_next` — every step is a step on the shared fields, or
  leaves them alone.
* `Signalrr.HubConnection.World.core_invariant` — invariants of the shared fields hold along runs.

## Design

What comes from outside is part of the action, in `Env`: outcomes of network operations, elapsed
times, and events of the transport.

`watch::Sender::send` has no effect while there is no receiver. The receivers of `stop_reconnect`
are the supervisors that have not ended and the `start` that is in `connect_runtime`.

A task that awaits something takes its step when that comes back, and may wait for ever: a step is
never forced. In particular `WebSocketTransport::close` awaits `queue.stop()`, so a step that closes
a transport is only taken when `Env.stops` says that the queue has stopped.

An aborted supervisor goes on until it is suspended. It is certainly suspended where it waits for
an event, a delay or the network; at a lock it may go on or end.
-/

namespace Signalrr.HubConnection

open Hub

/-- What `Connection::connect` has found out. -/
structure ConnectReply where
  connectionId : Option String
  /-- The server agreed to stateful reconnect, so there is a target to resume. -/
  stateful : Bool
  remainingHandshakeData : Option HubProtocolInput
  initialMessages : List HubMessage

/-- An established connection that has no runtime yet. -/
structure NewConnection where
  connection : ℕ
  transport : ℕ
  reply : ConnectReply

/-- What a step gets from outside. -/
structure Env where
  /-- The outcome of a write, or of closing the sink of a transport. -/
  outcome : Except Error Unit := .ok ()
  /-- The outcome of writing the `Close` message of a shutdown. -/
  write : Except Error Unit := .ok ()
  /-- The outcomes of the writes of a replay. -/
  writes : ℕ → Except Error Unit := fun _ => .ok ()
  /-- The outcome of `Connection::connect`. -/
  connected : Except Error ConnectReply := .ok ⟨none, false, none, []⟩
  /-- The outcome of `ResumeTarget::reopen`. -/
  reopened : Except Error Unit := .ok ()
  /-- The time since the connection was lost. -/
  elapsed : ℕ := 0
  /-- `select!` takes the branch of `stop_reconnect`. -/
  stop : Bool := false
  /-- The event of the transport, `none` when its channel is closed. -/
  event : Option TransportCloseInfo := none
  /-- `queue.stop()` of a transport that is closed comes back: the worker of its queue ends. -/
  stops : Bool := true

/-! ## Supervisors -/

/-- The variables of the reconnect loop. -/
structure Retry where
  attempt : ℕ
  retryReason : String
  closeReason : Option String
  deriving DecidableEq, Repr

/-- Where a supervisor is. -/
inductive SupervisorPc where
  /-- In `select!`. -/
  | select
  | checkClosing (info : TransportCloseInfo)
  | readResume (info : TransportCloseInfo)
  | readBuffer (info : TransportCloseInfo) (target : Option ℕ)
  /-- `resume_transport`: `buffer.disconnected()`. -/
  | resumeDisconnect (info : TransportCloseInfo) (target b : ℕ)
  /-- `resume_transport`: `abort_without_close` on the current runtime. -/
  | resumeAbort (info : TransportCloseInfo) (target b : ℕ)
  /-- `resume_transport`: `target.reopen`. -/
  | reopen (info : TransportCloseInfo) (target b : ℕ)
  /-- `resume_transport`: `HubRuntime::start`. -/
  | resumeStart (info : TransportCloseInfo) (target b transport : ℕ)
  /-- `resume_transport`: the reopened runtime is stored and replays the buffer. -/
  | resumeStore (info : TransportCloseInfo) (target b transport : ℕ)
  | cancelAll (info : TransportCloseInfo)
  /-- There is no policy, or the server forbids to reconnect: `state = Disconnected`. -/
  | setDisconnected (reason : Option String)
  /-- The policy has no delay, or no further one: `state = Disconnected`. -/
  | giveUp (reason : String)
  | invokeClosed (reason : Option String)
  | disconnectBuffer (info : TransportCloseInfo)
  | takeRuntime (info : TransportCloseInfo)
  | abortRuntime (info : TransportCloseInfo) (transport : ℕ)
  /-- The first `next_retry_delay`. -/
  | firstDelay (info : TransportCloseInfo)
  | setReconnecting (retry : Retry)
  | invokeReconnecting (retry : Retry)
  | recheckClosing (retry : Retry)
  | recheckState (retry : Retry)
  | sleep (retry : Retry)
  | loopClosing (retry : Retry)
  | loopStop (retry : Retry)
  | loopState (retry : Retry)
  /-- `reconnect_once`: `Connection::connect`. -/
  | connect (retry : Retry)
  /-- `reconnect_once`: `connection_id`. -/
  | setConnectionId (retry : Retry) (n : NewConnection)
  /-- `use_connection_buffer`: `message_buffer`. -/
  | storeBuffer (retry : Retry) (n : NewConnection)
  /-- `use_connection_buffer`: `resume`. -/
  | setResume (retry : Retry) (n : NewConnection)
  /-- `reconnect_once`: `HubRuntime::start`. -/
  | startRuntime (retry : Retry) (n : NewConnection)
  /-- `reconnect_once`: `send_initial_ping`. -/
  | ping (retry : Retry) (n : NewConnection) (b : Option ℕ)
  /-- `reconnect_once`: the runtime is stored. -/
  | storeRuntime (retry : Retry) (n : NewConnection) (b : Option ℕ)
  | setConnected (n : NewConnection)
  | readConnectionId
  | invokeReconnected (connectionId : Option String)
  /-- `next_retry_delay` in the loop. -/
  | nextDelay (retry : Retry)
  | ended

/-- A supervisor. -/
structure Supervisor where
  pc : SupervisorPc
  /-- The connection whose events it gets. -/
  connection : ℕ
  /-- The version of `stop_reconnect` it has seen. -/
  stopSeen : ℕ
  aborted : Bool
  /-- The connections whose waiting calls it has cancelled. -/
  cancelled : List ℕ
  /-- The connections whose loss it has finished handling without resuming them. -/
  finished : List ℕ

/-- Whether an aborted supervisor can still be running at this place: it is not where the task is
certainly suspended. -/
def SupervisorPc.mayRun : SupervisorPc → Bool
  | select | reopen .. | sleep .. | connect .. | ended => false
  | _ => true

/-- `HubRuntime::start` can serialize its ping. -/
def startsRuntime (options : ConnectionOptions) : Except Error Unit :=
  (serialize options.protocol .ping).map fun _ => ()

/-- The result of `send_initial_ping`. -/
def initialPing (options : ConnectionOptions) (outcome : Except Error Unit) : Except Error Unit :=
  (sendHubMessage options.protocol options.transferFormat (fun _ => outcome) .ping).2

/-- The runtime of a new connection. -/
def NewConnection.runtime (n : NewConnection) (b : Option ℕ) : HubRuntime :=
  ⟨n.connection, n.transport, b, 0⟩

/-- The effect of a step of a task besides its new place. -/
structure Effect where
  op : Op
  /-- The supervisor whose task is aborted. -/
  abort : Option ℕ := none
  /-- A supervisor is spawned for the events of this connection. -/
  spawn : Option ℕ := none
  /-- `close_notify.notify_waiters()`. -/
  notify : Bool := false

/-- A step that only moves on. -/
def Effect.skip (c : Core) : Effect := { op := .control c.control }

/-- A step that changes a field of `Control`. -/
def Effect.control (c : Control) : Effect := { op := .control c }

namespace Supervisor

/-- The place after a failed attempt to reconnect. -/
def failed (s : Supervisor) (retry : Retry) (error : Error) : Supervisor :=
  { s with pc := .nextDelay { retry with retryReason := error.toText } }

/-- What a supervisor does after it has cancelled the waiting calls. -/
def afterCancel (options : ConnectionOptions) (info : TransportCloseInfo) : SupervisorPc :=
  if options.reconnectPolicy.isNone || info.allowReconnect = some false then
    .setDisconnected info.error
  else .disconnectBuffer info

/-- `next_retry_delay` of the policy. -/
def delay (options : ConnectionOptions) (context : RetryContext) : Option ℕ :=
  options.reconnectPolicy.bind fun policy => policy context

/-- One step of a supervisor. -/
def step (options : ConnectionOptions) (c : Core) (s : Supervisor) (env : Env) :
    Option (Effect × Supervisor) :=
  let goto (pc : SupervisorPc) : Option (Effect × Supervisor) :=
    some (.skip c, { s with pc := pc })
  let run (op : Op) (pc : SupervisorPc) : Option (Effect × Supervisor) :=
    some ({ op := op }, { s with pc := pc })
  let set (control : Control) (pc : SupervisorPc) : Option (Effect × Supervisor) :=
    run (.control control) pc
  match s.pc with
  | .select =>
    if env.stop then
      if s.stopSeen = c.control.stopVersion then none
      else some (.skip c, { s with
        stopSeen := c.control.stopVersion
        pc := if c.control.stopReconnect then .ended else .select })
    else
      match env.event with
      | none => goto .ended
      | some info => goto (.checkClosing info)
  | .checkClosing info => goto (if c.control.closing then .ended else .readResume info)
  | .readResume info => goto (.readBuffer info c.control.resume)
  | .readBuffer info target =>
    goto (match info.transportDropped, target, c.messageBuffer with
      | true, some target, some b => .resumeDisconnect info target b
      | _, _, _ => .cancelAll info)
  | .resumeDisconnect info target b => run (.disconnectBuffer b) (.resumeAbort info target b)
  | .resumeAbort info target b =>
    match c.runtime with
    | none => goto (.reopen info target b)
    | some rt => run (.closeTransport rt.transport) (.reopen info target b)
  | .reopen info target b =>
    match env.reopened with
    | .error _ => goto (.cancelAll info)
    | .ok () => run .reopen (.resumeStart info target b c.transports.length)
  | .resumeStart info target b transport =>
    goto (match startsRuntime options with
      | .error _ => .cancelAll info
      | .ok () => .resumeStore info target b transport)
  | .resumeStore info target b transport =>
    some ({ op := .storeRuntime target transport (some b) (some env.writes) },
      match resendResult options c.buffers (some b) env.writes with
      | .error _ => { s with pc := .cancelAll info }
      | .ok () => { s with pc := .select, connection := target })
  | .cancelAll info =>
    some ({ op := .cancelAllPending (info.error.getD invocationCanceledMessage) },
      { s with pc := afterCancel options info, cancelled := s.cancelled ++ [s.connection] })
  | .setDisconnected reason =>
    some (.control { c.control with state := .disconnected },
      { s with pc := .invokeClosed reason, finished := s.finished ++ [s.connection] })
  | .giveUp reason =>
    some (.control { c.control with state := .disconnected },
      { s with pc := .invokeClosed (some reason), finished := s.finished ++ [s.connection] })
  | .invokeClosed reason => set (c.control.invokeClosed reason) .ended
  | .disconnectBuffer info =>
    match c.messageBuffer with
    | none => goto (.takeRuntime info)
    | some b => run (.disconnectBuffer b) (.takeRuntime info)
  | .takeRuntime info =>
    match c.runtime with
    | none => goto (.firstDelay info)
    | some rt => run .takeRuntime (.abortRuntime info rt.transport)
  | .abortRuntime info transport => run (.closeTransport transport) (.firstDelay info)
  | .firstDelay info =>
    let reason := info.error.getD "connection closed"
    goto (match delay options ⟨env.elapsed, 0, reason⟩ with
      | none => .giveUp reason
      | some _ => .setReconnecting ⟨0, reason, info.error⟩)
  | .setReconnecting retry =>
    set { c.control with state := .reconnecting } (.invokeReconnecting retry)
  | .invokeReconnecting retry =>
    set { c.control with
      reconnectingCallbacks := c.control.reconnectingCallbacks ++ [retry.closeReason] }
      (.recheckClosing retry)
  | .recheckClosing retry => goto (if c.control.closing then .ended else .recheckState retry)
  | .recheckState retry =>
    goto (if c.control.state = .reconnecting then .sleep { retry with attempt := retry.attempt + 1 }
      else .ended)
  | .sleep retry => goto (.loopClosing retry)
  | .loopClosing retry => goto (if c.control.closing then .select else .loopStop retry)
  | .loopStop retry => goto (if c.control.stopReconnect then .select else .loopState retry)
  | .loopState retry =>
    goto (if c.control.state = .reconnecting then .connect retry else .select)
  | .connect retry =>
    match env.connected with
    | .error error => some (.skip c, s.failed retry error)
    | .ok reply => run .connect (.setConnectionId retry ⟨c.connections, c.transports.length, reply⟩)
  | .setConnectionId retry n =>
    set { c.control with connectionId := n.reply.connectionId } (.storeBuffer retry n)
  | .storeBuffer retry n => run (.storeBuffer n.reply.stateful) (.setResume retry n)
  | .setResume retry n =>
    set { c.control with resume := if n.reply.stateful then some n.connection else none }
      (.startRuntime retry n)
  | .startRuntime retry n =>
    match startsRuntime options with
    | .error error => some ({ op := .closeTransport n.transport }, s.failed retry error)
    | .ok () => goto (.ping retry n c.messageBuffer)
  | .ping retry n b =>
    match initialPing options env.outcome with
    | .error error =>
      some ({ op := .shutdownRuntime (n.runtime b) env.write env.outcome }, s.failed retry error)
    | .ok () => goto (.storeRuntime retry n b)
  | .storeRuntime _ n b =>
    some ({ op := .storeRuntime n.connection n.transport b none },
      { s with pc := .setConnected n, finished := s.finished ++ [s.connection] })
  | .setConnected n =>
    some (.control { c.control with state := .connected },
      { s with pc := .readConnectionId, connection := n.connection })
  | .readConnectionId => goto (.invokeReconnected c.control.connectionId)
  | .invokeReconnected id =>
    set { c.control with reconnectedCallbacks := c.control.reconnectedCallbacks ++ [id] } .select
  | .nextDelay retry =>
    goto (match delay options ⟨env.elapsed, retry.attempt, retry.retryReason⟩ with
      | none => .giveUp retry.retryReason
      | some _ => .sleep { retry with attempt := retry.attempt + 1 })
  | .ended => none

end Supervisor

/-! ## Closing -/

/-- Where `shutdown_active_connection` is. -/
inductive ShutdownPc where
  | abortSupervisor
  | dispose
  | cancelAll
  | takeRuntime
  /-- `runtime.shutdown()`. -/
  | closeRuntime (rt : HubRuntime)
  | clearBuffer
  | clearResume
  | clearConnectionId
  | clearHandshakeData
  | clearInitialMessages
  | setDisconnected
  | invokeClosed
  | notify
  | returned (result : Except Error Unit)

/-- One step of `shutdown_active_connection`, with `close_reason = None`. -/
def ShutdownPc.step (options : ConnectionOptions) (c : Core) (env : Env) :
    ShutdownPc → Option (Effect × ShutdownPc)
  | abortSupervisor =>
    some ({ op := .control { c.control with supervisor := none }, abort := c.control.supervisor },
      dispose)
  | dispose => some (.skip c, cancelAll)
  | cancelAll => some ({ op := .cancelAllPending invocationCanceledMessage }, takeRuntime)
  | takeRuntime =>
    some ({ op := .takeRuntime }, match c.runtime with
      | none => clearBuffer
      | some rt => closeRuntime rt)
  | closeRuntime rt =>
    some ({ op := .shutdownRuntime rt env.write env.outcome },
      match (c.shutdown options rt env.write env.outcome).2 with
      | .error error => returned (.error error)
      | .ok () => clearBuffer)
  | clearBuffer => some ({ op := .clearBuffer }, clearResume)
  | clearResume => some (.control { c.control with resume := none }, clearConnectionId)
  | clearConnectionId =>
    some (.control { c.control with connectionId := none }, clearHandshakeData)
  | clearHandshakeData =>
    some (.control { c.control with remainingHandshakeData := none }, clearInitialMessages)
  | clearInitialMessages =>
    some (.control { c.control with initialMessages := [] }, setDisconnected)
  | setDisconnected => some (.control { c.control with state := .disconnected }, invokeClosed)
  | invokeClosed => some (.control (c.control.invokeClosed none), notify)
  | notify => some ({ op := .control c.control, notify := true }, returned (.ok ()))
  | returned _ => none

/-- Where a call of `close` is. -/
inductive ClosePc where
  | readState
  /-- `close_notify.notified()`. -/
  | register
  /-- Registered on `close_notify`. -/
  | waiting
  /-- Notified. -/
  | notified
  | setDisconnecting
  | setClosing
  | sendStop
  | lock
  | shutdown (pc : ShutdownPc)
  | unlock (result : Except Error Unit)
  | returned (result : Except Error Unit)

/-- `stop_reconnect.send(value)`. -/
def Control.sendStop (c : Control) (receivers : Bool) (value : Bool) : Control :=
  if receivers then { c with stopReconnect := value, stopVersion := c.stopVersion + 1 } else c

/-- `stop_reconnect.send` leaves the state alone. -/
@[simp] lemma Control.sendStop_state (c : Control) (receivers value : Bool) :
    (c.sendStop receivers value).state = c.state := by
  unfold sendStop
  split <;> rfl

/-- `stop_reconnect.send` leaves `closing` alone. -/
@[simp] lemma Control.sendStop_closing (c : Control) (receivers value : Bool) :
    (c.sendStop receivers value).closing = c.closing := by
  unfold sendStop
  split <;> rfl

/-- `stop_reconnect.send` leaves the lock alone. -/
@[simp] lemma Control.sendStop_connectOperation (c : Control) (receivers value : Bool) :
    (c.sendStop receivers value).connectOperation = c.connectOperation := by
  unfold sendStop
  split <;> rfl

/-- `stop_reconnect.send` leaves the handle of the supervisor alone. -/
@[simp] lemma Control.sendStop_supervisor (c : Control) (receivers value : Bool) :
    (c.sendStop receivers value).supervisor = c.supervisor := by
  unfold sendStop
  split <;> rfl

/-- One step of call `i` of `close`; `receivers` tells whether `stop_reconnect` has any. -/
def ClosePc.step (options : ConnectionOptions) (c : Core) (receivers : Bool) (i : ℕ) (env : Env) :
    ClosePc → Option (Effect × ClosePc)
  | readState =>
    some (.skip c, match c.control.state with
      | .disconnected => returned (.ok ())
      | .disconnecting => register
      | _ => setDisconnecting)
  | register => some (.skip c, waiting)
  | waiting => none
  | notified => some (.skip c, returned (.ok ()))
  | setDisconnecting => some (.control { c.control with state := .disconnecting }, setClosing)
  | setClosing => some (.control { c.control with closing := true }, sendStop)
  | sendStop => some (.control (c.control.sendStop receivers true), lock)
  | lock =>
    if c.control.connectOperation = none then
      some (.control { c.control with connectOperation := some (.close i) },
        shutdown .abortSupervisor)
    else none
  | shutdown (.returned result) => some (.skip c, unlock result)
  | shutdown pc => (pc.step options c env).map fun r => (r.1, shutdown r.2)
  | unlock result =>
    some (.control { c.control with connectOperation := none }, returned result)
  | returned _ => none

/-! ## Starting -/

/-- Where a call of `start` is. -/
inductive StartPc where
  | readState
  | setConnecting
  | clearClosing
  | sendStop
  | lock
  | checkClosing
  /-- Closed before it connects: `state = Disconnected`. -/
  | stopped
  /-- `connect_runtime`: `stop_reconnect.subscribe()` and the first poll of `select!`. -/
  | subscribe
  /-- `connect_runtime`: `Connection::connect`, or a stop. -/
  | connect
  | setConnectionId (n : NewConnection)
  | storeBuffer (n : NewConnection)
  | setResume (n : NewConnection)
  | setHandshakeData (n : NewConnection)
  | setInitialMessages (n : NewConnection)
  | startRuntime (n : NewConnection)
  | ping (n : NewConnection) (b : Option ℕ)
  | storeRuntime (n : NewConnection) (b : Option ℕ)
  | recheckClosing (n : NewConnection)
  | shutdown (pc : ShutdownPc)
  | setConnected (n : NewConnection)
  | markStarted (n : NewConnection)
  | abortSupervisor (n : NewConnection)
  /-- The new supervisor is spawned. -/
  | spawn (n : NewConnection)
  /-- The handle of the new supervisor is stored. -/
  | storeSupervisor (k : ℕ)
  /-- The error branch: `runtime = None`. -/
  | failRuntime (error : Error)
  | failConnectionId (error : Error)
  | failHandshakeData (error : Error)
  | failInitialMessages (error : Error)
  | failState (error : Error)
  | unlock (result : Except Error Unit)
  | returned (result : Except Error Unit)

/-- `connect_runtime` has subscribed to `stop_reconnect` and has not returned. -/
def StartPc.subscribed : StartPc → Bool
  | connect | setConnectionId _ | storeBuffer _ | setResume _ | setHandshakeData _
  | setInitialMessages _ | startRuntime _ | ping .. | storeRuntime .. => true
  | _ => false

/-- `Error::Aborted` of a start that is stopped. -/
def stoppedDuringStart : Error := .aborted "connection stopped during start"

/-- One step of call `i` of `start`; `supervisors` is how many supervisors have been spawned. -/
def StartPc.step (options : ConnectionOptions) (c : Core) (receivers : Bool) (supervisors : ℕ)
    (i : ℕ) (env : Env) : StartPc → Option (Effect × StartPc)
  | readState =>
    some (.skip c, if c.control.state = .disconnected then setConnecting
      else returned (.error (.invalidState
        ("cannot start a HubConnection in the '" ++ c.control.state.toText ++ "' state"))))
  | setConnecting => some (.control { c.control with state := .connecting }, clearClosing)
  | clearClosing => some (.control { c.control with closing := false }, sendStop)
  | sendStop => some (.control (c.control.sendStop receivers false), lock)
  | lock =>
    if c.control.connectOperation = none then
      some (.control { c.control with connectOperation := some (.start i) }, checkClosing)
    else none
  | checkClosing => some (.skip c, if c.control.closing then stopped else subscribe)
  | stopped =>
    some (.control { c.control with state := .disconnected }, unlock (.error stoppedDuringStart))
  | subscribe =>
    some (.skip c, if c.control.stopReconnect then failRuntime stoppedDuringStart else connect)
  | connect =>
    if env.stop then
      if c.control.stopReconnect then some (.skip c, failRuntime stoppedDuringStart) else none
    else
      match env.connected with
      | .error error => some (.skip c, failRuntime error)
      | .ok reply =>
        some ({ op := .connect }, setConnectionId ⟨c.connections, c.transports.length, reply⟩)
  | setConnectionId n =>
    some (.control { c.control with connectionId := n.reply.connectionId }, storeBuffer n)
  | storeBuffer n => some ({ op := .storeBuffer n.reply.stateful }, setResume n)
  | setResume n =>
    some (.control { c.control with
      resume := if n.reply.stateful then some n.connection else none }, setHandshakeData n)
  | setHandshakeData n =>
    some (.control { c.control with
      remainingHandshakeData := n.reply.remainingHandshakeData }, setInitialMessages n)
  | setInitialMessages n =>
    some (.control { c.control with initialMessages := n.reply.initialMessages }, startRuntime n)
  | startRuntime n =>
    match startsRuntime options with
    | .error error => some ({ op := .closeTransport n.transport }, failRuntime error)
    | .ok () => some (.skip c, ping n c.messageBuffer)
  | ping n b =>
    match initialPing options env.outcome with
    | .error error =>
      some ({ op := .shutdownRuntime (n.runtime b) env.write env.outcome }, failRuntime error)
    | .ok () => some (.skip c, storeRuntime n b)
  | storeRuntime n b =>
    some ({ op := .storeRuntime n.connection n.transport b none }, recheckClosing n)
  | recheckClosing n =>
    some (.skip c, if c.control.closing then shutdown .abortSupervisor else setConnected n)
  | shutdown (.returned result) =>
    some (.skip c, unlock (match result with
      | .error error => .error error
      | .ok () => .error stoppedDuringStart))
  | shutdown pc => (pc.step options c env).map fun r => (r.1, shutdown r.2)
  | setConnected n => some (.control { c.control with state := .connected }, markStarted n)
  | markStarted n => some (.control { c.control with connectionStarted := true }, abortSupervisor n)
  | abortSupervisor n =>
    some ({ op := .control { c.control with supervisor := none }, abort := c.control.supervisor },
      spawn n)
  | spawn n =>
    some ({ op := .control c.control, spawn := some n.connection }, storeSupervisor supervisors)
  | storeSupervisor k =>
    some (.control { c.control with supervisor := some k }, unlock (.ok ()))
  | failRuntime error => some ({ op := .takeRuntime }, failConnectionId error)
  | failConnectionId error =>
    some (.control { c.control with connectionId := none }, failHandshakeData error)
  | failHandshakeData error =>
    some (.control { c.control with remainingHandshakeData := none }, failInitialMessages error)
  | failInitialMessages error =>
    some (.control { c.control with initialMessages := [] }, failState error)
  | failState error =>
    some (.control { c.control with state := .disconnected }, unlock (.error error))
  | unlock result =>
    some (.control { c.control with connectOperation := none }, returned result)
  | returned _ => none

/-! ## The connection with its tasks -/

/-- A hub connection with its tasks. -/
structure World where
  core : Core
  starts : List StartPc
  closes : List ClosePc
  supervisors : List Supervisor

/-- A step of a hub connection. -/
inductive Action where
  /-- `start` is called. -/
  | newStart
  /-- `close` is called. -/
  | newClose
  | start (i : ℕ) (env : Env)
  | close (i : ℕ) (env : Env)
  | supervisor (k : ℕ) (env : Env)
  /-- The abort of a supervisor takes effect. -/
  | supervisorEnds (k : ℕ)
  /-- A step of a call, of a handle, of an upload task or of a receive task. -/
  | core (a : CoreAction)

namespace World

/-- `stop_reconnect` has a receiver. -/
def receivers (w : World) : Bool :=
  (w.supervisors.any fun s => match s.pc with
    | .ended => false
    | _ => true) ||
  w.starts.any StartPc.subscribed

/-- The buffers a supervisor refers to itself. -/
def ownedBySupervisor : SupervisorPc → Option ℕ
  | .resumeDisconnect _ _ b | .resumeAbort _ _ b | .reopen _ _ b | .resumeStart _ _ b _
  | .resumeStore _ _ b _ => some b
  | .ping _ _ b | .storeRuntime _ _ b => b
  | _ => none

/-- The buffers a shutdown refers to itself. -/
def ownedByShutdown : ShutdownPc → Option ℕ
  | .closeRuntime rt => rt.messageBuffer
  | _ => none

/-- The buffers a start refers to itself. -/
def ownedByStart : StartPc → Option ℕ
  | .ping _ b | .storeRuntime _ b => b
  | .shutdown pc => ownedByShutdown pc
  | _ => none

/-- The buffers a close refers to itself. -/
def ownedByClose : ClosePc → Option ℕ
  | .shutdown pc => ownedByShutdown pc
  | _ => none

/-- The references to buffers: those of the fields, and those of the tasks. The reference in the
`DispatchContext` of a receive task is the one of its runtime, with which the task ends. -/
def owners (w : World) : List (Option ℕ) :=
  w.core.messageBuffer :: w.core.runtime.bind HubRuntime.messageBuffer ::
    (w.starts.map ownedByStart ++ w.closes.map ownedByClose ++
      w.supervisors.map fun s => ownedBySupervisor s.pc)

/-- Some reference to buffer `b` is left. -/
def Owned (w : World) (b : ℕ) : Prop := some b ∈ w.owners

instance (w : World) (b : ℕ) : Decidable (w.Owned b) :=
  inferInstanceAs (Decidable (some b ∈ w.owners))

/-- A step with an effect can be taken: if it closes a transport, its queue has stopped. -/
def allowed (env : Env) (e : Effect) : Bool := env.stops || !e.op.closesTransport

/-- Applies the effect of a step of a task. -/
def apply (options : ConnectionOptions) (w : World) (e : Effect) : World where
  core := w.core.applyOp options e.op
  starts := w.starts
  closes := if e.notify then w.closes.map fun pc => match pc with
      | .waiting => .notified
      | pc => pc
    else w.closes
  supervisors :=
    (match e.abort with
      | none => w.supervisors
      | some k => w.supervisors.modify k fun s => { s with aborted := true }) ++
    (match e.spawn with
      | none => []
      | some connection =>
        [⟨.select, connection, w.core.control.stopVersion, false, [], []⟩])

/-- The steps of calls, handles, upload tasks and receive tasks that can be taken. A call that waits
for room goes on when no reference to its buffer is left. -/
def coreEnabled (w : World) : CoreAction → Bool
  | .op _ => false
  | .roomDropped i =>
    match (w.core.calls[i]?).map Call.pc with
    | some (.awaitRoom b) => decide (¬ w.Owned b)
    | _ => false
  | _ => true

/-- One step. -/
def next (options : ConnectionOptions) (w : World) : Action → Option World
  | .newStart => some { w with starts := w.starts ++ [.readState] }
  | .newClose => some { w with closes := w.closes ++ [.readState] }
  | .start i env =>
    w.starts[i]?.bind fun pc =>
      ((pc.step options w.core w.receivers w.supervisors.length i env).filter fun r =>
        allowed env r.1).map fun r => { w.apply options r.1 with starts := w.starts.set i r.2 }
  | .close i env =>
    w.closes[i]?.bind fun pc =>
      ((pc.step options w.core w.receivers i env).filter fun r => allowed env r.1).map fun r =>
        let w := w.apply options r.1
        { w with closes := w.closes.set i r.2 }
  | .supervisor k env =>
    w.supervisors[k]?.bind fun s =>
      if s.aborted ∧ s.pc.mayRun = false then none
      else ((s.step options w.core env).filter fun r => allowed env r.1).map fun r =>
        let w := w.apply options r.1
        { w with supervisors := w.supervisors.set k r.2 }
  | .supervisorEnds k =>
    w.supervisors[k]?.bind fun s =>
      if s.aborted then some { w with supervisors := w.supervisors.set k { s with pc := .ended } }
      else none
  | .core a =>
    if w.coreEnabled a then
      (w.core.next options a).map fun core => { w with core := core }
    else none

/-- A hub connection that was never started. -/
def new : World := ⟨.new, [], [], []⟩

/-- The runs of a hub connection. -/
def system (options : ConnectionOptions) : Automata.System World Action := ⟨new, next options⟩

/-! ## Tasks that run alone -/

end World

/-- Options without a reconnect policy. -/
def ConnectionOptions.plain : ConnectionOptions := ⟨.typeOnly, .text, 100000, none⟩

/-- Options with a reconnect policy that retries at once. -/
def ConnectionOptions.retrying : ConnectionOptions :=
  ⟨.typeOnly, .text, 100000, some fun _ => some 0⟩

/-- Options with a reconnect policy that never retries. -/
def ConnectionOptions.noDelay : ConnectionOptions :=
  ⟨.typeOnly, .text, 100000, some fun _ => none⟩

/-- The server agrees to stateful reconnect. -/
def Env.resumable : Env := { connected := .ok ⟨some "connection", true, none, []⟩ }

/-- The transport drops. -/
def Env.dropped : Env := { event := some ⟨none, none, true⟩ }

/-- The connection is lost. -/
def Env.lost : Env := { event := some ⟨none, none, false⟩ }

namespace World

/-- `start` is called on a connection that was never started, and returns with a supervisor. -/
def startRun (env : Env) : List Action := .newStart :: List.replicate 23 (.start 0 env)

/-- Call `i` is made and takes `n` steps. -/
def callRun (i n : ℕ) (kind : CallKind) (arguments : List HubArgument) : List Action :=
  .core (.newCall kind "method" arguments) :: List.replicate n (.core (.call i (.ok ())))

/-- The first supervisor takes `n` steps. -/
def supervisorRun (n : ℕ) (env : Env) : List Action := List.replicate n (.supervisor 0 env)

/-! ## Everything that can happen -/

/-- A step of a hub connection, with the step of the task that takes it. -/
inductive Step (options : ConnectionOptions) (w : World) : Action → World → Prop
  | newStart : Step options w .newStart { w with starts := w.starts ++ [.readState] }
  | newClose : Step options w .newClose { w with closes := w.closes ++ [.readState] }
  | start {i : ℕ} {env : Env} {pc pc' : StartPc} {e : Effect} (hi : w.starts[i]? = some pc)
      (h : pc.step options w.core w.receivers w.supervisors.length i env = some (e, pc')) :
    Step options w (.start i env) { w.apply options e with starts := w.starts.set i pc' }
  | close {i : ℕ} {env : Env} {pc pc' : ClosePc} {e : Effect} (hi : w.closes[i]? = some pc)
      (h : pc.step options w.core w.receivers i env = some (e, pc')) :
    Step options w (.close i env)
      { w.apply options e with closes := (w.apply options e).closes.set i pc' }
  | supervisor {k : ℕ} {env : Env} {s s' : Supervisor} {e : Effect}
      (hk : w.supervisors[k]? = some s) (hrun : ¬ (s.aborted = true ∧ s.pc.mayRun = false))
      (h : s.step options w.core env = some (e, s')) :
    Step options w (.supervisor k env)
      { w.apply options e with supervisors := (w.apply options e).supervisors.set k s' }
  | supervisorEnds {k : ℕ} {s : Supervisor} (hk : w.supervisors[k]? = some s)
      (ha : s.aborted = true) :
    Step options w (.supervisorEnds k)
      { w with supervisors := w.supervisors.set k { s with pc := .ended } }
  | core {a : CoreAction} {c : Core} (ha : w.coreEnabled a = true)
      (h : w.core.next options a = some c) : Step options w (.core a) { w with core := c }

/-- Every step is one of these. -/
theorem step_of_next {options : ConnectionOptions} {w w' : World} {a : Action}
    (h : next options w a = some w') : Step options w a w' := by
  cases a with
  | newStart =>
    cases h
    exact .newStart
  | newClose =>
    cases h
    exact .newClose
  | start i env =>
    simp only [next, Option.bind_eq_some_iff, Option.map_eq_some_iff] at h
    obtain ⟨pc, hpc, r, hr, rfl⟩ := h
    exact .start hpc (Option.eq_some_of_filter_eq_some hr)
  | close i env =>
    simp only [next, Option.bind_eq_some_iff, Option.map_eq_some_iff] at h
    obtain ⟨pc, hpc, r, hr, rfl⟩ := h
    exact .close hpc (Option.eq_some_of_filter_eq_some hr)
  | supervisor k env =>
    simp only [next, Option.bind_eq_some_iff] at h
    obtain ⟨s, hs, h⟩ := h
    split at h
    · cases h
    · rename_i hrun
      obtain ⟨r, hr, rfl⟩ := Option.map_eq_some_iff.mp h
      exact .supervisor hs hrun (Option.eq_some_of_filter_eq_some hr)
  | supervisorEnds k =>
    simp only [next, Option.bind_eq_some_iff] at h
    obtain ⟨s, hs, h⟩ := h
    split at h
    · rename_i ha
      cases h
      exact .supervisorEnds hs ha
    · cases h
  | core a =>
    simp only [next] at h
    split at h
    · rename_i ha
      obtain ⟨core, hcore, rfl⟩ := Option.map_eq_some_iff.mp h
      exact .core ha hcore
    · cases h

/-- The life cycle takes its steps only through its tasks. -/
lemma ne_op_of_coreEnabled {w : World} {a : CoreAction} (ha : w.coreEnabled a = true) (op : Op) :
    a ≠ .op op := by
  rintro rfl
  cases ha

/-! ## Steps on the shared fields -/

/-- The step on the shared fields that an action takes. -/
def coreAction (options : ConnectionOptions) (w : World) : Action → Option CoreAction
  | .start i env =>
    w.starts[i]?.bind fun pc =>
      (pc.step options w.core w.receivers w.supervisors.length i env).map fun r => .op r.1.op
  | .close i env =>
    w.closes[i]?.bind fun pc =>
      (pc.step options w.core w.receivers i env).map fun r => .op r.1.op
  | .supervisor k env =>
    w.supervisors[k]?.bind fun s => (s.step options w.core env).map fun r => .op r.1.op
  | .core a => some a
  | .newStart | .newClose | .supervisorEnds _ => none

/-- Every step of a task is a step on the shared fields, or leaves them alone. -/
lemma core_of_next {options : ConnectionOptions} {w w' : World} {a : Action}
    (h : next options w a = some w') :
    (∃ ca, w.coreAction options a = some ca ∧ w.core.next options ca = some w'.core) ∨
      w'.core = w.core := by
  cases step_of_next h with
  | newStart | newClose | supervisorEnds => exact .inr rfl
  | @start i env pc pc' e hi hr => exact .inl ⟨.op e.op, by simp [coreAction, hi, hr], rfl⟩
  | @close i env pc pc' e hi hr => exact .inl ⟨.op e.op, by simp [coreAction, hi, hr], rfl⟩
  | @supervisor k env s s' e hk _ hr => exact .inl ⟨.op e.op, by simp [coreAction, hk, hr], rfl⟩
  | core _ hr => exact .inl ⟨_, rfl, hr⟩

/-- A condition on the steps on the shared fields, as a condition on the steps of a connection. -/
def OnCore (options : ConnectionOptions) (ok : Core → CoreAction → Prop) (w : World) (a : Action) :
    Prop :=
  ∀ ca ∈ w.coreAction options a, ok w.core ca

instance {options : ConnectionOptions} {ok : Core → CoreAction → Prop}
    [∀ c ca, Decidable (ok c ca)] (w : World) (a : Action) : Decidable (OnCore options ok w a) :=
  inferInstanceAs (Decidable (∀ ca ∈ w.coreAction options a, ok w.core ca))

/-- **Invariants of the shared fields**: what the steps on them preserve under a condition holds
along every run of the connection that meets it. -/
theorem core_invariant {options : ConnectionOptions} {ok : Core → CoreAction → Prop}
    {I : Core → Prop} (hinit : I .new)
    (hstep : ∀ c ca c', I c → ok c ca → c.next options ca = some c' → I c') {as : List Action}
    {w : World} (hrun : (system options).run as = some w)
    (hm : (system options).Meets (OnCore options ok) as) : I w.core := by
  refine Automata.System.invariant_of_meets (I := fun w : World => I w.core) hinit ?_ hrun hm
  intro w a w' hw hok hnext
  rcases core_of_next hnext with ⟨ca, hca, hcore⟩ | hcore
  · exact hstep _ ca _ hw (hok ca hca) hcore
  · rw [hcore]
    exact hw

end World

end Signalrr.HubConnection
