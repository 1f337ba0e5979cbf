import Mathlib.Logic.Function.Basic
import Signalrr.Automata.System
import Signalrr.HubConnection.MessageBuffer

set_option relaxedAutoImplicit false
set_option autoImplicit false

/-!
# Two peers joined by dropping transports

Both ends of a stateful connection follow `message_buffer.rs`. They are joined by one transport
at a time, first-in first-out in each direction, that may drop at any moment and lose any final
segment of what is in flight. After a drop both peers call `disconnected`, a new transport is
opened and both call `resend` on it.

## Main definitions

* `Signalrr.HubConnection.Link` — the two peers and the frames in flight.
* `Signalrr.HubConnection.Link.system` — the actions of the peers and of the transport.

## Design

An outcome of a write is part of the action, also on a live transport: a failed write calls
`disconnected` and leaves the transport as it is. A peer may call `disconnected` at any moment,
which covers a drop that one side notices before the other. What survives a drop can still be
received until the next transport is opened. The acknowledgement timer writes to the transport
it has captured, and what is written to an earlier transport is lost.

A peer's `sent` lists the invocation-type messages it passed to `send`; a message that the
protocol cannot serialize is refused before anything happens and is not among them.
-/

namespace Signalrr.HubConnection

open Hub

/-- The two ends of a connection. -/
inductive Side where
  | client
  | server
  deriving DecidableEq, Repr

/-- The opposite end. -/
def Side.other : Side → Side
  | client => server
  | server => client

@[simp] lemma Side.other_other (p : Side) : p.other.other = p := by cases p <;> rfl

@[simp] lemma Side.other_ne (p : Side) : p.other ≠ p := by cases p <;> decide

@[simp] lemma Side.ne_other (p : Side) : p ≠ p.other := by cases p <;> decide

/-- One end is the other one or its opposite. -/
lemma Side.eq_or_eq_other (p s : Side) : p = s ∨ p = s.other := by
  cases p <;> cases s <;> decide

/-- One end of the link. -/
structure Peer where
  buffer : MessageBuffer
  /-- The transport captured by the scheduled ack timer task. -/
  timer : Option ℕ
  /-- Whether `resend` has been called on the current transport, or is not needed on it. -/
  resumed : Bool
  /-- The invocation-type messages passed to `send`. -/
  sent : List HubMessage
  /-- The invocation-type messages for which `should_process_message` returned `true`. -/
  accepted : List HubMessage

/-- Both ends, and the frames in flight to each of them. -/
structure Link where
  transport : ℕ
  up : Bool
  peer : Side → Peer
  wire : Side → List Frame

/-- What the two ends share: the protocol, its format and the size of each buffer. -/
structure LinkConfig where
  protocol : HubProtocol
  transferFormat : TransferFormat
  bufferSize : Side → ℕ

/-- One end handles a received message: `DispatchContext::dispatch`, as far as the buffer is
concerned. -/
def Peer.dispatch (x : Peer) (transport : ℕ) (message : HubMessage) : Peer :=
  let r := x.buffer.shouldProcessMessage message
  let x := { x with buffer := r.buffer, timer := if r.timer then some transport else x.timer }
  if r.process then
    match message with
    | .ack ack => { x with buffer := x.buffer.ack ack }
    | .sequence sequence =>
      match x.buffer.resetSequence sequence with
      | .ok buffer => { x with buffer := buffer }
      | .error _ => x
    | _ =>
      if isInvocationMessage message then { x with accepted := x.accepted ++ [message] } else x
  else x

namespace Link

/-- Replaces one end. -/
def setPeer (ℓ : Link) (p : Side) (x : Peer) : Link :=
  { ℓ with peer := Function.update ℓ.peer p x }

/-- `p` writes frames to the current transport. -/
def write (ℓ : Link) (p : Side) (frames : List Frame) : Link :=
  if ℓ.up then
    { ℓ with wire := Function.update ℓ.wire p.other (ℓ.wire p.other ++ frames) }
  else ℓ

/-- What the peers and the transport can do. -/
inductive Action where
  /-- `p` calls `send`. -/
  | send (p : Side) (message : HubMessage) (waiter : Waiter) (outcome : Except Error Unit)
  /-- `p` receives the next frame. -/
  | receive (p : Side)
  /-- The ack timer task of `p` fires. -/
  | ackTimer (p : Side) (outcome : Except Error Unit)
  /-- The keep-alive task of `p` writes a ping. -/
  | ping (p : Side) (outcome : Except Error Unit)
  /-- The transport drops; of the frames to `p` the first `keep p` survive. -/
  | drop (keep : Side → ℕ)
  /-- `p` calls `disconnected`. -/
  | disconnected (p : Side)
  /-- A new transport is opened. -/
  | reopen
  /-- `p` calls `resend`. -/
  | resend (p : Side) (outcome : ℕ → Except Error Unit)

/-- `p` passes a message to `send`. -/
def send (cfg : LinkConfig) (ℓ : Link) (p : Side) (message : HubMessage) (waiter : Waiter)
    (outcome : Except Error Unit) : Link :=
  let x := ℓ.peer p
  let o := x.buffer.send cfg.protocol cfg.transferFormat (fun _ => outcome) message waiter
  let sent :=
    match serialize cfg.protocol message with
    | .ok _ => if isInvocationMessage message then x.sent ++ [message] else x.sent
    | .error _ => x.sent
  (ℓ.setPeer p { x with buffer := o.buffer, sent := sent }).write p o.written

/-- The ack timer task of `p`, scheduled on `transport`, wakes up. -/
def ackTimer (cfg : LinkConfig) (ℓ : Link) (p : Side) (transport : ℕ)
    (outcome : Except Error Unit) : Link :=
  let x := ℓ.peer p
  let frames :=
    if x.buffer.reconnectInProgress then []
    else (sendHubMessage cfg.protocol cfg.transferFormat (fun _ => outcome)
      (.ack ⟨x.buffer.latestReceivedSequenceId⟩)).1
  let ℓ := ℓ.setPeer p { x with buffer := { x.buffer with ackScheduled := false }, timer := none }
  if transport = ℓ.transport then ℓ.write p frames else ℓ

/-- `p` calls `resend` on the current transport. -/
def resend (cfg : LinkConfig) (ℓ : Link) (p : Side) (outcome : ℕ → Except Error Unit) : Link :=
  let x := ℓ.peer p
  let o := x.buffer.resend cfg.protocol cfg.transferFormat (fun k _ => outcome k)
  (ℓ.setPeer p { x with buffer := o.buffer, resumed := true }).write p o.written

/-- One step of the link. Ends pass no `Ack` and no `Sequence` to `send`: these are written by
the buffer itself. -/
def next (cfg : LinkConfig) (ℓ : Link) : Action → Option Link
  | .send p message waiter outcome =>
    if message.sequenceId? = none ∧ message.ackId? = none then
      some (ℓ.send cfg p message waiter outcome)
    else none
  | .receive p =>
    match ℓ.wire p with
    | [] => none
    | frame :: rest =>
      some ({ ℓ with wire := Function.update ℓ.wire p rest }.setPeer p
        ((ℓ.peer p).dispatch ℓ.transport frame.message))
  | .ackTimer p outcome => (ℓ.peer p).timer.map fun t => ℓ.ackTimer cfg p t outcome
  | .ping p outcome =>
    some (ℓ.write p
      (sendHubMessage cfg.protocol cfg.transferFormat (fun _ => outcome) .ping).1)
  | .drop keep =>
    if ℓ.up then some { ℓ with up := false, wire := fun p => (ℓ.wire p).take (keep p) } else none
  | .disconnected p =>
    some (ℓ.setPeer p { ℓ.peer p with buffer := (ℓ.peer p).buffer.disconnected })
  | .reopen =>
    if ℓ.up = false ∧ ∀ p ∈ [Side.client, .server], (ℓ.peer p).buffer.reconnectInProgress = true
    then
      some { ℓ with
        up := true
        transport := ℓ.transport + 1
        wire := fun _ => []
        peer := fun p => { ℓ.peer p with resumed := false } }
    else none
  | .resend p outcome =>
    if ℓ.up = true ∧ (ℓ.peer p).resumed = false then some (ℓ.resend cfg p outcome) else none

/-- A fresh connection. -/
def init (cfg : LinkConfig) : Link where
  transport := 0
  up := true
  peer := fun p => ⟨.new (cfg.bufferSize p), none, true, [], []⟩
  wire := fun _ => []

/-- The runs of two peers over dropping transports. -/
def system (cfg : LinkConfig) : Automata.System Link Action := ⟨init cfg, next cfg⟩

end Link

end Signalrr.HubConnection
