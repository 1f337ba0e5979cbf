import Signalrr.Transport.SendQueue

set_option relaxedAutoImplicit false
set_option autoImplicit false

/-!
# The transport of a web socket

`WebSocketTransport` of `src/transport/websocket.rs`, with any number of calls of `close` at once. A
call stops the send queue, for which it holds the lock of the worker's handle until the worker has
ended, and then closes the sink under the lock of `closed`, unless another call has done so.

## Main definitions

* `Signalrr.Transport.ClosePc` — where a call of `close` is.
* `Signalrr.Transport.WebSocketTransport` — the calls, the two locks, the queue and the sink.
* `Signalrr.Transport.WebSocketTransport.system` — the steps of calls, senders and worker.
* `Signalrr.Transport.WebSocketTransport.AwaitsWorker`, `AwaitsSink` — no call is dropped while it
  waits for the worker, or for the sink.

## Main results

* `Signalrr.Transport.WebSocketTransport.step_of_next` — everything a step can do.

## Design

A call is named by its position among all calls. Each acquisition of a lock, the end of the worker,
the answer of the sink and the abort of the read task are steps of their own.

A task can be aborted wherever a call in it waits: `shutdown_active_connection` aborts a supervisor
that may be in `abort_without_close`. The guards of the call are dropped with it. A call that has
taken the handle of the worker takes it with it, too; the next call does not find the handle and
does not wait for the worker. So what `close` promises holds of runs in which this does not happen,
and both conditions are about the step that drops a call.
-/

namespace Signalrr.Transport

open Hub

/-- Where a call of `close` is. -/
inductive ClosePc where
  /-- `queue.stop()` has sent `Shutdown` and wants the handle of the worker. -/
  | lockWorker
  /-- It has taken the handle, holds its lock and waits for the worker. -/
  | awaitWorker
  /-- It wants the lock of `closed`. -/
  | lockClosed
  /-- It has set `closed`, holds its lock and closes the sink. -/
  | closeSink
  /-- The sink is closed, and the read task is aborted. -/
  | abortRead
  | returned (result : Except Error Unit)
  /-- The task it was called in has been aborted. -/
  | dropped

namespace ClosePc

/-- In `queue.stop()`. -/
def inStop : ClosePc → Bool
  | lockWorker | awaitWorker => true
  | _ => false

/-- It has not come to the lock of `closed`, or never will. -/
def early : ClosePc → Bool
  | lockWorker | awaitWorker | lockClosed | dropped => true
  | _ => false

/-- It closes the sink, or aborts the read task behind that. -/
def inSink : ClosePc → Bool
  | closeSink | abortRead => true
  | _ => false

/-- It is over. -/
def finished : ClosePc → Bool
  | returned _ | dropped => true
  | _ => false

/-- It has left `queue.stop()` by itself. -/
def afterStop : ClosePc → Bool
  | lockClosed | closeSink | abortRead | returned _ => true
  | _ => false

/-- How many steps are left at most. -/
def stepsLeft : ClosePc → ℕ
  | lockWorker => 5
  | awaitWorker => 4
  | lockClosed => 3
  | closeSink => 2
  | abortRead => 1
  | returned _ | dropped => 0

end ClosePc

/-- A web socket transport with a send queue. -/
structure WebSocketTransport where
  queue : TransportSendQueue
  /-- The calls of `close` so far. -/
  calls : List ClosePc
  /-- The handle of the worker has not been taken. -/
  worker : Bool
  /-- The call that holds the lock of this handle. -/
  workerLock : Option ℕ
  closed : Bool
  /-- The call that holds the lock of `closed`. -/
  closedLock : Option ℕ
  /-- What closing the sink ended with, and the frames the transport had taken by then. -/
  sink : Option (Except Error Unit × List OutboundPayload)
  /-- The read task has not been aborted. -/
  reading : Bool

namespace WebSocketTransport

/-- `connect_with_options`, with the send queue enabled. -/
def new : WebSocketTransport where
  queue := .new
  calls := []
  worker := true
  workerLock := none
  closed := false
  closedLock := none
  sink := none
  reading := true

/-- The steps of the calls, of the senders and of the worker. -/
inductive Action where
  /-- `close` is called and sends `Shutdown`. -/
  | close
  /-- The lock of the worker's handle is acquired. -/
  | lockWorker (i : ℕ)
  /-- The worker has ended. -/
  | workerEnded (i : ℕ)
  /-- The lock of `closed` is acquired. -/
  | lockClosed (i : ℕ)
  /-- The sink answers. -/
  | closeSink (i : ℕ) (outcome : Except Error Unit)
  /-- The read task is aborted. -/
  | abortRead (i : ℕ)
  /-- The task of a call is aborted. -/
  | dropClose (i : ℕ)
  | send (payload : OutboundPayload)
  | recv
  | tryRecv
  | flush (outcome : Except Error Unit)
  /-- The transport is dropped. -/
  | drop

/-- A call goes on at another place. -/
def moveTo (s : WebSocketTransport) (i : ℕ) (pc : ClosePc) : WebSocketTransport :=
  { s with calls := s.calls.set i pc }

/-- A call leaves `queue.stop()`. -/
def leaveStop (s : WebSocketTransport) (i : ℕ) (pc : ClosePc) : WebSocketTransport :=
  { s with
    queue := { s.queue with stopping := s.queue.stopping - 1 }
    calls := s.calls.set i pc }

/-- The step of a call that acquires the lock of the worker's handle. -/
def lockWorkerStep (s : WebSocketTransport) (i : ℕ) : WebSocketTransport :=
  if s.worker then { s with worker := false, workerLock := some i }.moveTo i .awaitWorker
  else s.leaveStop i .lockClosed

/-- The step of a call that acquires the lock of `closed`. -/
def lockClosedStep (s : WebSocketTransport) (i : ℕ) : WebSocketTransport :=
  if s.closed then s.moveTo i (.returned (.ok ()))
  else { s with closed := true, closedLock := some i }.moveTo i .closeSink

/-- The sink answers: an error is returned at once. -/
def closeSinkStep (s : WebSocketTransport) (i : ℕ) (outcome : Except Error Unit) :
    WebSocketTransport :=
  let s := { s with sink := some (outcome, s.queue.flushed) }
  match outcome with
  | .ok () => s.moveTo i .abortRead
  | .error error => { s with closedLock := none }.moveTo i (.returned (.error error))

/-- A call is dropped, and with it the guards it holds. -/
def dropCloseStep (s : WebSocketTransport) (i : ℕ) : ClosePc → Option WebSocketTransport
  | .lockWorker => some (s.leaveStop i .dropped)
  | .awaitWorker => some ({ s with workerLock := none }.leaveStop i .dropped)
  | .lockClosed => some (s.moveTo i .dropped)
  | .closeSink | .abortRead => some ({ s with closedLock := none }.moveTo i .dropped)
  | .returned _ | .dropped => none

/-- A step of the queue alone. -/
def queueStep (s : WebSocketTransport) (a : TransportSendQueue.Action) :
    Option WebSocketTransport :=
  (s.queue.next a).map fun queue => { s with queue := queue }

/-- One step. -/
def next (s : WebSocketTransport) : Action → Option WebSocketTransport
  | .close =>
    (s.queue.next .stop).map fun queue =>
      { s with queue := queue, calls := s.calls ++ [.lockWorker] }
  | .lockWorker i =>
    match s.calls[i]?, s.workerLock with
    | some .lockWorker, none => some (s.lockWorkerStep i)
    | _, _ => none
  | .workerEnded i =>
    match s.calls[i]?, s.queue.worker with
    | some .awaitWorker, .ended => some ({ s with workerLock := none }.leaveStop i .lockClosed)
    | _, _ => none
  | .lockClosed i =>
    match s.calls[i]?, s.closedLock with
    | some .lockClosed, none => some (s.lockClosedStep i)
    | _, _ => none
  | .closeSink i outcome =>
    match s.calls[i]? with
    | some .closeSink => some (s.closeSinkStep i outcome)
    | _ => none
  | .abortRead i =>
    match s.calls[i]? with
    | some .abortRead =>
      some ({ s with reading := false, closedLock := none }.moveTo i (.returned (.ok ())))
    | _ => none
  | .dropClose i => s.calls[i]?.bind (s.dropCloseStep i)
  | .send payload => s.queueStep (.send payload)
  | .recv => s.queueStep .recv
  | .tryRecv => s.queueStep .tryRecv
  | .flush outcome => s.queueStep (.flush outcome)
  | .drop => if s.calls.all ClosePc.finished then s.queueStep .drop else none

/-- The runs of a transport. -/
def system : Automata.System WebSocketTransport Action := ⟨new, next⟩

/-- A call that is dropped in `queue.stop()` is dropped when the worker has ended. -/
def AwaitsWorker (s : WebSocketTransport) : Action → Prop
  | .dropClose i => ∀ pc ∈ s.calls[i]?, pc.inStop = true → s.queue.worker = .ended
  | _ => True

instance (s : WebSocketTransport) (a : Action) : Decidable (s.AwaitsWorker a) := by
  cases a <;> unfold AwaitsWorker <;> infer_instance

/-- The call that closes the sink is not dropped. -/
def AwaitsSink (s : WebSocketTransport) : Action → Prop
  | .dropClose i => ∀ pc ∈ s.calls[i]?, pc.inSink = false
  | _ => True

instance (s : WebSocketTransport) (a : Action) : Decidable (s.AwaitsSink a) := by
  cases a <;> unfold AwaitsSink <;> infer_instance

/-! ## Everything a step can do -/

/-- The steps of the queue that no call takes part in. -/
def Action.alone : Action → Option TransportSendQueue.Action
  | .send payload => some (.send payload)
  | .recv => some .recv
  | .tryRecv => some .tryRecv
  | .flush outcome => some (.flush outcome)
  | .drop => some .drop
  | _ => none

/-- The steps of the transport, one constructor for each branch. -/
inductive Step (s : WebSocketTransport) : Action → WebSocketTransport → Prop where
  | close (q : TransportSendQueue) (hstep : s.queue.next .stop = some q) :
    Step s .close { s with queue := q, calls := s.calls ++ [.lockWorker] }
  | takeHandle (i : ℕ) (hi : s.calls[i]? = some .lockWorker) (hlock : s.workerLock = none)
    (hworker : s.worker = true) :
    Step s (.lockWorker i) ({ s with worker := false, workerLock := some i }.moveTo i .awaitWorker)
  | noHandle (i : ℕ) (hi : s.calls[i]? = some .lockWorker) (hlock : s.workerLock = none)
    (hworker : s.worker = false) : Step s (.lockWorker i) (s.leaveStop i .lockClosed)
  | workerEnded (i : ℕ) (hi : s.calls[i]? = some .awaitWorker) (hended : s.queue.worker = .ended) :
    Step s (.workerEnded i) ({ s with workerLock := none }.leaveStop i .lockClosed)
  | alreadyClosed (i : ℕ) (hi : s.calls[i]? = some .lockClosed) (hlock : s.closedLock = none)
    (hclosed : s.closed = true) : Step s (.lockClosed i) (s.moveTo i (.returned (.ok ())))
  | setClosed (i : ℕ) (hi : s.calls[i]? = some .lockClosed) (hlock : s.closedLock = none)
    (hclosed : s.closed = false) :
    Step s (.lockClosed i) ({ s with closed := true, closedLock := some i }.moveTo i .closeSink)
  | sinkClosed (i : ℕ) (hi : s.calls[i]? = some .closeSink) :
    Step s (.closeSink i (.ok ()))
      ({ s with sink := some (.ok (), s.queue.flushed) }.moveTo i .abortRead)
  | sinkFailed (i : ℕ) (error : Error) (hi : s.calls[i]? = some .closeSink) :
    Step s (.closeSink i (.error error))
      ({ s with sink := some (.error error, s.queue.flushed), closedLock := none }.moveTo i
        (.returned (.error error)))
  | abortRead (i : ℕ) (hi : s.calls[i]? = some .abortRead) :
    Step s (.abortRead i)
      ({ s with reading := false, closedLock := none }.moveTo i (.returned (.ok ())))
  | dropped (i : ℕ) (pc : ClosePc) (hi : s.calls[i]? = some pc) (s' : WebSocketTransport)
    (hstep : s.dropCloseStep i pc = some s') : Step s (.dropClose i) s'
  | queue (a : Action) (b : TransportSendQueue.Action) (ha : a.alone = some b)
    (q : TransportSendQueue) (hstep : s.queue.next b = some q) : Step s a { s with queue := q }

/-- A step of the queue alone is a step. -/
lemma step_of_queueStep {s s' : WebSocketTransport} {a : Action} {b : TransportSendQueue.Action}
    (ha : a.alone = some b) (h : s.queueStep b = some s') : Step s a s' := by
  obtain ⟨q, hq, rfl⟩ := Option.map_eq_some_iff.mp h
  exact .queue a b ha q hq

/-- Every step of the system is one of these. -/
lemma step_of_next {s s' : WebSocketTransport} {a : Action} (h : next s a = some s') :
    Step s a s' := by
  cases a with
  | close =>
    obtain ⟨q, hq, rfl⟩ := Option.map_eq_some_iff.mp h
    exact .close q hq
  | lockWorker i =>
    simp only [next] at h
    split at h
    next hi hlock =>
      obtain rfl := Option.some.inj h
      unfold lockWorkerStep
      split_ifs with hworker
      · exact .takeHandle i hi hlock hworker
      · exact .noHandle i hi hlock (Bool.eq_false_iff.mpr hworker)
    next => cases h
  | workerEnded i =>
    simp only [next] at h
    split at h
    next hi hended =>
      obtain rfl := Option.some.inj h
      exact .workerEnded i hi hended
    next => cases h
  | lockClosed i =>
    simp only [next] at h
    split at h
    next hi hlock =>
      obtain rfl := Option.some.inj h
      unfold lockClosedStep
      split_ifs with hclosed
      · exact .alreadyClosed i hi hlock hclosed
      · exact .setClosed i hi hlock (Bool.eq_false_iff.mpr hclosed)
    next => cases h
  | closeSink i outcome =>
    simp only [next] at h
    split at h
    next hi =>
      obtain rfl := Option.some.inj h
      cases outcome with
      | ok u => exact .sinkClosed i hi
      | error error => exact .sinkFailed i error hi
    next => cases h
  | abortRead i =>
    simp only [next] at h
    split at h
    next hi =>
      obtain rfl := Option.some.inj h
      exact .abortRead i hi
    next => cases h
  | dropClose i =>
    obtain ⟨pc, hi, h⟩ := Option.bind_eq_some_iff.mp h
    exact .dropped i pc hi s' h
  | send payload => exact step_of_queueStep rfl h
  | recv => exact step_of_queueStep rfl h
  | tryRecv => exact step_of_queueStep rfl h
  | flush outcome => exact step_of_queueStep rfl h
  | drop =>
    simp only [next] at h
    split_ifs at h
    exact step_of_queueStep rfl h

end WebSocketTransport

end Signalrr.Transport
