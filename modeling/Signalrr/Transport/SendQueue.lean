import Signalrr.Automata.System
import Signalrr.Hub.Message

set_option relaxedAutoImplicit false
set_option autoImplicit false

/-!
# The send queue of a transport

`src/transport/send_queue.rs`: callers of `send` put a command into an unbounded channel and wait
for an answer; one worker, `send_loop`, takes the commands out, batches the payloads that are
ready and flushes them to the transport. `stop` puts a `Shutdown` command into the channel and
waits for the worker to end.

## Main definitions

* `Signalrr.Transport.TransportSendQueue` — the channel, the worker and the answers given so far.
* `Signalrr.Transport.TransportSendQueue.system` — the steps of callers and worker. The worker
  takes one command at a time, so commands may arrive between any two of its steps.
* `Signalrr.Transport.TransportSendQueue.StopKept` — a stop that was taken ends the worker, and a
  caller of `stop` does not wait for a worker that waits.

## Main results

* `Signalrr.Transport.TransportSendQueue.uniform_of_reachable` — the payloads of a batch are all
  text or all binary, so no flush is reached for which the source has no code.
* `Signalrr.Transport.TransportSendQueue.stopKept_of_meets` — no stop is lost in runs in which
  `drain_ready_commands` never finds `Shutdown` at the head of the channel.
* `Signalrr.Transport.TransportSendQueue.waits_of_drained_shutdown` — when it does find it there,
  the worker waits for a further command.

## Design

A one-shot response channel is named by the position of its payload among all payloads passed to
`send`. The outcome of a flush is part of the action. A worker that ends drops its end of the
channel: later commands are refused, and the commands still in the channel are dropped with their
response channels.
-/

namespace Signalrr.Transport

open Hub

/-- A payload on its way out. -/
inductive OutboundPayload where
  | text (text : String)
  | binary (bytes : Bytes)
  deriving DecidableEq, Repr

namespace OutboundPayload

/-- The text of a text payload. -/
def text? : OutboundPayload → Option String
  | text t => some t
  | binary _ => none

/-- The bytes of a binary payload. -/
def binary? : OutboundPayload → Option Bytes
  | text _ => none
  | binary b => some b

/-- Whether two payloads are of the same type. -/
def sameType : OutboundPayload → OutboundPayload → Bool
  | text _, text _ => true
  | binary _, binary _ => true
  | _, _ => false

end OutboundPayload

/-- The name of the one-shot channel on which a caller of `send` gets its answer. -/
abbrev Response := ℕ

/-- What travels through the channel to the worker. -/
inductive QueueCommand where
  | send (payload : OutboundPayload) (response : Response)
  | shutdown
  deriving DecidableEq, Repr

/-- Where the worker `send_loop` is. -/
inductive SendLoop where
  /-- `wait_for_data`: it waits for a command. -/
  | receive
  /-- In the loop of `drain_ready_commands`. -/
  | drain
  /-- In `flush_buffer`. -/
  | flush
  /-- It has left its loop. -/
  | ended
  deriving DecidableEq, Repr

/-- `push_payload`. -/
def pushPayload (buffer : List OutboundPayload) (payload : OutboundPayload) :
    Except Error (List OutboundPayload) :=
  match buffer with
  | [] => .ok [payload]
  | first :: rest =>
    if first.sameType payload then .ok (first :: rest ++ [payload])
    else .error (.protocol "transport send queue received mixed text and binary payloads")

/-- The one payload `flush_buffer` makes of a non-empty buffer; `none` where the source has
`unreachable!()`. -/
def batch : List OutboundPayload → Option OutboundPayload
  | [] => none
  | .text first :: rest =>
    (rest.mapM OutboundPayload.text?).map fun texts => .text (String.join (first :: texts))
  | .binary first :: rest =>
    (rest.mapM OutboundPayload.binary?).map fun parts => .binary (first :: parts).flatten

/-- What the transport has taken of a batch after a write with this outcome. -/
def writtenBy (outcome : Except Error Unit) (payload : OutboundPayload) : List OutboundPayload :=
  match outcome with
  | .ok () => [payload]
  | .error _ => []

/-- `complete_pending`: the answers given when a flush has ended with `result`. -/
def completePending (pending : List Response) (result : Except Error Unit) :
    List (Response × Except Error Unit) :=
  pending.map fun response => (response, result.mapError fun error => .protocol error.toText)

/-- `fail_pending`. -/
def failPending (pending : List Response) (error : Error) : List (Response × Except Error Unit) :=
  pending.map fun response => (response, .error (.protocol error.toText))

/-- The answers callers see when their commands are dropped with the channel. -/
def dropCommands (channel : List QueueCommand) : List (Response × Except Error Unit) :=
  channel.filterMap fun
    | .send _ response =>
      some (response, .error (.protocol "transport send queue dropped response"))
    | .shutdown => none

/-- The queue with its worker and its callers. -/
structure TransportSendQueue where
  /-- Commands sent and not yet taken. -/
  channel : List QueueCommand
  /-- The queue has not been dropped, so the channel is open. -/
  alive : Bool
  worker : SendLoop
  buffer : List OutboundPayload
  pendingResponses : List Response
  /-- All payloads passed to `send`, in order. -/
  sent : List OutboundPayload
  /-- The answers callers have got. -/
  answers : List (Response × Except Error Unit)
  /-- The batches the transport has taken. -/
  flushed : List OutboundPayload
  /-- How many callers of `stop` wait for the worker. -/
  stopping : ℕ
  /-- The worker has taken a `Shutdown` out of the channel. -/
  shutdownTaken : Bool

namespace TransportSendQueue

/-- `TransportSendQueue::new`. -/
def new : TransportSendQueue where
  channel := []
  alive := true
  worker := .receive
  buffer := []
  pendingResponses := []
  sent := []
  answers := []
  flushed := []
  stopping := 0
  shutdownTaken := false

/-- The steps of the callers and of the worker. -/
inductive Action where
  /-- A caller enters `send`. -/
  | send (payload : OutboundPayload)
  /-- A caller enters `stop`. -/
  | stop
  /-- A caller returns from `stop`. -/
  | stopReturn
  /-- The queue is dropped. -/
  | drop
  /-- `command_rx.recv()` of the worker returns. -/
  | recv
  /-- `command_rx.try_recv()` of the worker returns. -/
  | tryRecv
  /-- The flush of the worker ends. -/
  | flush (outcome : Except Error Unit)

/-- The worker leaves its loop and drops its end of the channel. -/
def finish (q : TransportSendQueue) : TransportSendQueue :=
  { q with
    worker := .ended
    answers := q.answers ++ dropCommands q.channel
    channel := [] }

/-- The worker handles a `Send`: the payload joins the buffer and the worker goes on at `next`, or
it is refused. -/
def take (q : TransportSendQueue) (payload : OutboundPayload) (response : Response)
    (next : SendLoop) : TransportSendQueue :=
  match pushPayload q.buffer payload with
  | .ok buffer =>
    { q with
      buffer := buffer
      pendingResponses := q.pendingResponses ++ [response]
      worker := next }
  | .error error => { q with answers := q.answers ++ [(response, .error error)] }

/-- Everyone waiting for an answer is told that the connection has stopped. -/
def stopPending (q : TransportSendQueue) : TransportSendQueue :=
  { q with
    pendingResponses := []
    answers := q.answers ++ failPending q.pendingResponses (.protocol "connection stopped") }

/-- The worker waits for a command: `recv`. -/
def recv (q : TransportSendQueue) : Option TransportSendQueue :=
  match q.channel with
  | .send payload response :: rest =>
    some ({ q with channel := rest }.take payload response .drain)
  | .shutdown :: rest =>
    some ({ q with channel := rest, shutdownTaken := true }.stopPending.finish)
  | [] => if q.alive then none else some q.stopPending.finish

/-- One round of the loop of `drain_ready_commands`: `try_recv`. -/
def tryRecv (q : TransportSendQueue) : TransportSendQueue :=
  match q.channel with
  | .send payload response :: rest =>
    { q with channel := rest }.take payload response .drain
  | .shutdown :: rest =>
    -- the drain returns, the worker goes on as after any other drain
    { { q with channel := rest, shutdownTaken := true }.stopPending with worker := .flush }
  | [] => { q with worker := .flush }

/-- The worker answers everyone whose payload was in the batch and waits for a command again. -/
def complete (q : TransportSendQueue) (result : Except Error Unit)
    (written : List OutboundPayload) : TransportSendQueue :=
  { q with
    buffer := []
    flushed := q.flushed ++ written
    pendingResponses := []
    answers := q.answers ++ completePending q.pendingResponses result
    worker := .receive }

/-- The flush of the buffer has ended with `outcome`; `none` where the source has
`unreachable!()`. -/
def flush (q : TransportSendQueue) (outcome : Except Error Unit) : Option TransportSendQueue :=
  if q.buffer = [] then some (q.complete (.ok ()) [])
  else (batch q.buffer).map fun payload =>
    q.complete outcome (writtenBy outcome payload)

/-- One step. -/
def next (q : TransportSendQueue) : Action → Option TransportSendQueue
  | .send payload =>
    if q.alive then
      let response := q.sent.length
      let q := { q with sent := q.sent ++ [payload] }
      some (if q.worker = .ended then
        { q with answers := q.answers ++
          [(response, .error (.protocol "transport send queue closed"))] }
      else { q with channel := q.channel ++ [.send payload response] })
    else none
  | .stop =>
    if q.alive then
      let q := { q with stopping := q.stopping + 1 }
      -- a refused `Shutdown` is ignored
      some (if q.worker = .ended then q else { q with channel := q.channel ++ [.shutdown] })
    else none
  | .stopReturn =>
    if q.stopping ≠ 0 ∧ q.worker = .ended then some { q with stopping := q.stopping - 1 } else none
  | .drop => if q.stopping = 0 then some { q with alive := false } else none
  | .recv => if q.worker = .receive then q.recv else none
  | .tryRecv => if q.worker = .drain then some q.tryRecv else none
  | .flush outcome => if q.worker = .flush then q.flush outcome else none

/-- The runs of a send queue. -/
def system : Automata.System TransportSendQueue Action := ⟨new, next⟩

/-! ## Everything a step can do -/

/-- The steps of the queue, one constructor for each branch. -/
inductive Step (q : TransportSendQueue) : Action → TransportSendQueue → Prop where
  | sendRefused (payload : OutboundPayload) (hended : q.worker = .ended) :
    Step q (.send payload) { q with
      sent := q.sent ++ [payload]
      answers := q.answers ++
        [(q.sent.length, .error (.protocol "transport send queue closed"))] }
  | send (payload : OutboundPayload) (hended : q.worker ≠ .ended) :
    Step q (.send payload) { q with
      sent := q.sent ++ [payload]
      channel := q.channel ++ [.send payload q.sent.length] }
  | stopRefused (hended : q.worker = .ended) :
    Step q .stop { q with stopping := q.stopping + 1 }
  | stop (hended : q.worker ≠ .ended) :
    Step q .stop { q with
      stopping := q.stopping + 1
      channel := q.channel ++ [.shutdown] }
  | stopReturn (hended : q.worker = .ended) :
    Step q .stopReturn { q with stopping := q.stopping - 1 }
  | drop (hstop : q.stopping = 0) : Step q .drop { q with alive := false }
  | recvSend (payload : OutboundPayload) (response : Response) (rest : List QueueCommand)
    (hw : q.worker = .receive) (hch : q.channel = .send payload response :: rest) :
    Step q .recv ({ q with channel := rest }.take payload response .drain)
  | recvShutdown (rest : List QueueCommand) (hw : q.worker = .receive)
    (hch : q.channel = .shutdown :: rest) :
    Step q .recv { q with channel := rest, shutdownTaken := true }.stopPending.finish
  | recvClosed (hw : q.worker = .receive) (hch : q.channel = []) (halive : q.alive = false) :
    Step q .recv q.stopPending.finish
  | drainSend (payload : OutboundPayload) (response : Response) (rest : List QueueCommand)
    (hw : q.worker = .drain) (hch : q.channel = .send payload response :: rest) :
    Step q .tryRecv ({ q with channel := rest }.take payload response .drain)
  | drainShutdown (rest : List QueueCommand) (hw : q.worker = .drain)
    (hch : q.channel = .shutdown :: rest) :
    Step q .tryRecv { { q with channel := rest, shutdownTaken := true }.stopPending with
      worker := .flush }
  | drainEmpty (hw : q.worker = .drain) (hch : q.channel = []) :
    Step q .tryRecv { q with worker := .flush }
  | flushNothing (outcome : Except Error Unit) (hw : q.worker = .flush) (hbuf : q.buffer = []) :
    Step q (.flush outcome) (q.complete (.ok ()) [])
  | flush (outcome : Except Error Unit) (payload : OutboundPayload) (hw : q.worker = .flush)
    (hbuf : batch q.buffer = some payload) :
    Step q (.flush outcome) (q.complete outcome (writtenBy outcome payload))

/-- Every step of the system is one of these. -/
lemma step_of_next {q q' : TransportSendQueue} {a : Action} (h : next q a = some q') :
    Step q a q' := by
  cases a with
  | send payload =>
    simp only [next, Option.ite_none_right_eq_some, Option.some.injEq] at h
    obtain ⟨-, rfl⟩ := h
    split
    · rename_i hended
      exact .sendRefused payload hended
    · rename_i hended
      exact .send payload hended
  | stop =>
    simp only [next, Option.ite_none_right_eq_some, Option.some.injEq] at h
    obtain ⟨-, rfl⟩ := h
    split
    · rename_i hended
      exact .stopRefused hended
    · rename_i hended
      exact .stop hended
  | stopReturn =>
    simp only [next, Option.ite_none_right_eq_some, Option.some.injEq] at h
    obtain ⟨⟨-, hended⟩, rfl⟩ := h
    exact .stopReturn hended
  | drop =>
    simp only [next, Option.ite_none_right_eq_some, Option.some.injEq] at h
    obtain ⟨hstop, rfl⟩ := h
    exact .drop hstop
  | recv =>
    simp only [next, Option.ite_none_right_eq_some] at h
    obtain ⟨hw, h⟩ := h
    unfold recv at h
    split at h
    · rename_i payload response rest hch
      cases h
      exact .recvSend payload response rest hw hch
    · rename_i rest hch
      cases h
      exact .recvShutdown rest hw hch
    · rename_i hch
      split at h
      · cases h
      · rename_i halive
        cases h
        exact .recvClosed hw hch (by simpa using halive)
  | tryRecv =>
    simp only [next, Option.ite_none_right_eq_some, Option.some.injEq] at h
    obtain ⟨hw, rfl⟩ := h
    unfold tryRecv
    split
    · rename_i payload response rest hch
      exact .drainSend payload response rest hw hch
    · rename_i rest hch
      exact .drainShutdown rest hw hch
    · rename_i hch
      exact .drainEmpty hw hch
  | flush outcome =>
    simp only [next, Option.ite_none_right_eq_some] at h
    obtain ⟨hw, h⟩ := h
    unfold flush at h
    split at h
    · rename_i hbuf
      cases h
      exact .flushNothing outcome hw hbuf
    · obtain ⟨payload, hbuf, rfl⟩ := Option.map_eq_some_iff.mp h
      exact .flush outcome payload hw hbuf

/-! ## Batches -/

/-- All payloads are of the type of the first one. -/
def Uniform : List OutboundPayload → Prop
  | [] => True
  | first :: rest => ∀ p ∈ rest, first.sameType p = true

/-- `push_payload` keeps the buffer uniform. -/
lemma uniform_of_pushPayload {buffer buffer' : List OutboundPayload} {p : OutboundPayload}
    (h : Uniform buffer) (hp : pushPayload buffer p = .ok buffer') : Uniform buffer' := by
  cases buffer with
  | nil =>
    obtain rfl : [p] = buffer' := by simpa [pushPayload] using hp
    simp [Uniform]
  | cons first rest =>
    simp only [pushPayload] at hp
    split at hp
    · rename_i hsame
      cases hp
      intro x hx
      rcases List.mem_append.mp hx with hx | hx
      · exact h x hx
      · rwa [List.mem_singleton.mp hx]
    · cases hp

/-- `mapM` over an option succeeds when every entry does. -/
lemma isSome_mapM {α β : Type} {f : α → Option β} {l : List α}
    (h : ∀ a ∈ l, (f a).isSome = true) : (l.mapM f).isSome = true := by
  induction l with
  | nil => rfl
  | cons a l ih =>
    obtain ⟨b, hb⟩ := Option.isSome_iff_exists.mp (h a List.mem_cons_self)
    obtain ⟨bs, hbs⟩ := Option.isSome_iff_exists.mp (ih fun x hx => h x (List.mem_cons_of_mem _ hx))
    simp [List.mapM_cons, hb, hbs]

/-- A uniform, non-empty buffer makes a batch. -/
lemma batch_isSome {buffer : List OutboundPayload} (h : Uniform buffer) (hne : buffer ≠ []) :
    (batch buffer).isSome = true := by
  cases buffer with
  | nil => exact absurd rfl hne
  | cons first rest =>
    cases first with
    | text t =>
      have hall : ∀ p ∈ rest, p.text?.isSome = true := by
        intro p hp
        have hsame := h p hp
        cases p with
        | text _ => rfl
        | binary _ => simp [OutboundPayload.sameType] at hsame
      simp only [batch, Option.isSome_map]
      exact isSome_mapM hall
    | binary b =>
      have hall : ∀ p ∈ rest, p.binary?.isSome = true := by
        intro p hp
        have hsame := h p hp
        cases p with
        | text _ => simp [OutboundPayload.sameType] at hsame
        | binary _ => rfl
      simp only [batch, Option.isSome_map]
      exact isSome_mapM hall

/-- A command the worker takes leaves a uniform buffer. -/
lemma uniform_take {q : TransportSendQueue} (h : Uniform q.buffer) (p : OutboundPayload)
    (r : Response) (n : SendLoop) : Uniform (q.take p r n).buffer := by
  unfold take
  split
  · rename_i buffer hp
    exact uniform_of_pushPayload h hp
  · exact h

/-- One step keeps the buffer uniform. -/
lemma uniform_next {q q' : TransportSendQueue} {a : Action} (h : Uniform q.buffer)
    (hstep : next q a = some q') : Uniform q'.buffer := by
  cases step_of_next hstep with
  | recvSend payload response rest =>
    exact uniform_take (q := { q with channel := rest }) h payload response .drain
  | drainSend payload response rest =>
    exact uniform_take (q := { q with channel := rest }) h payload response .drain
  | flushNothing outcome => trivial
  | flush outcome payload => trivial
  | _ => exact h

/-- A uniform buffer can be flushed. -/
lemma flush_isSome {q : TransportSendQueue} (h : Uniform q.buffer) (outcome : Except Error Unit)
    (hw : q.worker = .flush) : (next q (.flush outcome)).isSome = true := by
  simp only [next, hw, if_true, flush]
  by_cases hbuf : q.buffer = []
  · rw [if_pos hbuf]
    rfl
  · rw [if_neg hbuf, Option.isSome_map]
    exact batch_isSome h hbuf

/-- In every run the buffer is uniform, so a flush always has a batch. -/
theorem uniform_of_reachable {q : TransportSendQueue} (h : system.Reachable q) :
    Uniform q.buffer ∧ ∀ outcome, q.worker = .flush → (next q (.flush outcome)).isSome = true := by
  have hinit : Uniform system.init.buffer := trivial
  have hu : Uniform q.buffer := h.invariant (I := fun q => Uniform q.buffer) hinit
    fun _ _ _ hq hstep => uniform_next hq hstep
  exact ⟨hu, fun outcome hw => flush_isSome hu outcome hw⟩

/-! ## Stopping -/

/-- The worker waits for a command that nobody has sent. -/
def WaitsForCommand (q : TransportSendQueue) : Prop :=
  q.worker = .receive ∧ q.channel = [] ∧ q.alive = true

/-- No stop is lost: a worker that has taken a `Shutdown` has ended, and no caller of `stop` waits
for a worker that waits for a command. -/
structure StopKept (q : TransportSendQueue) : Prop where
  ends : q.shutdownTaken = true → q.worker = .ended
  served : q.stopping ≠ 0 → ¬ q.WaitsForCommand

/-- What the steps preserve: until the worker ends, a `Shutdown` for each caller of `stop` is in
the channel. -/
structure StopQueued (q : TransportSendQueue) : Prop where
  ends : q.shutdownTaken = true → q.worker = .ended
  queued : q.stopping ≠ 0 → q.worker = .ended ∨ .shutdown ∈ q.channel

/-- A queued stop is kept. -/
lemma StopQueued.stopKept {q : TransportSendQueue} (h : q.StopQueued) : q.StopKept := by
  refine ⟨h.ends, fun hs hw => ?_⟩
  obtain ⟨hrecv, hch, -⟩ := hw
  rcases h.queued hs with hended | hmem
  · rw [hrecv] at hended
    cases hended
  · simp [hch] at hmem

/-- The condition on a step: a drain does not find `Shutdown` at the head of the channel. -/
def DrainsNoShutdown (q : TransportSendQueue) (a : Action) : Prop :=
  a = .tryRecv → q.channel.head? ≠ some .shutdown

/-- Handling a `Send` leaves channel and stops alone. -/
lemma take_eq (q : TransportSendQueue) (p : OutboundPayload) (r : Response) (n : SendLoop) :
    (q.take p r n).channel = q.channel ∧ (q.take p r n).stopping = q.stopping ∧
      (q.take p r n).shutdownTaken = q.shutdownTaken := by
  unfold take
  split <;> exact ⟨rfl, rfl, rfl⟩

/-- The worker takes a `Send` while it has not ended. -/
lemma StopQueued.take {q : TransportSendQueue} (h : q.StopQueued) {p : OutboundPayload}
    {r : Response} {rest : List QueueCommand} (hw : q.worker ≠ .ended)
    (hch : q.channel = .send p r :: rest) (n : SendLoop) :
    ({ q with channel := rest }.take p r n).StopQueued := by
  obtain ⟨hc, hs, ht⟩ := take_eq { q with channel := rest } p r n
  refine ⟨fun htaken => ?_, fun hstop => .inr ?_⟩
  · rw [ht] at htaken
    exact absurd (h.ends htaken) hw
  · rw [hs] at hstop
    rw [hc]
    rcases h.queued hstop with hended | hmem
    · exact absurd hended hw
    · simpa [hch] using hmem

/-- **One step** under the condition.

**Proof sketch.** A `Send` leaves the `Shutdown` in the channel. A `Shutdown` is taken by `recv`,
which ends the worker, and by the condition not by the drain. Nothing else removes commands. -/
lemma stopQueued_next {q q' : TransportSendQueue} {a : Action} (h : q.StopQueued)
    (hok : DrainsNoShutdown q a) (hstep : next q a = some q') : q'.StopQueued := by
  have hnot : ∀ {w : SendLoop}, q.worker = w → w ≠ .ended → q.shutdownTaken ≠ true := by
    intro w hw hne ht
    exact hne (hw ▸ h.ends ht)
  cases step_of_next hstep with
  | sendRefused payload hended => exact ⟨h.ends, fun hs => .inl hended⟩
  | send payload hended =>
    refine ⟨h.ends, fun hs => ?_⟩
    rcases h.queued hs with hw | hmem
    · exact .inl hw
    · exact .inr (List.mem_append_left _ hmem)
  | stopRefused hended => exact ⟨h.ends, fun _ => .inl hended⟩
  | stop hended => exact ⟨h.ends, fun _ => .inr (by simp)⟩
  | stopReturn hended => exact ⟨h.ends, fun _ => .inl hended⟩
  | drop hstop => exact ⟨h.ends, h.queued⟩
  | recvSend payload response rest hw hch => exact h.take (by rw [hw]; decide) hch .drain
  | recvShutdown rest hw hch => exact ⟨fun _ => rfl, fun _ => .inl rfl⟩
  | recvClosed hw hch halive => exact ⟨fun _ => rfl, fun _ => .inl rfl⟩
  | drainSend payload response rest hw hch => exact h.take (by rw [hw]; decide) hch .drain
  | drainShutdown rest hw hch =>
    have := hok rfl
    simp [hch] at this
  | drainEmpty hw hch =>
    refine ⟨fun ht => absurd ht (hnot hw (by decide)), fun hs => ?_⟩
    rcases h.queued hs with hended | hmem
    · rw [hw] at hended
      cases hended
    · exact .inr hmem
  | flushNothing outcome hw hbuf =>
    refine ⟨fun ht => absurd ht (hnot hw (by decide)), fun hs => ?_⟩
    rcases h.queued hs with hended | hmem
    · rw [hw] at hended
      cases hended
    · exact .inr hmem
  | flush outcome payload hw hbuf =>
    refine ⟨fun ht => absurd ht (hnot hw (by decide)), fun hs => ?_⟩
    rcases h.queued hs with hended | hmem
    · rw [hw] at hended
      cases hended
    · exact .inr hmem

/-- **No stop is lost** in a run in which no drain finds `Shutdown` at the head of the channel. -/
theorem stopKept_of_meets {as : List Action} {q : TransportSendQueue}
    (hrun : system.run as = some q) (hm : system.Meets DrainsNoShutdown as) : q.StopKept := by
  have hinit : system.init.StopQueued := ⟨fun h => (by cases h), fun h => absurd rfl h⟩
  have h : q.StopQueued := Automata.System.invariant_of_meets hinit
    (fun _ _ _ hq hok hstep => stopQueued_next hq hok hstep) hrun hm
  exact h.stopKept

/-- A stop that reaches the worker behind a payload, in time for it to be waiting again. -/
theorem stopKept_of_meets_stopped :
    ∃ q, system.run [.send (.text "a"), .recv, .tryRecv, .stop, .flush (.ok ()), .recv] = some q ∧
      q.shutdownTaken = true ∧ q.StopKept := by
  have hrun : system.run [.send (.text "a"), .recv, .tryRecv, .stop, .flush (.ok ()), .recv] =
    some _ := rfl
  refine ⟨_, hrun, rfl, stopKept_of_meets hrun ?_⟩
  simp [Automata.System.Meets, DrainsNoShutdown, system, new, next, recv, take, pushPayload]

/-- **A stop can be lost**: a drain that finds `Shutdown` behind a payload takes it, and the worker
waits for a further command while a caller of `stop` waits for the worker. -/
theorem stop_lost : ¬ ∀ as q, system.run as = some q → q.StopKept := by
  intro h
  have hkept := h [.send (.text "a"), .stop, .recv, .tryRecv, .flush (.ok ())] _ rfl
  exact hkept.served (by decide) ⟨rfl, rfl, rfl⟩

/-- Whenever a drain takes a `Shutdown`, the worker waits for a further command after the flush,
whatever the outcome of the flush is. -/
lemma waits_of_drained_shutdown {q q' q'' : TransportSendQueue} {rest : List QueueCommand}
    {outcome : Except Error Unit} (hch : q.channel = .shutdown :: rest)
    (hdrain : next q .tryRecv = some q') (hflush : next q' (.flush outcome) = some q'') :
    q''.shutdownTaken = true ∧ q''.worker = .receive := by
  have htaken : q'.shutdownTaken = true := by
    cases step_of_next hdrain with
    | drainSend payload response rest' hw hch' => simp [hch] at hch'
    | drainShutdown rest' hw hch' => rfl
    | drainEmpty hw hch' => simp [hch] at hch'
  cases step_of_next hflush with
  | flushNothing outcome hw hbuf => exact ⟨htaken, rfl⟩
  | flush outcome payload hw hbuf => exact ⟨htaken, rfl⟩

end TransportSendQueue

end Signalrr.Transport
