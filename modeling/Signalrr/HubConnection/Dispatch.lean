import Signalrr.Automata.System
import Signalrr.Hub.MessageBus
import Signalrr.HubConnection.Link

set_option relaxedAutoImplicit false
set_option autoImplicit false

/-!
# Dispatch of received messages

`src/hub_connection/dispatch.rs`: a received message passes the buffer of a stateful connection
and then goes to the handlers of the client, to the calls that wait for an answer, or to the
buffer. A call by the server is answered with a `Completion`, which is written past the buffer.

## Main definitions

* `Signalrr.HubConnection.completionOf` — the answer to a call by the server.
* `Signalrr.HubConnection.DispatchContext.dispatch` — the effect of a received message.
* `Signalrr.HubConnection.DispatchContext.system` — sends, received messages and timers of one
  connection whose transport does not drop.
* `Signalrr.HubConnection.DispatchContext.Aligned` — the `n`-th invocation-type message written is
  the one stored under id `n`.

## Main results

* `Signalrr.HubConnection.DispatchContext.dispatch_buffer` — on the buffer, a received message has
  the effect it has in `Peer.dispatch`.
* `Signalrr.HubConnection.DispatchContext.aligned_of_meets` — ids and wire agree in runs in which
  no call by the server asks for an answer.
* `Signalrr.HubConnection.DispatchContext.not_aligned_of_reply` — they do not agree after an answer
  has been written while nothing is held back.

## Design

What handlers return is part of the action: `call h arguments` is the output of handler `h` for
this invocation, so handlers may keep state of their own. The events a context reports and the
frames it writes are recorded in order.
-/

namespace Signalrr.HubConnection

open Hub Numbering

/-! ## Answers to calls by the server -/

/-- The variables of the loop over the handlers. -/
structure HandlerLoop where
  result : Option Value := none
  handlerError : Option String := none
  multipleResults : Bool := false

/-- One round of the loop over the handlers. -/
def HandlerLoop.step (expectsResponse : Bool) (loop : HandlerLoop) (output : ClientMethodOutput) :
    HandlerLoop :=
  match output with
  | .ok (some value) =>
    if expectsResponse && loop.result.isSome then
      { loop with multipleResults := true, handlerError := none }
    else { loop with result := some value }
  | .ok none => loop
  | .error error =>
    if loop.multipleResults then loop else { loop with handlerError := some error }

/-- The answer after the loop. -/
def HandlerLoop.completion (loop : HandlerLoop) (invocationId : String) : CompletionMessage :=
  if loop.multipleResults then
    ⟨[], invocationId, some "Client provided multiple results.", none⟩
  else
    match loop.handlerError, loop.result with
    | some error, _ => ⟨[], invocationId, some error, none⟩
    | none, some value => ⟨[], invocationId, none, some value⟩
    | none, none => ⟨[], invocationId, some "Client didn't provide a result.", none⟩

/-- The `Completion` that `handle_invocation` sends, given the outputs of the handlers in the order
of their registration. -/
def completionOf (message : InvocationMessage) (outputs : List ClientMethodOutput) :
    Option CompletionMessage :=
  message.invocationId.map fun invocationId =>
    match outputs with
    | [] => ⟨[], invocationId, some "Client didn't provide a result.", none⟩
    | _ => (outputs.foldl (HandlerLoop.step true) {}).completion invocationId

/-! ## Contexts -/

/-- Why a transport closed, `TransportCloseInfo`. -/
structure TransportCloseInfo where
  error : Option String
  allowReconnect : Option Bool
  transportDropped : Bool
  deriving DecidableEq, Repr

/-- What received messages and sends of one connection work on. -/
structure DispatchContext (H : Type) where
  handlers : HandlerTable H
  pending : PendingTable
  messageBuffer : Option MessageBuffer
  transportCloseSignaled : Bool
  /-- `TransportEvent::Closed` events sent. -/
  transportEvents : List TransportCloseInfo
  /-- Results sent to waiting calls. -/
  deliveries : List Delivery
  /-- An ack timer task is pending. -/
  timer : Bool
  /-- The frames written to the transport. -/
  written : List Frame
  /-- The messages stored in the buffer, under their ids. -/
  stored : List (ℤ × Frame)

/-- What the sends of a connection share. -/
structure DispatchConfig where
  protocol : HubProtocol
  transferFormat : TransferFormat

namespace DispatchContext

variable {H : Type}

/-- `send_hub_message`, past the buffer. -/
def sendHubMessage (cfg : DispatchConfig) (ctx : DispatchContext H) (message : HubMessage)
    (outcome : Except Error Unit) : DispatchContext H × Except Error Unit :=
  let r := HubConnection.sendHubMessage cfg.protocol cfg.transferFormat (fun _ => outcome) message
  ({ ctx with written := ctx.written ++ r.1 }, r.2)

/-- `handle_invocation` with `send_completion`. -/
def handleInvocation (cfg : DispatchConfig) (ctx : DispatchContext H) (message : InvocationMessage)
    (call : H → Arguments → ClientMethodOutput) (outcome : Except Error Unit) :
    DispatchContext H × Except Error Unit :=
  let outputs := (ctx.handlers.handlersFor message.target).map fun h => call h message.arguments
  match completionOf message outputs with
  | some completion => ctx.sendHubMessage cfg (.completion completion) outcome
  | none => (ctx, .ok ())

/-- `handle_stream_item`. -/
def handleStreamItem (ctx : DispatchContext H) (message : StreamItemMessage) : DispatchContext H :=
  match message.invocationId with
  | none => ctx
  | some id =>
    { ctx with deliveries := ctx.deliveries ++ ctx.pending.sendStreamItem id (.ok message.item) }

/-- `handle_completion`. -/
def handleCompletion (ctx : DispatchContext H) (message : CompletionMessage) : DispatchContext H :=
  let result :=
    match message.error with
    | some error => .error error
    | none => .ok (message.result.getD .null)
  let r := ctx.pending.completeInvocation message.invocationId result
  { ctx with pending := r.1, deliveries := ctx.deliveries ++ r.2 }

/-- `handle_close`; the transport closes with `outcome`. -/
def handleClose (ctx : DispatchContext H) (message : CloseMessage) (outcome : Except Error Unit) :
    DispatchContext H × Except Error Unit :=
  let r := ctx.pending.cancelAllPending (message.error.getD invocationCanceledMessage)
  ({ ctx with
    pending := r.1
    deliveries := ctx.deliveries ++ r.2
    transportCloseSignaled := true
    transportEvents :=
      if ctx.transportCloseSignaled then ctx.transportEvents
      else ctx.transportEvents ++ [⟨message.error, message.allowReconnect, false⟩] }, outcome)

/-- `dispatch` behind `should_process_message`. -/
def process (cfg : DispatchConfig) (ctx : DispatchContext H) (message : HubMessage)
    (call : H → Arguments → ClientMethodOutput) (outcome : Except Error Unit) :
    DispatchContext H × Except Error Unit :=
  match message with
  | .invocation message => ctx.handleInvocation cfg message call outcome
  | .streamItem message => (ctx.handleStreamItem message, .ok ())
  | .completion message => (ctx.handleCompletion message, .ok ())
  | .ping => (ctx, .ok ())
  | .close message => ctx.handleClose message outcome
  | .ack message =>
    ({ ctx with messageBuffer := ctx.messageBuffer.map fun b => b.ack message }, .ok ())
  | .sequence message =>
    match ctx.messageBuffer with
    | none => (ctx, .ok ())
    | some buffer =>
      match buffer.resetSequence message with
      | .ok buffer => ({ ctx with messageBuffer := some buffer }, .ok ())
      | .error error => (ctx, .error error)
  | .streamInvocation _ | .cancelInvocation _ => (ctx, .ok ())

/-- `dispatch`. -/
def dispatch (cfg : DispatchConfig) (ctx : DispatchContext H) (message : HubMessage)
    (call : H → Arguments → ClientMethodOutput) (outcome : Except Error Unit) :
    DispatchContext H × Except Error Unit :=
  match ctx.messageBuffer with
  | none => ctx.process cfg message call outcome
  | some buffer =>
    let r := buffer.shouldProcessMessage message
    let ctx := { ctx with messageBuffer := some r.buffer, timer := ctx.timer || r.timer }
    if r.process then ctx.process cfg message call outcome else (ctx, .ok ())

/-! ## Runs -/

/-- The message stored by a send, under its id. -/
def storedBy (buffer : MessageBuffer) (frame : Frame) : List (ℤ × Frame) :=
  if isInvocationMessage frame.message then [(buffer.totalMessageCount + 1, frame)] else []

/-- `HubRuntime::send_with_backpressure`, on the way of every send, invocation, stream
cancellation and upload item. -/
def send (cfg : DispatchConfig) (ctx : DispatchContext H) (message : HubMessage) (waiter : Waiter)
    (outcome : Except Error Unit) : DispatchContext H × Except Error (Option Waiter) :=
  match ctx.messageBuffer with
  | none =>
    let r := ctx.sendHubMessage cfg message outcome
    (r.1, r.2.map fun _ => none)
  | some buffer =>
    let o := buffer.send cfg.protocol cfg.transferFormat (fun _ => outcome) message waiter
    let stored :=
      match serialize cfg.protocol message with
      | .ok frame => storedBy buffer frame
      | .error _ => []
    ({ ctx with
      messageBuffer := some o.buffer
      written := ctx.written ++ o.written
      stored := ctx.stored ++ stored }, o.result)

/-- The ack timer task wakes up. -/
def ackTimer (cfg : DispatchConfig) (ctx : DispatchContext H) (outcome : Except Error Unit) :
    DispatchContext H :=
  match ctx.messageBuffer with
  | none => ctx
  | some buffer =>
    let ctx :=
      { ctx with messageBuffer := some { buffer with ackScheduled := false }, timer := false }
    if buffer.reconnectInProgress then ctx
    else (ctx.sendHubMessage cfg (.ack ⟨buffer.latestReceivedSequenceId⟩) outcome).1

/-- What happens on a connection. -/
inductive Action (H : Type) where
  /-- A message is sent through the runtime. -/
  | send (message : HubMessage) (waiter : Waiter) (outcome : Except Error Unit)
  /-- A message is received; handlers return what `call` says, and a write or the close of the
  transport ends with `outcome`. -/
  | receive (message : HubMessage) (call : H → Arguments → ClientMethodOutput)
    (outcome : Except Error Unit)
  /-- The ack timer task wakes up. -/
  | ackTimer (outcome : Except Error Unit)
  /-- The keep-alive task writes a ping. -/
  | ping (outcome : Except Error Unit)
  /-- A handler is registered. -/
  | registerHandler (id : ℕ) (target : String) (handler : H)
  /-- A handler is removed. -/
  | removeHandler (target : String) (handlerId : Option ℕ)
  /-- A call starts to wait for an answer. -/
  | registerPending (id : String) (tx : ℕ)
  /-- A call starts to wait for a stream. -/
  | registerStream (id : String) (tx : ℕ)
  /-- A call stops waiting. -/
  | removePending (id : String)

/-- One step. -/
def next (cfg : DispatchConfig) (ctx : DispatchContext H) : Action H → Option (DispatchContext H)
  | .send message waiter outcome => some (ctx.send cfg message waiter outcome).1
  | .receive message call outcome => some (ctx.dispatch cfg message call outcome).1
  | .ackTimer outcome => if ctx.timer then some (ctx.ackTimer cfg outcome) else none
  | .ping outcome => some (ctx.sendHubMessage cfg .ping outcome).1
  | .registerHandler id target handler =>
    some { ctx with handlers := ctx.handlers.registerHandler id target handler }
  | .removeHandler target handlerId =>
    some { ctx with handlers := ctx.handlers.removeHandler target handlerId }
  | .registerPending id tx => some { ctx with pending := ctx.pending.registerPending id tx }
  | .registerStream id tx => some { ctx with pending := ctx.pending.registerStream id tx }
  | .removePending id => some { ctx with pending := (ctx.pending.removePending id).1 }

/-- A fresh connection with the given buffer. -/
def init (messageBuffer : Option MessageBuffer) : DispatchContext H where
  handlers := []
  pending := []
  messageBuffer := messageBuffer
  transportCloseSignaled := false
  transportEvents := []
  deliveries := []
  timer := false
  written := []
  stored := []

/-- The runs of a stateful connection whose transport does not drop. -/
def system (cfg : DispatchConfig) (bufferSize : ℕ) :
    Automata.System (DispatchContext H) (Action H) :=
  ⟨init (some (.new bufferSize)), next cfg⟩

/-! ## The effect on the buffer -/

/-- What `process` does to the buffer. -/
lemma process_messageBuffer (cfg : DispatchConfig) (ctx : DispatchContext H) (m : HubMessage)
    (call : H → Arguments → ClientMethodOutput) (outcome : Except Error Unit) :
    (ctx.process cfg m call outcome).1.messageBuffer = ctx.messageBuffer.map fun b =>
      match m with
      | .ack ack => b.ack ack
      | .sequence sequence => (b.resetSequence sequence).toOption.getD b
      | _ => b := by
  cases m with
  | invocation message =>
    simp only [process, handleInvocation]
    split <;> simp [sendHubMessage]
  | streamItem message =>
    simp only [process, handleStreamItem]
    split <;> simp
  | completion message => simp [process, handleCompletion]
  | ping => simp [process]
  | close message => simp [process, handleClose]
  | ack message => rfl
  | sequence message =>
    cases hb : ctx.messageBuffer with
    | none => simp [process, hb]
    | some b =>
      cases hr : b.resetSequence message with
      | ok b' => simp [process, hb, hr, Except.toOption]
      | error e => simp [process, hb, hr, Except.toOption]
  | streamInvocation message => simp [process]
  | cancelInvocation message => simp [process]

/-- On the buffer, a received message has the effect it has on an end of a `Link`. -/
theorem dispatch_buffer (cfg : DispatchConfig) {ctx : DispatchContext H} {x : Peer}
    (hx : ctx.messageBuffer = some x.buffer) (t : ℕ) (m : HubMessage)
    (call : H → Arguments → ClientMethodOutput) (outcome : Except Error Unit) :
    (ctx.dispatch cfg m call outcome).1.messageBuffer = some (x.dispatch t m).buffer := by
  simp only [dispatch, hx, Peer.dispatch]
  split
  · rw [process_messageBuffer]
    cases m with
    | sequence message =>
      dsimp only [Option.map_some]
      cases (x.buffer.shouldProcessMessage (.sequence message)).buffer.resetSequence message <;> rfl
    | ack message => rfl
    | _ => simp only [Option.map_some]; split <;> rfl
  · rfl

/-! ## Ids and wire -/

/-- The invocation-type messages written, in order. -/
def writtenInvocations (ctx : DispatchContext H) : List Frame :=
  ctx.written.filter fun f => isInvocationMessage f.message

/-- The `n`-th invocation-type message written is the one stored under id `n`. -/
def Aligned (ctx : DispatchContext H) : Prop :=
  ∀ (n : ℕ) (f : Frame), ctx.writtenInvocations[n]? = some f → ((n : ℤ) + 1, f) ∈ ctx.stored

/-- The condition on a step: a call by the server that passes the buffer asks for no answer. -/
def NoReply (ctx : DispatchContext H) (a : Action H) : Prop :=
  ∀ message call outcome, a = .receive (.invocation message) call outcome →
    (∀ b, ctx.messageBuffer = some b →
      (b.shouldProcessMessage (.invocation message)).process = true) →
    message.invocationId = none

/-- What the steps without answers preserve: the stored messages are numbered, those written are a
first part of them, and all of them while nothing is held back. -/
structure Tracked (ctx : DispatchContext H) (b : MessageBuffer) : Prop where
  buffer : ctx.messageBuffer = some b
  numbered : Numbered Prod.fst 0 ctx.stored
  total : b.totalMessageCount = ctx.stored.length
  written : ctx.writtenInvocations <+: ctx.stored.map Prod.snd
  all : b.reconnectInProgress = false → ctx.writtenInvocations = ctx.stored.map Prod.snd

/-- Numbered and written in order is aligned. -/
lemma Tracked.aligned {ctx : DispatchContext H} {b : MessageBuffer} (h : ctx.Tracked b) :
    ctx.Aligned := by
  intro n f hf
  obtain ⟨t, ht⟩ := h.written
  have hget : (ctx.stored.map Prod.snd)[n]? = some f := by
    rw [← ht]
    exact List.getElem?_append_left (List.getElem?_eq_some_iff.mp hf).1 ▸ hf
  rw [List.getElem?_map, Option.map_eq_some_iff] at hget
  obtain ⟨⟨k, g⟩, hk, rfl⟩ := hget
  have hnum := h.numbered.getElem? hk
  simp only at hnum
  rw [zero_add] at hnum
  rw [← hnum]
  exact List.mem_of_getElem? hk

/-- Writing something that is not of invocation type. -/
lemma writtenInvocations_append {ctx : DispatchContext H} {fs : List Frame}
    (h : ∀ f ∈ fs, isInvocationMessage f.message = false) :
    { ctx with written := ctx.written ++ fs }.writtenInvocations = ctx.writtenInvocations := by
  have hnil : fs.filter (fun f => isInvocationMessage f.message) = [] := by
    rw [List.filter_eq_nil_iff]
    intro f hf
    simp [h f hf]
  simp [writtenInvocations, hnil]

/-- What `send_hub_message` writes is the message it is given. -/
lemma sendHubMessage_written (cfg : DispatchConfig) (ctx : DispatchContext H) (m : HubMessage)
    (outcome : Except Error Unit) :
    ∃ fs, (ctx.sendHubMessage cfg m outcome).1 = { ctx with written := ctx.written ++ fs } ∧
      ∀ f ∈ fs, f.message = m := by
  rcases MessageBuffer.sendHubMessage_cases cfg.protocol cfg.transferFormat (fun _ => outcome) m
    with ⟨e, he⟩ | ⟨f, hf, he⟩
  · exact ⟨[], by simp [sendHubMessage, he], by simp⟩
  · exact ⟨[f], by simp [sendHubMessage, he], by simpa using hf⟩

/-- Writing a message that is not of invocation type changes nothing that is tracked. -/
lemma Tracked.sendHubMessage {ctx : DispatchContext H} {b : MessageBuffer} (h : ctx.Tracked b)
    (cfg : DispatchConfig) {m : HubMessage} (hm : isInvocationMessage m = false)
    (outcome : Except Error Unit) : (ctx.sendHubMessage cfg m outcome).1.Tracked b := by
  obtain ⟨fs, heq, hfs⟩ := sendHubMessage_written cfg ctx m outcome
  have hw : { ctx with written := ctx.written ++ fs }.writtenInvocations =
      ctx.writtenInvocations :=
    writtenInvocations_append fun f hf => by rw [hfs f hf]; exact hm
  rw [heq]
  exact ⟨h.buffer, h.numbered, h.total, hw ▸ h.written, hw ▸ h.all⟩

/-- A change of the buffer that leaves its ids and its flag alone. -/
lemma Tracked.of_buffer {ctx ctx' : DispatchContext H} {b b' : MessageBuffer} (h : ctx.Tracked b)
    (hb : ctx'.messageBuffer = some b') (ht : b'.totalMessageCount = b.totalMessageCount)
    (hr : b'.reconnectInProgress = b.reconnectInProgress) (hw : ctx'.written = ctx.written)
    (hs : ctx'.stored = ctx.stored) : ctx'.Tracked b' := by
  have hwi : ctx'.writtenInvocations = ctx.writtenInvocations := by
    rw [writtenInvocations, writtenInvocations, hw]
  refine ⟨hb, hs ▸ h.numbered, ?_, ?_, ?_⟩
  · rw [ht, hs]
    exact h.total
  · rw [hwi, hs]
    exact h.written
  · intro hf
    rw [hwi, hs]
    exact h.all (hr ▸ hf)

/-- A send through the runtime stores and writes the same message, or stores it only.

**Proof sketch.** The cases of `MessageBuffer.send_cases`. A message that is stored without being
written leaves a buffer that holds everything back from then on. -/
lemma Tracked.send {ctx : DispatchContext H} {b : MessageBuffer} (h : ctx.Tracked b)
    (cfg : DispatchConfig) (m : HubMessage) (w : Waiter) (outcome : Except Error Unit) :
    ∃ b', (ctx.send cfg m w outcome).1.Tracked b' := by
  simp only [DispatchContext.send, h.buffer]
  rcases MessageBuffer.send_cases cfg.protocol cfg.transferFormat (fun _ => outcome) m w b with
    ⟨e, hf, ho⟩ | ⟨f, hf, rfl, hcases⟩
  · refine ⟨b, h.of_buffer (by simp [ho]) rfl rfl (by simp [ho]) (by simp [hf])⟩
  · cases hinv : isInvocationMessage f.message with
    | false =>
      have henq := MessageBuffer.enqueue_of_not_isInvocationMessage (b := b) w hinv
      have hst : storedBy b f = [] := by simp [storedBy, hinv]
      rcases hcases with ⟨-, ho⟩ | ⟨-, -, ho⟩ | ⟨-, e, -, ho⟩
      · refine ⟨b, h.of_buffer (by simp [ho, henq]) rfl rfl (by simp [ho]) (by simp [hf, hst])⟩
      · have hw : { ctx with written := ctx.written ++ [f] }.writtenInvocations =
            ctx.writtenInvocations := writtenInvocations_append (by simpa using hinv)
        simp only [ho, hf, henq, hst, List.append_nil]
        refine ⟨b, rfl, h.numbered, h.total, ?_, fun hr => ?_⟩
        · exact hw ▸ h.written
        · exact hw ▸ h.all hr
      · simp only [ho, hf, henq, hst, List.append_nil]
        exact ⟨b.disconnected, rfl, h.numbered, h.total, h.written, fun hr => by cases hr⟩
    | true =>
      have htot := MessageBuffer.totalMessageCount_enqueue (b := b) w hinv
      have hst : storedBy b f = [(b.totalMessageCount + 1, f)] := by simp [storedBy, hinv]
      have hnum : Numbered Prod.fst 0 (ctx.stored ++ [(b.totalMessageCount + 1, f)]) := by
        refine h.numbered.concat ?_
        rw [h.total]
        ring
      have htotal : (b.enqueue f w).totalMessageCount =
          ((ctx.stored ++ [(b.totalMessageCount + 1, f)]).length : ℤ) := by
        rw [htot, h.total]
        simp
      have hpfx : ctx.writtenInvocations <+:
          (ctx.stored ++ [(b.totalMessageCount + 1, f)]).map Prod.snd := by
        rw [List.map_append]
        exact h.written.trans (List.prefix_append _ _)
      rcases hcases with ⟨hr, ho⟩ | ⟨hr, -, ho⟩ | ⟨-, e, -, ho⟩
      all_goals simp only [ho, hf, hst, List.append_nil]
      · refine ⟨b.enqueue f w, rfl, hnum, htotal, hpfx, fun hr' => ?_⟩
        rw [MessageBuffer.enqueue_reconnectInProgress, hr] at hr'
        cases hr'
      · have hall : { ctx with written := ctx.written ++ [f] }.writtenInvocations =
            (ctx.stored ++ [(b.totalMessageCount + 1, f)]).map Prod.snd := by
          rw [List.map_append, ← h.all hr]
          simp [writtenInvocations, hinv]
        exact ⟨b.enqueue f w, rfl, hnum, htotal, hall ▸ List.prefix_rfl, fun _ => hall⟩
      · exact ⟨(b.enqueue f w).disconnected, rfl, hnum, htotal, hpfx, fun hr' => by cases hr'⟩

/-- A call by the server that asks for no answer, and every other message, writes nothing. -/
lemma process_written (cfg : DispatchConfig) (ctx : DispatchContext H) {m : HubMessage}
    (hm : ∀ message, m = .invocation message → message.invocationId = none)
    (call : H → Arguments → ClientMethodOutput) (outcome : Except Error Unit) :
    (ctx.process cfg m call outcome).1.written = ctx.written ∧
      (ctx.process cfg m call outcome).1.stored = ctx.stored := by
  cases m with
  | invocation message =>
    have hnone : ∀ outputs, completionOf message outputs = none := by
      intro outputs
      simp [completionOf, hm message rfl]
    simp [process, handleInvocation, hnone]
  | streamItem message =>
    simp only [process, handleStreamItem]
    split <;> exact ⟨rfl, rfl⟩
  | sequence message =>
    simp only [process]
    split
    · exact ⟨rfl, rfl⟩
    · split <;> exact ⟨rfl, rfl⟩
  | _ => exact ⟨rfl, rfl⟩

/-- What `process` leaves of the ids and the flag of the buffer. -/
lemma Tracked.process {ctx : DispatchContext H} {b : MessageBuffer} (h : ctx.Tracked b)
    (cfg : DispatchConfig) {m : HubMessage}
    (hm : ∀ message, m = .invocation message → message.invocationId = none)
    (call : H → Arguments → ClientMethodOutput) (outcome : Except Error Unit) :
    ∃ b', (ctx.process cfg m call outcome).1.Tracked b' := by
  obtain ⟨hw, hs⟩ := process_written cfg ctx hm call outcome
  have hb := process_messageBuffer cfg ctx m call outcome
  rw [h.buffer, Option.map_some] at hb
  refine ⟨_, h.of_buffer hb ?_ ?_ hw hs⟩
  · cases m with
    | sequence message =>
      dsimp only [MessageBuffer.resetSequence]
      split <;> rfl
    | _ => rfl
  · cases m with
    | sequence message =>
      dsimp only [MessageBuffer.resetSequence]
      split <;> rfl
    | _ => rfl

/-- A received message that is not answered. -/
lemma Tracked.dispatch {ctx : DispatchContext H} {b : MessageBuffer} (h : ctx.Tracked b)
    (cfg : DispatchConfig) {m : HubMessage} (call : H → Arguments → ClientMethodOutput)
    (outcome : Except Error Unit) (hok : NoReply ctx (.receive m call outcome)) :
    ∃ b', (ctx.dispatch cfg m call outcome).1.Tracked b' := by
  obtain ⟨-, htotal, -, -, hrip⟩ := MessageBuffer.shouldProcessMessage_sender b m
  have hskip : { ctx with
      messageBuffer := some (b.shouldProcessMessage m).buffer
      timer := ctx.timer || (b.shouldProcessMessage m).timer }.Tracked
        (b.shouldProcessMessage m).buffer :=
    h.of_buffer rfl htotal hrip rfl rfl
  simp only [DispatchContext.dispatch, h.buffer]
  split
  · rename_i hp
    refine hskip.process cfg (fun message hmsg => ?_) call outcome
    refine hok message call outcome (by rw [hmsg]) fun b' hb' => ?_
    obtain rfl : b = b' := by simpa [h.buffer] using hb'
    rwa [hmsg] at hp
  · exact ⟨_, hskip⟩

/-- **One step** without an answer. -/
lemma tracked_next {cfg : DispatchConfig} {ctx ctx' : DispatchContext H} {a : Action H}
    (h : ∃ b, ctx.Tracked b) (hok : NoReply ctx a) (hstep : next cfg ctx a = some ctx') :
    ∃ b, ctx'.Tracked b := by
  obtain ⟨b, h⟩ := h
  cases a with
  | send message waiter outcome =>
    obtain rfl : _ = ctx' := by simpa [next] using hstep
    exact h.send cfg message waiter outcome
  | receive message call outcome =>
    obtain rfl : _ = ctx' := by simpa [next] using hstep
    exact h.dispatch cfg call outcome hok
  | ackTimer outcome =>
    simp only [next, Option.ite_none_right_eq_some, Option.some.injEq] at hstep
    obtain ⟨-, rfl⟩ := hstep
    have hfree : { ctx with
        messageBuffer := some { b with ackScheduled := false }, timer := false }.Tracked
          { b with ackScheduled := false } := h.of_buffer rfl rfl rfl rfl rfl
    simp only [ackTimer, h.buffer]
    split
    · exact ⟨_, hfree⟩
    · exact ⟨_, hfree.sendHubMessage cfg rfl outcome⟩
  | ping outcome =>
    obtain rfl : _ = ctx' := by simpa [next] using hstep
    exact ⟨b, h.sendHubMessage cfg rfl outcome⟩
  | _ =>
    obtain rfl : _ = ctx' := by simpa [next] using hstep
    exact ⟨b, h.of_buffer h.buffer rfl rfl rfl rfl⟩

/-- **Ids and wire agree** in runs in which no call by the server asks for an answer. -/
theorem aligned_of_meets (cfg : DispatchConfig) (bufferSize : ℕ) {as : List (Action H)}
    {ctx : DispatchContext H} (hrun : (system cfg bufferSize).run as = some ctx)
    (hm : (system cfg bufferSize).Meets NoReply as) : ctx.Aligned := by
  have hinit : ∃ b,
      (system cfg bufferSize : Automata.System (DispatchContext H) _).init.Tracked b :=
    ⟨.new bufferSize, rfl, trivial, rfl, List.prefix_rfl, fun _ => rfl⟩
  obtain ⟨b, hb⟩ := Automata.System.invariant_of_meets
    (I := fun ctx : DispatchContext H => ∃ b, ctx.Tracked b) hinit
    (fun _ _ _ h hok hstep => tracked_next h hok hstep) hrun hm
  exact hb.aligned

/-- A call by the server without an invocation id runs the handlers and is not answered. -/
theorem aligned_of_meets_notification :
    ∃ ctx : DispatchContext Unit,
      (system ⟨.typeOnly, .binary⟩ defaultStatefulReconnectBufferSize).run
        [.registerHandler 1 "update" (),
          .receive (.invocation ⟨[], none, "Update", .json [], none⟩)
            (fun _ _ => .ok (some .null)) (.ok ()),
          .send (.cancelInvocation ⟨[], "1"⟩) 0 (.ok ())] = some ctx ∧
      ctx.writtenInvocations.length = 1 ∧ ctx.Aligned := by
  have hrun : (system ⟨.typeOnly, .binary⟩ defaultStatefulReconnectBufferSize).run
    [.registerHandler 1 "update" (),
      .receive (.invocation ⟨[], none, "Update", .json [], none⟩)
        (fun _ _ => .ok (some .null)) (.ok ()),
      .send (.cancelInvocation ⟨[], "1"⟩) 0 (.ok ())] = some _ := rfl
  refine ⟨_, hrun, rfl, aligned_of_meets _ _ hrun ?_⟩
  refine Automata.System.meetsFrom_cons_of_next _ rfl (by rintro _ _ _ ⟨⟩) ?_
  refine Automata.System.meetsFrom_cons_of_next _ rfl (by rintro _ _ _ ⟨⟩ _; rfl) ?_
  exact Automata.System.meetsFrom_cons_of_next _ rfl (by rintro _ _ _ ⟨⟩) (by trivial)

/-- **Ids and wire can drift apart**: the answer to a call by the server is the first
invocation-type message on the wire, and nothing is stored under id 1. -/
theorem not_aligned : ¬ ∀ (cfg : DispatchConfig) (bufferSize : ℕ) (as : List (Action Unit)) ctx,
    (system cfg bufferSize).run as = some ctx → ctx.Aligned := by
  intro h
  have halign := h ⟨.typeOnly, .binary⟩ defaultStatefulReconnectBufferSize
    [.receive (.invocation ⟨[], some "7", "ask", .json [], none⟩) (fun _ _ => .ok none)
      (.ok ())] _ rfl
  have hmem := halign 0 _ rfl
  cases hmem

/-- An answer that is written while nothing is held back is on the wire without an id. -/
lemma not_aligned_of_reply {ctx : DispatchContext H} {b : MessageBuffer}
    (h : ctx.Tracked b) (hr : b.reconnectInProgress = false) {f : Frame}
    (hf : isInvocationMessage f.message = true) :
    ¬ { ctx with written := ctx.written ++ [f] }.Aligned := by
  intro halign
  have hwi : { ctx with written := ctx.written ++ [f] }.writtenInvocations =
      ctx.writtenInvocations ++ [f] := by
    simp [writtenInvocations, hf]
  have hlen : ctx.writtenInvocations.length = ctx.stored.length := by
    rw [h.all hr, List.length_map]
  have hmem := halign ctx.writtenInvocations.length f (by rw [hwi]; simp)
  obtain ⟨k, hk⟩ := List.mem_iff_getElem?.mp hmem
  have hnum := h.numbered.getElem? hk
  have hlt : k < ctx.stored.length := (List.getElem?_eq_some_iff.mp hk).1
  simp only at hnum
  rw [hlen] at hnum
  omega

end DispatchContext

end Signalrr.HubConnection
