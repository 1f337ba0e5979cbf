import Signalrr.Automata.Numbering
import Signalrr.Hub.Message

set_option relaxedAutoImplicit false
set_option autoImplicit false

/-!
# The message buffer of a stateful connection

`src/hub_connection/message_buffer.rs`: invocation-type messages get consecutive ids and stay in
the buffer until the peer acknowledges them; after a transport drop the peer is told the first
id that follows and gets the buffered messages again. The receiving side counts messages, skips
those it has seen and schedules acknowledgements.

Every function is the source function on the fields of the buffer. A function that writes to the
transport takes the outcome of the write as an argument and returns the frames it has written.

## Main definitions

* `Signalrr.HubConnection.MessageBuffer` — the fields of the buffer, with `send`, `ack`,
  `shouldProcessMessage`, `resetSequence`, `disconnected` and `resend`.
* `Signalrr.HubConnection.MessageBuffer.enqueue` — the part of `send` under the buffer lock.
* `Signalrr.HubConnection.MessageBuffer.keys` — ids and messages of the buffered items.

## Main results

* `Signalrr.HubConnection.MessageBuffer.keys_enqueue` — sending appends one numbered item.
* `Signalrr.HubConnection.MessageBuffer.keys_ack` — acknowledging `k` leaves exactly the items
  above `k`.
* `Signalrr.HubConnection.MessageBuffer.send_cases`, `resend_cases` — everything a send or a
  replay can do.

## Design

Ids and counters are integers without a bound: the source counts in `i64`, one per message sent
on a connection. A one-shot channel is named by a `Waiter`; the caller of `send` provides a fresh
one. The task that `schedule_ack_timer` spawns is part of the system around the buffer, here only
whether a task is spawned is returned.
-/

namespace Signalrr.HubConnection

open Hub Numbering

/-- `DEFAULT_STATEFUL_RECONNECT_BUFFER_SIZE`. -/
def defaultStatefulReconnectBufferSize : ℕ := 100000

/-- The name of a one-shot channel on which a sender waits for room in the buffer. -/
abbrev Waiter := ℕ

/-- `send_serialized`: a text frame has to be valid UTF-8 before the transport sees it. The
detail of the decoding error is left out of its text. -/
def sendSerialized (transferFormat : TransferFormat) (transport : Bytes → Except Error Unit)
    (payload : Bytes) : Except Error Unit :=
  match transferFormat with
  | .text =>
    if (ByteArray.mk payload.toArray).validateUTF8 then transport payload
    else .error (.protocol "invalid text payload")
  | .binary => transport payload

/-- `send_hub_message`: serializes and writes a message past the buffer. Returns what was written
and the result. -/
def sendHubMessage (protocol : HubProtocol) (transferFormat : TransferFormat)
    (transport : Bytes → Except Error Unit) (message : HubMessage) :
    List Frame × Except Error Unit :=
  match serialize protocol message with
  | .error error => ([], .error error)
  | .ok frame =>
    match sendSerialized transferFormat transport frame.payload with
    | .error error => ([], .error error)
    | .ok () => ([frame], .ok ())

/-- A buffered message with its id and the sender waiting for room, if any. -/
structure BufferedItem where
  message : Frame
  id : ℤ
  backpressure : Option Waiter

/-- The number of bytes an item takes in the buffer. -/
def BufferedItem.length (item : BufferedItem) : ℕ := item.message.payload.length

/-- Id and message of an item, without its waiter. -/
def BufferedItem.key (item : BufferedItem) : ℤ × Frame := (item.id, item.message)

/-- Buffer of invocation-type messages for stateful reconnect, with the counters of the receiving
side. -/
structure MessageBuffer where
  bufferSize : ℕ
  messages : List BufferedItem
  totalMessageCount : ℤ
  waitForSequenceMessage : Bool
  nextReceivingSequenceId : ℤ
  latestReceivedSequenceId : ℤ
  bufferedByteCount : ℕ
  reconnectInProgress : Bool
  ackScheduled : Bool

namespace MessageBuffer

/-- `MessageBuffer::new`. -/
def new (bufferSize : ℕ) : MessageBuffer where
  bufferSize := bufferSize
  messages := []
  totalMessageCount := 0
  waitForSequenceMessage := false
  nextReceivingSequenceId := 1
  latestReceivedSequenceId := 0
  bufferedByteCount := 0
  reconnectInProgress := false
  ackScheduled := false

/-- `disconnected`. -/
def disconnected (b : MessageBuffer) : MessageBuffer :=
  { b with reconnectInProgress := true, waitForSequenceMessage := true }

/-! ## Sending -/

/-- The effect of `send` on the buffer while it holds the buffer lock: an invocation-type message
gets the next id and is stored, with `waiter` when the buffer is full. -/
def enqueue (b : MessageBuffer) (frame : Frame) (waiter : Waiter) : MessageBuffer :=
  if isInvocationMessage frame.message then
    let id := b.totalMessageCount + 1
    let count := b.bufferedByteCount + frame.payload.length
    { b with
      totalMessageCount := id
      bufferedByteCount := count
      messages := b.messages ++
        [⟨frame, id, if b.bufferSize ≤ count then some waiter else none⟩] }
  else b

/-- The receiver `send` returns: the waiter, when the message was stored in a full buffer. -/
def backpressure (b : MessageBuffer) (frame : Frame) (waiter : Waiter) : Option Waiter :=
  if isInvocationMessage frame.message then
    if b.bufferSize ≤ b.bufferedByteCount + frame.payload.length then some waiter else none
  else none

/-- What `send` leaves behind: the buffer, the frames written and the result. -/
structure SendOutcome where
  buffer : MessageBuffer
  written : List Frame
  result : Except Error (Option Waiter)

/-- `send`: serialize, store under the lock, then write unless a reconnect is in progress. A
failed write marks the buffer disconnected. -/
def send (protocol : HubProtocol) (transferFormat : TransferFormat)
    (transport : Bytes → Except Error Unit) (message : HubMessage) (waiter : Waiter)
    (b : MessageBuffer) : SendOutcome :=
  match serialize protocol message with
  | .error error => ⟨b, [], .error error⟩
  | .ok frame =>
    let backpressureRx := b.backpressure frame waiter
    let b := b.enqueue frame waiter
    -- read under the lock, acted on after its release
    let sendNow := !b.reconnectInProgress
    if sendNow then
      match sendSerialized transferFormat transport frame.payload with
      | .error error => ⟨b.disconnected, [], .error error⟩
      | .ok () => ⟨b, [frame], .ok backpressureRx⟩
    else ⟨b, [], .ok backpressureRx⟩

/-! ## Acknowledging -/

/-- The state of the loop of `ack`: the items passed so far, the newest acknowledged id, the byte
count and the waiters that have been signalled. -/
structure AckLoop where
  items : List BufferedItem
  newest : Option ℤ
  count : ℕ
  fired : List Waiter

/-- The loop of `ack` over the remaining items, from the newest acknowledged id and byte count so
far. -/
def ackLoop (bufferSize : ℕ) (sequenceId : ℤ) : List BufferedItem → Option ℤ → ℕ → AckLoop
  | [], newest, count => ⟨[], newest, count, []⟩
  | item :: rest, newest, count =>
    if item.id ≤ sequenceId then
      let r := ackLoop bufferSize sequenceId rest (some item.id) (count - item.length)
      ⟨{ item with backpressure := none } :: r.items, r.newest, r.count,
        item.backpressure.toList ++ r.fired⟩
    else if count < bufferSize then
      let r := ackLoop bufferSize sequenceId rest newest count
      ⟨{ item with backpressure := none } :: r.items, r.newest, r.count,
        item.backpressure.toList ++ r.fired⟩
    else ⟨item :: rest, newest, count, []⟩

/-- The items that `retain` leaves after the loop. -/
def retained (newest : Option ℤ) (items : List BufferedItem) : List BufferedItem :=
  match newest with
  | some ackedId => items.filter fun item => ackedId < item.id
  | none => items

/-- `ack`: remove the acknowledged items and wake the senders for which there is room again. -/
def ack (b : MessageBuffer) (message : AckMessage) : MessageBuffer :=
  let r := ackLoop b.bufferSize message.sequenceId b.messages none b.bufferedByteCount
  { b with messages := retained r.newest r.items, bufferedByteCount := r.count }

/-- The waiters signalled by `ack`. -/
def ackFired (b : MessageBuffer) (message : AckMessage) : List Waiter :=
  (ackLoop b.bufferSize message.sequenceId b.messages none b.bufferedByteCount).fired

/-! ## Receiving -/

/-- `schedule_ack_timer`: the buffer, and whether a timer task was spawned. -/
def scheduleAckTimer (b : MessageBuffer) : MessageBuffer × Bool :=
  if b.ackScheduled then (b, false) else ({ b with ackScheduled := true }, true)

/-- What `should_process_message` returns and leaves behind. -/
structure ProcessOutcome where
  buffer : MessageBuffer
  /-- Whether the message is processed. -/
  process : Bool
  /-- Whether an ack timer task was spawned. -/
  timer : Bool

/-- `should_process_message`. -/
def shouldProcessMessage (b : MessageBuffer) (message : HubMessage) : ProcessOutcome :=
  if b.waitForSequenceMessage then ⟨b, message.sequenceId?.isSome, false⟩
  else if !isInvocationMessage message then ⟨b, true, false⟩
  else
    let currentId := b.nextReceivingSequenceId
    let b := { b with nextReceivingSequenceId := currentId + 1 }
    if currentId ≤ b.latestReceivedSequenceId then
      if currentId = b.latestReceivedSequenceId then
        ⟨b.scheduleAckTimer.1, false, b.scheduleAckTimer.2⟩
      else ⟨b, false, false⟩
    else
      let b := { b with latestReceivedSequenceId := currentId }
      ⟨b.scheduleAckTimer.1, true, b.scheduleAckTimer.2⟩

/-- `reset_sequence`. -/
def resetSequence (b : MessageBuffer) (message : SequenceMessage) : Except Error MessageBuffer :=
  if b.nextReceivingSequenceId < message.sequenceId then
    .error (.protocol "sequence ID greater than amount of messages we've received")
  else
    .ok { b with
      nextReceivingSequenceId := message.sequenceId
      waitForSequenceMessage := false }

/-! ## Replaying -/

/-- The id `resend` announces: that of the first buffered item, or of the next message. -/
def resendSequenceId (b : MessageBuffer) : ℤ :=
  match b.messages with
  | item :: _ => item.id
  | [] => b.totalMessageCount + 1

/-- The loop of `resend` over the items; the `k`-th write has outcome `transport k`. -/
def resendItems (transferFormat : TransferFormat) (transport : ℕ → Bytes → Except Error Unit) :
    ℕ → List BufferedItem → List Frame × Except Error Unit
  | _, [] => ([], .ok ())
  | k, item :: rest =>
    match sendSerialized transferFormat (transport k) item.message.payload with
    | .error error => ([], .error error)
    | .ok () =>
      let r := resendItems transferFormat transport (k + 1) rest
      (item.message :: r.1, r.2)

/-- What `resend` leaves behind: the buffer, the frames written and the result. -/
structure ResendOutcome where
  buffer : MessageBuffer
  written : List Frame
  result : Except Error Unit

/-- `resend`: the `Sequence` message, then the buffered messages; sending resumes when all of
them are written. -/
def resend (protocol : HubProtocol) (transferFormat : TransferFormat)
    (transport : ℕ → Bytes → Except Error Unit) (b : MessageBuffer) : ResendOutcome :=
  match sendHubMessage protocol transferFormat (transport 0)
      (.sequence ⟨b.resendSequenceId⟩) with
  | (frames, .error error) => ⟨b, frames, .error error⟩
  | (frames, .ok ()) =>
    match resendItems transferFormat transport 1 b.messages with
    | (items, .error error) => ⟨b, frames ++ items, .error error⟩
    | (items, .ok ()) => ⟨{ b with reconnectInProgress := false }, frames ++ items, .ok ()⟩

/-! ## What the operations do to the numbered items -/

/-- Ids and messages of the buffered items. -/
def keys (b : MessageBuffer) : List (ℤ × Frame) := b.messages.map BufferedItem.key

@[simp] lemma keys_new (n : ℕ) : (new n).keys = [] := rfl

@[simp] lemma enqueue_reconnectInProgress (b : MessageBuffer) (f : Frame) (w : Waiter) :
    (b.enqueue f w).reconnectInProgress = b.reconnectInProgress := by
  unfold enqueue
  split <;> rfl

@[simp] lemma enqueue_waitForSequenceMessage (b : MessageBuffer) (f : Frame) (w : Waiter) :
    (b.enqueue f w).waitForSequenceMessage = b.waitForSequenceMessage := by
  unfold enqueue
  split <;> rfl

@[simp] lemma enqueue_nextReceivingSequenceId (b : MessageBuffer) (f : Frame) (w : Waiter) :
    (b.enqueue f w).nextReceivingSequenceId = b.nextReceivingSequenceId := by
  unfold enqueue
  split <;> rfl

@[simp] lemma enqueue_latestReceivedSequenceId (b : MessageBuffer) (f : Frame) (w : Waiter) :
    (b.enqueue f w).latestReceivedSequenceId = b.latestReceivedSequenceId := by
  unfold enqueue
  split <;> rfl

/-- Storing an invocation-type message appends it under the next id. -/
lemma keys_enqueue {b : MessageBuffer} {f : Frame} (w : Waiter)
    (h : isInvocationMessage f.message = true) :
    (b.enqueue f w).keys = b.keys ++ [(b.totalMessageCount + 1, f)] := by
  simp [enqueue, h, keys, BufferedItem.key]

/-- Storing an invocation-type message takes the next id. -/
lemma totalMessageCount_enqueue {b : MessageBuffer} {f : Frame} (w : Waiter)
    (h : isInvocationMessage f.message = true) :
    (b.enqueue f w).totalMessageCount = b.totalMessageCount + 1 := by
  simp [enqueue, h]

/-- Other messages are not stored. -/
lemma enqueue_of_not_isInvocationMessage {b : MessageBuffer} {f : Frame} (w : Waiter)
    (h : isInvocationMessage f.message = false) : b.enqueue f w = b := by
  simp [enqueue, h]

/-- After `schedule_ack_timer` a timer is scheduled, and nothing else has changed. -/
lemma scheduleAckTimer_fst (b : MessageBuffer) :
    b.scheduleAckTimer.1 = { b with ackScheduled := true } := by
  cases h : b.ackScheduled with
  | true =>
    rw [scheduleAckTimer, if_pos h, ← h]
  | false => simp [scheduleAckTimer, h]

/-- `should_process_message` leaves the sending side of the buffer alone. -/
lemma shouldProcessMessage_sender (b : MessageBuffer) (m : HubMessage) :
    (b.shouldProcessMessage m).buffer.messages = b.messages ∧
    (b.shouldProcessMessage m).buffer.totalMessageCount = b.totalMessageCount ∧
    (b.shouldProcessMessage m).buffer.bufferSize = b.bufferSize ∧
    (b.shouldProcessMessage m).buffer.bufferedByteCount = b.bufferedByteCount ∧
    (b.shouldProcessMessage m).buffer.reconnectInProgress = b.reconnectInProgress := by
  simp only [shouldProcessMessage, scheduleAckTimer_fst]
  split_ifs <;> exact ⟨rfl, rfl, rfl, rfl, rfl⟩

/-- The loop of `ack` keeps ids and messages of the items it passes. -/
lemma keys_ackLoop (n : ℕ) (k : ℤ) (items : List BufferedItem) :
    ∀ (newest : Option ℤ) (count : ℕ),
      (ackLoop n k items newest count).items.map BufferedItem.key =
        items.map BufferedItem.key := by
  induction items with
  | nil => intro newest count; rfl
  | cons item rest ih =>
    intro newest count
    unfold ackLoop
    split
    · simp [ih, BufferedItem.key]
    · split
      · simp [ih, BufferedItem.key]
      · rfl

/-- On consecutively numbered items above `k` the loop of `ack` acknowledges nothing more. -/
lemma newest_ackLoop_of_le (n : ℕ) (k : ℤ) {items : List BufferedItem} {m : ℤ}
    (h : Numbered BufferedItem.id m items) (hk : k ≤ m) :
    ∀ (newest : Option ℤ) (count : ℕ), (ackLoop n k items newest count).newest = newest := by
  induction items generalizing m with
  | nil => intro newest count; rfl
  | cons item rest ih =>
    intro newest count
    obtain ⟨hid, hrest⟩ := h
    have hnot : ¬ item.id ≤ k := by omega
    unfold ackLoop
    rw [if_neg hnot]
    split
    · exact ih hrest (by omega) newest count
    · rfl

/-- On consecutively numbered items the loop of `ack` ends with the last id that is at most `k`.

**Proof sketch.** Induction on the items. The first item is acknowledged because its id is at
most `k`, and becomes the newest one; the loop then goes on with the rest, or nothing in the rest
is acknowledged (`newest_ackLoop_of_le`). -/
lemma newest_ackLoop (n : ℕ) (k : ℤ) {items : List BufferedItem} {m : ℤ}
    (h : Numbered BufferedItem.id m items) (hk : m < k) (hne : items ≠ []) :
    ∀ (newest : Option ℤ) (count : ℕ),
      (ackLoop n k items newest count).newest = some (min k (m + items.length)) := by
  induction items generalizing m with
  | nil => exact absurd rfl hne
  | cons item rest ih =>
    intro newest count
    obtain ⟨hid, hrest⟩ := h
    have hle : item.id ≤ k := by omega
    unfold ackLoop
    rw [if_pos hle]
    by_cases hlast : k ≤ m + 1
    · -- the first item is the only acknowledged one
      have hkm : k = m + 1 := by omega
      simp only [newest_ackLoop_of_le n k hrest hlast, hid]
      congr 1
      push_cast [List.length_cons]
      omega
    · cases rest with
      | nil =>
        simp only [ackLoop, hid]
        congr 1
        simp
        omega
      | cons item' rest' =>
        simp only [ih hrest (by omega) (List.cons_ne_nil _ _)]
        congr 1
        push_cast [List.length_cons]
        omega

/-- The items are numbered iff their keys are. -/
lemma numbered_keys_iff {m : ℤ} {items : List BufferedItem} :
    Numbered Prod.fst m (items.map BufferedItem.key) ↔ Numbered BufferedItem.id m items :=
  numbered_map BufferedItem.key m items

/-- Filtering items by id and filtering their keys agree. -/
lemma key_filter (a : ℤ) (items : List BufferedItem) :
    (items.filter fun item => a < item.id).map BufferedItem.key =
      (items.map BufferedItem.key).filter fun key => a < key.1 := by
  rw [List.filter_map]
  rfl

/-- **Acknowledging** `k` removes the items up to `k` and no others.

**Proof sketch.** The loop leaves ids and messages alone (`keys_ackLoop`) and finds the newest
acknowledged id (`newest_ackLoop`); the items above that id are a final segment
(`Numbered.filter_lt`). -/
lemma keys_ack {b : MessageBuffer} {m : ℤ} (h : Numbered Prod.fst m b.keys) (k : AckMessage) :
    (b.ack k).keys = b.keys.drop (k.sequenceId - m).toNat := by
  have hitems : Numbered BufferedItem.id m b.messages := numbered_keys_iff.mp h
  have hkeys := keys_ackLoop b.bufferSize k.sequenceId b.messages none b.bufferedByteCount
  simp only [keys, ack] at h ⊢
  by_cases hk : k.sequenceId ≤ m
  · rw [newest_ackLoop_of_le _ _ hitems hk]
    have hz : (k.sequenceId - m).toNat = 0 := by omega
    simp only [retained, hkeys, hz, List.drop_zero]
  · rcases eq_or_ne b.messages [] with hnil | hne
    · simp [hnil, ackLoop, retained]
    · rw [newest_ackLoop _ _ hitems (by omega) hne]
      simp only [retained, key_filter, hkeys]
      rw [h.filter_lt]
      rcases le_total k.sequenceId (m + b.messages.length) with hle | hle
      · rw [min_eq_left hle]
      · -- everything is acknowledged
        rw [min_eq_right hle, List.drop_eq_nil_of_le, List.drop_eq_nil_of_le]
        · simp only [List.length_map]
          omega
        · simp only [List.length_map]
          omega

/-- A replay of consecutively numbered items announces the id after the removed ones. -/
lemma resendSequenceId_eq {b : MessageBuffer} {m : ℤ} (h : Numbered Prod.fst m b.keys)
    (htotal : b.totalMessageCount = m + b.messages.length) : b.resendSequenceId = m + 1 := by
  unfold resendSequenceId
  cases hm : b.messages with
  | nil =>
    rw [hm] at htotal
    simpa using htotal
  | cons item rest =>
    have hitems : Numbered BufferedItem.id m b.messages := numbered_keys_iff.mp h
    rw [hm] at hitems
    exact hitems.1

/-- The loop of `resend` writes a first part of the items, all of them when it succeeds. -/
lemma resendItems_isPrefix (fmt : TransferFormat) (transport : ℕ → Bytes → Except Error Unit)
    (items : List BufferedItem) :
    ∀ k, (resendItems fmt transport k items).1 <+: items.map BufferedItem.message ∧
      ((resendItems fmt transport k items).2 = .ok () →
        (resendItems fmt transport k items).1 = items.map BufferedItem.message) := by
  induction items with
  | nil => intro k; simp [resendItems]
  | cons item rest ih =>
    intro k
    obtain ⟨hpfx, hall⟩ := ih (k + 1)
    unfold resendItems
    split
    · simp
    · refine ⟨?_, fun h => ?_⟩
      · simpa using hpfx
      · simp only at h ⊢
        rw [hall h]
        rfl

/-! ## What the operations can do -/

/-- The outcomes of `send`: the message cannot be serialized, it is stored while a reconnect is in
progress, it is stored and written, or it is stored and the write fails. -/
lemma send_cases (protocol : HubProtocol) (fmt : TransferFormat)
    (transport : Bytes → Except Error Unit) (m : HubMessage) (w : Waiter) (b : MessageBuffer) :
    (∃ e, serialize protocol m = .error e ∧
      b.send protocol fmt transport m w = ⟨b, [], .error e⟩) ∨
    ∃ f, serialize protocol m = .ok f ∧ f.message = m ∧
      ((b.reconnectInProgress = true ∧
        b.send protocol fmt transport m w = ⟨b.enqueue f w, [], .ok (b.backpressure f w)⟩) ∨
      (b.reconnectInProgress = false ∧ sendSerialized fmt transport f.payload = .ok () ∧
        b.send protocol fmt transport m w = ⟨b.enqueue f w, [f], .ok (b.backpressure f w)⟩) ∨
      (b.reconnectInProgress = false ∧ ∃ e, sendSerialized fmt transport f.payload = .error e ∧
        b.send protocol fmt transport m w = ⟨(b.enqueue f w).disconnected, [], .error e⟩)) := by
  cases hf : serialize protocol m with
  | error e => exact .inl ⟨e, rfl, by simp [send, hf]⟩
  | ok f =>
    refine .inr ⟨f, rfl, message_of_serialize hf, ?_⟩
    cases hr : b.reconnectInProgress with
    | true => exact .inl ⟨rfl, by simp [send, hf, hr]⟩
    | false =>
      cases hw : sendSerialized fmt transport f.payload with
      | ok _ => exact .inr <| .inl ⟨rfl, rfl, by simp [send, hf, hr, hw]⟩
      | error e => exact .inr <| .inr ⟨rfl, e, rfl, by simp [send, hf, hr, hw]⟩

/-- What `send_hub_message` writes: nothing, or the one frame of the message. -/
lemma sendHubMessage_cases (protocol : HubProtocol) (fmt : TransferFormat)
    (transport : Bytes → Except Error Unit) (m : HubMessage) :
    (∃ e, sendHubMessage protocol fmt transport m = ([], .error e)) ∨
    ∃ f : Frame, f.message = m ∧ sendHubMessage protocol fmt transport m = ([f], .ok ()) := by
  cases hf : serialize protocol m with
  | error e => exact .inl ⟨e, by simp [sendHubMessage, hf]⟩
  | ok f =>
    cases hw : sendSerialized fmt transport f.payload with
    | error e => exact .inl ⟨e, by simp [sendHubMessage, hf, hw]⟩
    | ok _ => exact .inr ⟨f, message_of_serialize hf, by simp [sendHubMessage, hf, hw]⟩

/-- The outcomes of `resend`: nothing is written, or the `Sequence` message and a first part of the
buffered messages, and only after all of them sending resumes. -/
lemma resend_cases (protocol : HubProtocol) (fmt : TransferFormat)
    (transport : ℕ → Bytes → Except Error Unit) (b : MessageBuffer) :
    ((b.resend protocol fmt transport).written = [] ∧
      (b.resend protocol fmt transport).buffer = b) ∨
    ∃ (f : Frame) (fs : List Frame), f.message = .sequence ⟨b.resendSequenceId⟩ ∧
      (b.resend protocol fmt transport).written = f :: fs ∧
      fs <+: b.messages.map BufferedItem.message ∧
      ((b.resend protocol fmt transport).buffer = b ∨
        (b.resend protocol fmt transport).buffer = { b with reconnectInProgress := false } ∧
          fs = b.messages.map BufferedItem.message) := by
  obtain ⟨hpfx, hall⟩ := resendItems_isPrefix fmt transport b.messages 1
  rcases sendHubMessage_cases protocol fmt (transport 0) (.sequence ⟨b.resendSequenceId⟩) with
    ⟨e, he⟩ | ⟨f, hf, hs⟩
  · exact .inl ⟨by simp [resend, he], by simp [resend, he]⟩
  · refine .inr ⟨f, (resendItems fmt transport 1 b.messages).1, hf, ?_, hpfx, ?_⟩
    · simp only [resend, hs]
      split <;> simp_all
    · cases hr : (resendItems fmt transport 1 b.messages).2 with
      | error e =>
        have hp : resendItems fmt transport 1 b.messages =
            ((resendItems fmt transport 1 b.messages).1, .error e) := Prod.ext rfl hr
        exact .inl (by simp only [resend, hs]; rw [hp])
      | ok _ =>
        have hp : resendItems fmt transport 1 b.messages =
            ((resendItems fmt transport 1 b.messages).1, .ok ()) := Prod.ext rfl hr
        exact .inr ⟨by simp only [resend, hs]; rw [hp], hall hr⟩

end MessageBuffer

end Signalrr.HubConnection
