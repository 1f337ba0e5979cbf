import Mathlib.Data.List.Perm.Basic
import Signalrr.Automata.System
import Signalrr.HubConnection.ConcurrentSend

set_option relaxedAutoImplicit false
set_option autoImplicit false

/-!
# Runs of the operations of a message buffer

Any sequence of `send`, `ack`, `disconnected` and `resend` on one `MessageBuffer` of
`src/hub_connection/message_buffer.rs`, each of them one step. The buffer keeps the last of the
messages it has numbered, and the bytes they take; a sender that finds the buffer full gets a
one-shot channel that `ack` signals.

## Main definitions

* `Signalrr.HubConnection.BufferUse` — a buffer with the channels it has opened and signalled.
* `Signalrr.HubConnection.MessageBuffer.Represents` — ids and byte count of the buffered items.
* `Signalrr.HubConnection.MessageBuffer.WritesInOrder` — frames written until a write fails.
* `Signalrr.HubConnection.BufferUse.WaitersKept` — where the channels are.

## Main results

* `Signalrr.HubConnection.MessageBuffer.ackLoop_eq`, `ack_messages`, `ackFired_eq` — what `ack` does
  to consecutively numbered items.
* `Signalrr.HubConnection.MessageBuffer.resend_written` — what `resend` writes.
* `Signalrr.HubConnection.BufferUse.represents_of_reachable` — ids, byte count, `ack` and `resend`
  in every run.
* `Signalrr.HubConnection.BufferUse.waiters_of_reachable` — who waits in every run.

## Design

The one-shot channels of a run are numbered in the order in which `send` opens them, so that a
channel is open when its number is below the number of channels opened so far. `ack` takes a channel
out of its item when it signals it, as `Option::take` does.
-/

namespace Signalrr.HubConnection

open Hub Numbering

/-- An item whose sender does not wait any more. -/
def BufferedItem.release (item : BufferedItem) : BufferedItem := { item with backpressure := none }

@[simp] lemma BufferedItem.length_release (item : BufferedItem) :
    item.release.length = item.length := rfl

@[simp] lemma BufferedItem.id_release (item : BufferedItem) : item.release.id = item.id := rfl

/-- The bytes of items. -/
def byteCount (items : List BufferedItem) : ℕ := (items.map BufferedItem.length).sum

/-- The channels on which the senders of items wait. -/
def waitersOf (items : List BufferedItem) : List Waiter := items.filterMap BufferedItem.backpressure

@[simp] lemma byteCount_nil : byteCount [] = 0 := rfl

@[simp] lemma byteCount_cons (item : BufferedItem) (items : List BufferedItem) :
    byteCount (item :: items) = item.length + byteCount items := by simp [byteCount]

@[simp] lemma byteCount_append (items items' : List BufferedItem) :
    byteCount (items ++ items') = byteCount items + byteCount items' := by simp [byteCount]

@[simp] lemma byteCount_map_release (items : List BufferedItem) :
    byteCount (items.map BufferedItem.release) = byteCount items := by
  simp [byteCount, Function.comp_def]

@[simp] lemma waitersOf_nil : waitersOf [] = [] := rfl

@[simp] lemma waitersOf_cons (item : BufferedItem) (items : List BufferedItem) :
    waitersOf (item :: items) = item.backpressure.toList ++ waitersOf items := by
  cases h : item.backpressure <;> simp [waitersOf, h]

@[simp] lemma waitersOf_append (items items' : List BufferedItem) :
    waitersOf (items ++ items') = waitersOf items ++ waitersOf items' := by simp [waitersOf]

@[simp] lemma waitersOf_map_release (items : List BufferedItem) :
    waitersOf (items.map BufferedItem.release) = [] := by
  simp [waitersOf, BufferedItem.release, Function.comp_def]

/-- A waiter belongs to one of the items. -/
lemma mem_waitersOf {items : List BufferedItem} {w : Waiter} :
    w ∈ waitersOf items ↔ ∃ item ∈ items, item.backpressure = some w := by
  simp [waitersOf]

namespace MessageBuffer

/-! ## Acknowledging numbered items -/

/-- The items an acknowledgement of `k` removes from items numbered above `m`. -/
def acked (k m : ℤ) (items : List BufferedItem) : List BufferedItem := items.take (k - m).toNat

/-- The items it leaves. -/
def unacked (k m : ℤ) (items : List BufferedItem) : List BufferedItem := items.drop (k - m).toNat

/-- The items it leaves, without their waiters when there is room. -/
def left (bufferSize : ℕ) (k m : ℤ) (items : List BufferedItem) (count : ℕ) : List BufferedItem :=
  if count - byteCount (acked k m items) < bufferSize then
    (unacked k m items).map BufferedItem.release
  else unacked k m items

/-- **The loop of `ack`** on consecutively numbered items: it takes the channels of the acknowledged
items, and those of all others when there is room afterwards.

**Proof sketch.** Induction on the items. An acknowledged item lowers the count and the threshold by
one item; from the first item above `k` on, the count does not change, so either every channel is
taken or none. -/
lemma ackLoop_eq (n : ℕ) (k : ℤ) {items : List BufferedItem} {m : ℤ}
    (h : Numbered BufferedItem.id m items) :
    ∀ (newest : Option ℤ) (count : ℕ),
      (ackLoop n k items newest count).items =
        (acked k m items).map BufferedItem.release ++ left n k m items count ∧
      (ackLoop n k items newest count).count = count - byteCount (acked k m items) ∧
      (ackLoop n k items newest count).fired = waitersOf (acked k m items) ++
        if count - byteCount (acked k m items) < n then waitersOf (unacked k m items) else [] := by
  induction items generalizing m with
  | nil => intro newest count; simp [ackLoop, acked, unacked, left]
  | cons item rest ih =>
    intro newest count
    obtain ⟨hid, hrest⟩ := h
    unfold ackLoop
    by_cases hle : item.id ≤ k
    · obtain ⟨j, hj⟩ : ∃ j : ℕ, (k - m).toNat = j + 1 := ⟨(k - m).toNat - 1, by omega⟩
      have hj' : (k - (m + 1)).toNat = j := by omega
      obtain ⟨hi, hc, hf⟩ := ih hrest (some item.id) (count - item.length)
      simp only [acked, unacked, left, hj'] at hi hc hf
      simp only [if_pos hle, hi, hc, hf, acked, unacked, left, hj, List.take_succ_cons,
        List.drop_succ_cons, List.map_cons, byteCount_cons, waitersOf_cons, Nat.sub_sub,
        List.append_assoc, List.cons_append, and_true]
      rfl
    · have hj : (k - m).toNat = 0 := by omega
      have hj' : (k - (m + 1)).toNat = 0 := by omega
      obtain ⟨hi, hc, hf⟩ := ih hrest newest count
      simp only [acked, unacked, left, hj', List.take_zero, List.drop_zero, byteCount_nil,
        Nat.sub_zero, List.map_nil, List.nil_append, waitersOf_nil] at hi hc hf
      simp only [if_neg hle, acked, unacked, left, hj, List.take_zero, List.drop_zero,
        byteCount_nil, Nat.sub_zero, List.map_nil, List.nil_append, waitersOf_nil]
      by_cases hroom : count < n
      · simp only [if_pos hroom, hi, hc, hf, List.map_cons, waitersOf_cons, and_true]
        rfl
      · simp only [if_neg hroom, and_self]

/-- What `ack` leaves in the buffer.

**Proof sketch.** The newest acknowledged id is that of the last item the loop has passed, so
`retain` removes exactly the acknowledged items. -/
lemma ack_messages {b : MessageBuffer} {m : ℤ} (h : Numbered BufferedItem.id m b.messages)
    (k : AckMessage) :
    (b.ack k).messages = left b.bufferSize k.sequenceId m b.messages b.bufferedByteCount := by
  obtain ⟨hitems, -, -⟩ := ackLoop_eq b.bufferSize k.sequenceId h none b.bufferedByteCount
  have hkeys := keys_ackLoop b.bufferSize k.sequenceId b.messages none b.bufferedByteCount
  simp only [ack]
  by_cases hk : k.sequenceId ≤ m
  · rw [newest_ackLoop_of_le _ _ h hk, retained, hitems]
    have hz : (k.sequenceId - m).toNat = 0 := by omega
    simp [acked, hz]
  · rcases eq_or_ne b.messages [] with hnil | hne
    · simp [hnil, ackLoop, retained, left, unacked]
    · rw [newest_ackLoop _ _ h (by omega) hne]
      have hnum : Numbered BufferedItem.id m
          (ackLoop b.bufferSize k.sequenceId b.messages none b.bufferedByteCount).items := by
        rw [← numbered_keys_iff, hkeys]
        exact numbered_keys_iff.mpr h
      simp only [retained]
      rw [hnum.filter_lt, hitems]
      refine List.drop_left' ?_
      simp only [acked, List.length_map, List.length_take]
      omega

/-- The byte count after `ack`. -/
lemma ack_bufferedByteCount {b : MessageBuffer} {m : ℤ}
    (h : Numbered BufferedItem.id m b.messages) (k : AckMessage) :
    (b.ack k).bufferedByteCount =
      b.bufferedByteCount - byteCount (acked k.sequenceId m b.messages) :=
  (ackLoop_eq b.bufferSize k.sequenceId h none b.bufferedByteCount).2.1

/-- The channels `ack` signals. -/
lemma ackFired_eq {b : MessageBuffer} {m : ℤ} (h : Numbered BufferedItem.id m b.messages)
    (k : AckMessage) :
    b.ackFired k = waitersOf (acked k.sequenceId m b.messages) ++
      if (b.ack k).bufferedByteCount < b.bufferSize then
        waitersOf (unacked k.sequenceId m b.messages) else [] := by
  rw [ack_bufferedByteCount h]
  exact (ackLoop_eq b.bufferSize k.sequenceId h none b.bufferedByteCount).2.2

/-! ## Ids and bytes -/

/-- The buffered items carry the last ids given out, and the byte count is that of the items. -/
structure Represents (b : MessageBuffer) : Prop where
  numbered : Numbered BufferedItem.id (b.totalMessageCount - b.messages.length) b.messages
  bytes : b.bufferedByteCount = byteCount b.messages

variable {b : MessageBuffer}

/-- A fresh buffer. -/
lemma represents_new (n : ℕ) : (new n).Represents := ⟨trivial, rfl⟩

/-- Storing a message. -/
lemma Represents.enqueue (h : b.Represents) (f : Frame) (w : Waiter) :
    (b.enqueue f w).Represents := by
  cases hf : isInvocationMessage f.message with
  | false => rwa [enqueue_of_not_isInvocationMessage w hf]
  | true =>
    have hbytes := h.bytes
    simp only [MessageBuffer.enqueue, hf, if_true]
    refine ⟨?_, ?_⟩
    · have hbase : b.totalMessageCount + 1 - ((b.messages.length + 1 : ℕ) : ℤ) =
          b.totalMessageCount - b.messages.length := by
        push_cast
        ring
      rw [List.length_append, List.length_singleton, hbase]
      refine h.numbered.concat ?_
      dsimp only
      ring
    · rw [byteCount_append, hbytes]
      rfl

/-- `disconnected` leaves the items alone. -/
lemma Represents.disconnected (h : b.Represents) : b.disconnected.Represents :=
  ⟨h.numbered, h.bytes⟩

/-- The items that `ack` leaves are numbered from the first unacknowledged one on. -/
lemma numbered_left {items : List BufferedItem} {m : ℤ} (h : Numbered BufferedItem.id m items)
    (n : ℕ) (k : ℤ) (count : ℕ) :
    Numbered BufferedItem.id (m + items.length - (left n k m items count).length)
      (left n k m items count) := by
  have hun : Numbered BufferedItem.id (m + items.length - (unacked k m items).length)
      (unacked k m items) := by
    rw [unacked, List.length_drop]
    rcases le_total (k - m).toNat items.length with hle | hle
    · have hbase : m + items.length - ((items.length - (k - m).toNat : ℕ) : ℤ) =
          m + ((k - m).toNat : ℕ) := by
        rw [Nat.cast_sub hle]
        ring
      rw [hbase]
      exact h.drop _ hle
    · rw [List.drop_eq_nil_of_le hle]
      trivial
  rw [left]
  split
  · rw [List.length_map, numbered_map]
    exact hun
  · exact hun

/-- Acknowledging. The byte count covers the acknowledged items, so nothing is cut off. -/
lemma Represents.ack (h : b.Represents) (k : AckMessage) : (b.ack k).Represents := by
  have hmsgs := ack_messages h.numbered k
  refine ⟨?_, ?_⟩
  · have hnum := numbered_left h.numbered b.bufferSize k.sequenceId b.bufferedByteCount
    rw [sub_add_cancel, ← hmsgs] at hnum
    exact hnum
  · have hsplit : byteCount b.messages =
        byteCount (acked k.sequenceId (b.totalMessageCount - b.messages.length) b.messages) +
          byteCount (unacked k.sequenceId (b.totalMessageCount - b.messages.length)
            b.messages) := by
      rw [← byteCount_append, acked, unacked, List.take_append_drop]
    rw [ack_bufferedByteCount h.numbered k, hmsgs, h.bytes, hsplit, left]
    split <;> simp

/-- What a successful or failed `send` does to the buffer. -/
lemma send_buffer_cases (protocol : HubProtocol) (fmt : TransferFormat)
    (transport : Bytes → Except Error Unit) (m : HubMessage) (w : Waiter) (b : MessageBuffer) :
    (∃ e, serialize protocol m = .error e ∧ (b.send protocol fmt transport m w).buffer = b) ∨
    ∃ f, serialize protocol m = .ok f ∧
      ((b.send protocol fmt transport m w).buffer = b.enqueue f w ∨
        (b.send protocol fmt transport m w).buffer = (b.enqueue f w).disconnected) := by
  rcases send_cases protocol fmt transport m w b with ⟨e, he, hs⟩ | ⟨f, hf, -, hcases⟩
  · exact .inl ⟨e, he, by rw [hs]⟩
  · refine .inr ⟨f, hf, ?_⟩
    rcases hcases with ⟨-, hs⟩ | ⟨-, -, hs⟩ | ⟨-, e, -, hs⟩
    · exact .inl (by rw [hs])
    · exact .inl (by rw [hs])
    · exact .inr (by rw [hs])

/-- `resend` changes no item. -/
lemma resend_buffer_cases (protocol : HubProtocol) (fmt : TransferFormat)
    (transport : ℕ → Bytes → Except Error Unit) (b : MessageBuffer) :
    (b.resend protocol fmt transport).buffer = b ∨
      (b.resend protocol fmt transport).buffer = { b with reconnectInProgress := false } := by
  rcases resend_cases protocol fmt transport b with ⟨-, hb⟩ | ⟨f, fs, -, -, -, hb | ⟨hb, -⟩⟩
  · exact .inl hb
  · exact .inl hb
  · exact .inr hb

/-- The ids of the buffered items are consecutive and end with the last id given out. -/
lemma Represents.ids (h : b.Represents) :
    b.messages.map BufferedItem.id = (List.range b.messages.length).map fun i : ℕ =>
      b.totalMessageCount - b.messages.length + 1 + i := by
  refine List.ext_getElem (by simp) fun i hi hi' => ?_
  have hi₀ : i < b.messages.length := by simpa using hi
  have hnum := h.numbered.getElem? (List.getElem?_eq_getElem hi₀)
  simp only [List.getElem_map, List.getElem_range, hnum]
  ring

/-- Both branches of `resend` announce the id of the first buffered message, or of the next one. -/
lemma Represents.resendSequenceId (h : b.Represents) :
    b.resendSequenceId = b.totalMessageCount - b.messages.length + 1 :=
  resendSequenceId_eq (numbered_keys_iff.mpr h.numbered) (by ring)

/-! ## Writing in order -/

/-- Frames are written one after the other until a write fails: these are written, with this
result. -/
structure WritesInOrder (fmt : TransferFormat) (transport : ℕ → Bytes → Except Error Unit)
    (frames written : List Frame) (result : Except Error Unit) : Prop where
  isPrefix : written <+: frames
  /-- The writes before the last one have succeeded. -/
  succeeded : ∀ (j : ℕ) (f : Frame), written[j]? = some f →
    sendSerialized fmt (transport j) f.payload = .ok ()
  /-- Everything is written, or the next write has failed. -/
  ends : result = .ok () ∧ written = frames ∨ ∃ f e, frames[written.length]? = some f ∧
    sendSerialized fmt (transport written.length) f.payload = .error e ∧ result = .error e

section WritesInOrder

variable {fmt : TransferFormat} {transport : ℕ → Bytes → Except Error Unit}
  {frames written : List Frame} {result : Except Error Unit} {f : Frame}

/-- The first write fails. -/
lemma WritesInOrder.fail {e : Error} (h : sendSerialized fmt (transport 0) f.payload = .error e) :
    WritesInOrder fmt transport (f :: frames) [] (.error e) :=
  ⟨List.nil_prefix, fun j f hj => by simp at hj, .inr ⟨f, e, rfl, h, rfl⟩⟩

/-- The first write succeeds, and the others follow. -/
lemma WritesInOrder.cons (h : sendSerialized fmt (transport 0) f.payload = .ok ())
    (hrest : WritesInOrder fmt (fun j => transport (j + 1)) frames written result) :
    WritesInOrder fmt transport (f :: frames) (f :: written) result := by
  refine ⟨(List.prefix_cons_inj f).mpr hrest.isPrefix, fun j g hj => ?_, ?_⟩
  · cases j with
    | zero =>
      obtain rfl : f = g := by simpa using hj
      exact h
    | succ j => exact hrest.succeeded j g (by simpa using hj)
  · rcases hrest.ends with ⟨hok, hall⟩ | ⟨g, e, hg, hfail, herr⟩
    · exact .inl ⟨hok, congrArg (f :: ·) hall⟩
    · exact .inr ⟨g, e, by simpa using hg, hfail, herr⟩

/-- **Everything is written when all writes succeed.** -/
lemma WritesInOrder.all (h : WritesInOrder fmt transport frames written result)
    (hall : ∀ (j : ℕ) (f : Frame), frames[j]? = some f →
      sendSerialized fmt (transport j) f.payload = .ok ()) :
    written = frames ∧ result = .ok () := by
  rcases h.ends with ⟨hok, heq⟩ | ⟨f, e, hf, hfail, -⟩
  · exact ⟨heq, hok⟩
  · rw [hall _ f hf] at hfail
    cases hfail

end WritesInOrder

/-- The loop of `resend` writes the messages of the items. -/
lemma writesInOrder_resendItems (fmt : TransferFormat) (transport : ℕ → Bytes → Except Error Unit)
    (items : List BufferedItem) (k : ℕ) :
    WritesInOrder fmt (fun j => transport (j + k)) (items.map BufferedItem.message)
      (resendItems fmt transport k items).1 (resendItems fmt transport k items).2 := by
  induction items generalizing k with
  | nil => exact ⟨List.prefix_refl _, fun j f hj => by simp [resendItems] at hj, .inl ⟨rfl, rfl⟩⟩
  | cons item rest ih =>
    unfold resendItems
    cases hw : sendSerialized fmt (transport k) item.message.payload with
    | error e => exact .fail (by rw [Nat.zero_add]; exact hw)
    | ok u =>
      refine .cons (by rw [Nat.zero_add]; exact hw) ?_
      have hshift : (fun j => transport (j + 1 + k)) = fun j => transport (j + (k + 1)) := by
        funext j
        rw [Nat.add_right_comm, Nat.add_assoc]
      rw [hshift]
      exact ih (k + 1)

/-- **What `resend` writes**: the announcement and the buffered messages, in order until a write
fails; nothing when the announcement cannot be serialized. -/
lemma resend_written (protocol : HubProtocol) (fmt : TransferFormat)
    (transport : ℕ → Bytes → Except Error Unit) (b : MessageBuffer) :
    (∀ e, serialize protocol (.sequence ⟨b.resendSequenceId⟩) = .error e →
      (b.resend protocol fmt transport).written = [] ∧
        (b.resend protocol fmt transport).result = .error e) ∧
    ∀ f, serialize protocol (.sequence ⟨b.resendSequenceId⟩) = .ok f →
      WritesInOrder fmt transport (f :: b.messages.map BufferedItem.message)
        (b.resend protocol fmt transport).written (b.resend protocol fmt transport).result := by
  refine ⟨fun e he => by simp [resend, sendHubMessage, he], fun f hf => ?_⟩
  cases hw : sendSerialized fmt (transport 0) f.payload with
  | error e => simpa [resend, sendHubMessage, hf, hw] using WritesInOrder.fail hw
  | ok u =>
    have hitems := writesInOrder_resendItems fmt transport b.messages 1
    have hall := WritesInOrder.cons hw hitems
    cases hr : resendItems fmt transport 1 b.messages with
    | mk written result =>
      rw [hr] at hall
      cases result <;> simpa [resend, sendHubMessage, hf, hw, hr] using hall

/-- The bytes of the items up to `k` and above `k`. -/
lemma byteCount_filter_add (k : ℤ) (items : List BufferedItem) :
    byteCount (items.filter fun item => k < item.id) +
      byteCount (items.filter fun item => item.id ≤ k) = byteCount items := by
  induction items with
  | nil => rfl
  | cons item rest ih =>
    by_cases hk : k < item.id
    · rw [List.filter_cons_of_pos (by simpa using hk), List.filter_cons_of_neg (by simpa using hk)]
      simp only [byteCount_cons]
      omega
    · rw [List.filter_cons_of_neg (by simpa using hk), List.filter_cons_of_pos (by simpa using hk)]
      simp only [byteCount_cons]
      omega

/-- `ack` removes the items up to the acknowledged id, and their bytes from the count. -/
lemma Represents.ack_eq (h : b.Represents) (k : AckMessage) :
    (b.ack k).keys = b.keys.filter (fun key => k.sequenceId < key.1) ∧
    (b.ack k).bufferedByteCount +
      byteCount (b.messages.filter fun item => item.id ≤ k.sequenceId) = b.bufferedByteCount := by
  refine ⟨?_, ?_⟩
  · rw [keys_ack (numbered_keys_iff.mpr h.numbered) k]
    exact ((numbered_keys_iff.mpr h.numbered).filter_lt k.sequenceId).symm
  · have hbytes : byteCount (b.ack k).messages =
        byteCount (b.messages.filter fun item => k.sequenceId < item.id) := by
      rw [ack_messages h.numbered k, h.numbered.filter_lt, left, unacked]
      split
      · rw [byteCount_map_release]
      · rfl
    rw [(h.ack k).bytes, hbytes, h.bytes]
    exact byteCount_filter_add k.sequenceId b.messages

end MessageBuffer

/-! ## Runs -/

/-- A message buffer in use. -/
structure BufferUse where
  buffer : MessageBuffer
  /-- How many one-shot channels `send` has opened. -/
  opened : ℕ
  /-- The channels that `ack` has signalled, in order. -/
  signalled : List Waiter

namespace BufferUse

/-- The operations on the buffer, with the outcomes of their writes. -/
inductive Action where
  | send (message : HubMessage) (transport : Bytes → Except Error Unit)
  | ack (message : AckMessage)
  | disconnected
  | resend (transport : ℕ → Bytes → Except Error Unit)

/-- `send` opens a channel for the message. -/
def opens (cfg : SendConfig) (u : BufferUse) (message : HubMessage) : Bool :=
  match serialize cfg.protocol message with
  | .ok frame => (u.buffer.backpressure frame u.opened).isSome
  | .error _ => false

/-- One operation. -/
def next (cfg : SendConfig) (u : BufferUse) : Action → Option BufferUse
  | .send message transport =>
    some { u with
      buffer := (u.buffer.send cfg.protocol cfg.transferFormat transport message u.opened).buffer
      opened := if u.opens cfg message then u.opened + 1 else u.opened }
  | .ack message =>
    some { u with
      buffer := u.buffer.ack message
      signalled := u.signalled ++ u.buffer.ackFired message }
  | .disconnected => some { u with buffer := u.buffer.disconnected }
  | .resend transport =>
    some { u with
      buffer := (u.buffer.resend cfg.protocol cfg.transferFormat transport).buffer }

/-- The runs of a buffer of the given size. -/
def system (cfg : SendConfig) : Automata.System BufferUse Action :=
  ⟨⟨.new cfg.bufferSize, 0, []⟩, next cfg⟩

/-- Where the channels are: each one opened has been signalled or is with a buffered item, once, and
none is with an item while there is room. -/
structure WaitersKept (u : BufferUse) : Prop where
  places : (u.signalled ++ waitersOf u.buffer.messages).Perm (List.range u.opened)
  full : waitersOf u.buffer.messages ≠ [] → u.buffer.bufferSize ≤ u.buffer.bufferedByteCount

variable {cfg : SendConfig} {u u' : BufferUse} {a : Action}

/-- Every operation keeps the numbering and the byte count. -/
lemma represents_next (h : u.buffer.Represents) (hstep : next cfg u a = some u') :
    u'.buffer.Represents := by
  cases a with
  | send m transport =>
    cases hstep
    rcases MessageBuffer.send_buffer_cases cfg.protocol cfg.transferFormat transport m u.opened
      u.buffer with ⟨e, -, hb⟩ | ⟨f, -, hb | hb⟩
    · simpa only [hb] using h
    · simpa only [hb] using h.enqueue f u.opened
    · simpa only [hb] using (h.enqueue f u.opened).disconnected
  | ack k =>
    cases hstep
    exact h.ack k
  | disconnected =>
    cases hstep
    exact h.disconnected
  | resend transport =>
    cases hstep
    rcases MessageBuffer.resend_buffer_cases cfg.protocol cfg.transferFormat transport u.buffer with
      hb | hb
    · simpa only [hb] using h
    · dsimp only
      rw [hb]
      exact ⟨h.numbered, h.bytes⟩

/-- Storing a message opens a channel for its sender when the buffer is full. -/
lemma WaitersKept.enqueue (h : u.WaitersKept) (f : Frame) :
    WaitersKept { u with
      buffer := u.buffer.enqueue f u.opened
      opened := if (u.buffer.backpressure f u.opened).isSome then u.opened + 1 else u.opened } := by
  cases hf : isInvocationMessage f.message with
  | false =>
    rw [MessageBuffer.enqueue_of_not_isInvocationMessage u.opened hf]
    simpa [MessageBuffer.backpressure, hf] using h
  | true =>
    by_cases hfull : u.buffer.bufferSize ≤ u.buffer.bufferedByteCount + f.payload.length
    · simp only [MessageBuffer.enqueue, MessageBuffer.backpressure, hf, if_true, if_pos hfull,
        Option.isSome_some]
      refine ⟨?_, fun _ => hfull⟩
      simp only [waitersOf_append, waitersOf_cons, waitersOf_nil, Option.toList_some,
        List.append_nil, List.range_succ, ← List.append_assoc]
      exact h.places.append_right _
    · simp only [MessageBuffer.enqueue, MessageBuffer.backpressure, hf, if_true, if_neg hfull,
        Option.isSome_none, Bool.false_eq_true, if_false]
      refine ⟨by simpa using h.places, fun hw => ?_⟩
      have := h.full (by simpa using hw)
      dsimp only
      omega

/-- Acknowledging signals the channels of the acknowledged items, and all others when there is room
afterwards. -/
lemma WaitersKept.ack (h : u.WaitersKept) (hr : u.buffer.Represents) (k : AckMessage) :
    WaitersKept { u with
      buffer := u.buffer.ack k
      signalled := u.signalled ++ u.buffer.ackFired k } := by
  have hmsgs := MessageBuffer.ack_messages hr.numbered k
  have hfired := MessageBuffer.ackFired_eq hr.numbered k
  have hcount := MessageBuffer.ack_bufferedByteCount hr.numbered k
  have hsplit : waitersOf u.buffer.messages =
      waitersOf (MessageBuffer.acked k.sequenceId
        (u.buffer.totalMessageCount - u.buffer.messages.length) u.buffer.messages) ++
      waitersOf (MessageBuffer.unacked k.sequenceId
        (u.buffer.totalMessageCount - u.buffer.messages.length) u.buffer.messages) := by
    rw [← waitersOf_append, MessageBuffer.acked, MessageBuffer.unacked, List.take_append_drop]
  have hplaces := h.places
  rw [MessageBuffer.left, ← hcount] at hmsgs
  by_cases hroom : (u.buffer.ack k).bufferedByteCount < u.buffer.bufferSize
  · rw [if_pos hroom] at hmsgs hfired
    refine ⟨?_, fun hw => ?_⟩
    · simpa only [hmsgs, hfired, ← hsplit, waitersOf_map_release, List.append_nil] using hplaces
    · simp [hmsgs] at hw
  · rw [if_neg hroom] at hmsgs hfired
    refine ⟨?_, fun _ => not_lt.mp hroom⟩
    simpa only [hmsgs, hfired, List.append_nil, List.append_assoc, ← hsplit] using hplaces

/-- **One operation** keeps the channels in their places. -/
lemma waitersKept_next (hr : u.buffer.Represents) (h : u.WaitersKept)
    (hstep : next cfg u a = some u') : u'.WaitersKept := by
  cases a with
  | send m transport =>
    cases hstep
    rcases MessageBuffer.send_buffer_cases cfg.protocol cfg.transferFormat transport m u.opened
      u.buffer with ⟨e, he, hb⟩ | ⟨f, hf, hb | hb⟩
    · simpa only [hb, opens, he, Bool.false_eq_true, if_false] using h
    · simpa only [hb, opens, hf] using h.enqueue f
    · have hen := h.enqueue f
      simp only [hb, opens, hf]
      exact ⟨hen.places, hen.full⟩
  | ack k =>
    cases hstep
    exact h.ack hr k
  | disconnected =>
    cases hstep
    exact ⟨h.places, h.full⟩
  | resend transport =>
    cases hstep
    rcases MessageBuffer.resend_buffer_cases cfg.protocol cfg.transferFormat transport u.buffer with
      hb | hb
    · simpa only [hb] using h
    · rw [hb]
      exact ⟨h.places, h.full⟩

/-- In every run the buffer is numbered and the channels are in their places. -/
lemma kept_of_reachable (h : (system cfg).Reachable u) : u.buffer.Represents ∧ u.WaitersKept :=
  h.invariant (I := fun u => u.buffer.Represents ∧ u.WaitersKept)
    ⟨MessageBuffer.represents_new _, List.Perm.refl _, fun hw => absurd rfl hw⟩
    fun _ _ _ hu hstep => ⟨represents_next hu.1 hstep, waitersKept_next hu.1 hu.2 hstep⟩

/-- **The buffer in every run**: the buffered ids are the last ones given out, in order; the byte
count is that of the buffered messages; `ack` leaves exactly the items above the acknowledged id and
takes the bytes of the others off the count, which covers them; and `resend` announces the id of the
first buffered message, or the next id, and writes this and then the buffered messages, in order
until a write fails, all of them when none does. -/
theorem represents_of_reachable (cfg : SendConfig) {u : BufferUse}
    (h : (system cfg).Reachable u) :
    (u.buffer.messages.map BufferedItem.id = (List.range u.buffer.messages.length).map
      fun i : ℕ => u.buffer.totalMessageCount - u.buffer.messages.length + 1 + i) ∧
    u.buffer.bufferedByteCount = byteCount u.buffer.messages ∧
    (∀ k : AckMessage,
      (u.buffer.ack k).keys = u.buffer.keys.filter (fun key => k.sequenceId < key.1) ∧
      (u.buffer.ack k).bufferedByteCount +
        byteCount (u.buffer.messages.filter fun item => item.id ≤ k.sequenceId) =
          u.buffer.bufferedByteCount) ∧
    u.buffer.resendSequenceId =
      u.buffer.totalMessageCount - u.buffer.messages.length + 1 ∧
    ∀ transport : ℕ → Bytes → Except Error Unit,
      let r := u.buffer.resend cfg.protocol cfg.transferFormat transport
      let announcement := serialize cfg.protocol (.sequence
        ⟨u.buffer.totalMessageCount - u.buffer.messages.length + 1⟩)
      (∀ e, announcement = .error e → r.written = [] ∧ r.result = .error e) ∧
      ∀ f, announcement = .ok f →
        let frames := f :: u.buffer.messages.map BufferedItem.message
        MessageBuffer.WritesInOrder cfg.transferFormat transport frames r.written r.result ∧
        ((∀ (j : ℕ) (g : Frame), frames[j]? = some g →
            sendSerialized cfg.transferFormat (transport j) g.payload = .ok ()) →
          r.written = frames ∧ r.result = .ok ()) := by
  obtain ⟨hr, -⟩ := kept_of_reachable h
  refine ⟨hr.ids, hr.bytes, hr.ack_eq, hr.resendSequenceId, fun transport => ?_⟩
  obtain ⟨hfails, hwrites⟩ :=
    MessageBuffer.resend_written cfg.protocol cfg.transferFormat transport u.buffer
  rw [hr.resendSequenceId] at hfails hwrites
  exact ⟨hfails, fun f hf => ⟨hwrites f hf, (hwrites f hf).all⟩⟩

/-- A run with a failed write and an acknowledgement of the first message. A replay writes the
announcement of the second message, and the two that are left. -/
theorem represents_of_reachable_replayed :
    let cfg : SendConfig := ⟨.typeOnly, .binary, 2⟩
    ∃ u, (system cfg).Reachable u ∧ u.buffer.messages.length = 2 ∧
      u.buffer.totalMessageCount = 3 ∧ u.buffer.bufferedByteCount = 2 ∧
      u.buffer.resendSequenceId = 3 - 2 + 1 ∧
      (u.buffer.resend cfg.protocol cfg.transferFormat fun _ _ => .ok ()).written.map
          Frame.message = [.sequence ⟨2⟩, .cancelInvocation ⟨[], "2"⟩,
            .cancelInvocation ⟨[], "3"⟩] := by
  intro cfg
  have hrun : (system cfg).Reachable _ := ⟨[
    .send (.cancelInvocation ⟨[], "1"⟩) fun _ => .ok (),
    .send (.cancelInvocation ⟨[], "2"⟩) fun _ => .error (.webSocket "broken pipe"),
    .send (.cancelInvocation ⟨[], "3"⟩) fun _ => .ok (),
    .ack ⟨1⟩, .disconnected], rfl⟩
  obtain ⟨-, -, -, hid, hresend⟩ := represents_of_reachable cfg hrun
  obtain ⟨-, hwritten⟩ := hresend fun _ _ => .ok ()
  obtain ⟨hall, -⟩ := (hwritten _ rfl).2 fun _ _ _ => rfl
  exact ⟨_, hrun, rfl, rfl, rfl, hid, by rw [hall]; rfl⟩

/-- **Who waits in every run**: a channel that is not signalled is with an item that is still
buffered, and there is one only while the buffer is full; so an acknowledgement after which there is
room signals all of them; and none is signalled twice. -/
theorem waiters_of_reachable (cfg : SendConfig) {u : BufferUse} (h : (system cfg).Reachable u) :
    (∀ w < u.opened, w ∉ u.signalled →
      ∃ item ∈ u.buffer.messages, item.backpressure = some w) ∧
    ((∃ w < u.opened, w ∉ u.signalled) → u.buffer.bufferSize ≤ u.buffer.bufferedByteCount) ∧
    (∀ k : AckMessage, (u.buffer.ack k).bufferedByteCount < u.buffer.bufferSize →
      ∀ w < u.opened, w ∈ u.signalled ++ u.buffer.ackFired k) ∧
    u.signalled.Nodup := by
  obtain ⟨hr, hk⟩ := kept_of_reachable h
  -- an open channel that is not signalled is with an item
  have hplace : ∀ {v : BufferUse}, v.WaitersKept → ∀ w < v.opened, w ∉ v.signalled →
      w ∈ waitersOf v.buffer.messages := by
    intro v hv w hw hnot
    have hmem := hv.places.mem_iff.mpr (List.mem_range.mpr hw)
    exact (List.mem_append.mp hmem).resolve_left hnot
  refine ⟨fun w hw hnot => mem_waitersOf.mp (hplace hk w hw hnot), ?_, ?_, ?_⟩
  · rintro ⟨w, hw, hnot⟩
    exact hk.full (List.ne_nil_of_mem (hplace hk w hw hnot))
  · intro k hroom w hw
    by_contra hnot
    have hack := hk.ack hr k
    have hfull := hack.full (List.ne_nil_of_mem (hplace hack w hw hnot))
    exact absurd hroom (not_lt.mpr hfull)
  · have hnodup := hk.places.nodup_iff.mpr List.nodup_range
    exact (List.nodup_append.mp hnodup).1

/-- Two senders wait on a full buffer; an acknowledgement of the message of the first makes room for
both. -/
theorem waiters_of_reachable_full :
    let cfg : SendConfig := ⟨.typeOnly, .binary, 2⟩
    ∃ u, (system cfg).Reachable u ∧ u.opened = 2 ∧ u.signalled = [] ∧
      u.buffer.bufferSize ≤ u.buffer.bufferedByteCount ∧
      (u.buffer.ack ⟨2⟩).bufferedByteCount < u.buffer.bufferSize ∧
      ∀ w < u.opened, w ∈ u.signalled ++ u.buffer.ackFired ⟨2⟩ := by
  intro cfg
  have hrun : (system cfg).Reachable _ := ⟨[
    .send (.cancelInvocation ⟨[], "1"⟩) fun _ => .ok (),
    .send (.cancelInvocation ⟨[], "2"⟩) fun _ => .ok (),
    .send (.cancelInvocation ⟨[], "3"⟩) fun _ => .ok ()], rfl⟩
  obtain ⟨-, hfull, hroom, -⟩ := waiters_of_reachable cfg hrun
  exact ⟨_, hrun, rfl, rfl, hfull ⟨0, by decide, by decide⟩, by decide, hroom ⟨2⟩ (by decide)⟩

end BufferUse

end Signalrr.HubConnection
