import Signalrr.HubConnection.MessageBuffer

set_option relaxedAutoImplicit false
set_option autoImplicit false

/-!
# Sends that fail

`MessageBuffer::send` in `src/hub_connection/message_buffer.rs` stores an invocation-type message
before it writes it. When the write fails the caller gets an error, and the message stays in the
buffer: the next `resend` transmits it.

## Main definitions

* `Signalrr.HubConnection.MessageBuffer.Forgets` — the buffer is what it was without the message.
* `Signalrr.HubConnection.MessageBuffer.StoredIsWritten` — the write of a stored message does not
  fail.

## Main results

* `Signalrr.HubConnection.MessageBuffer.failed_send_forgotten_iff` — a failed send is forgotten iff
  it did not fail at the write of a stored message.
* `Signalrr.HubConnection.MessageBuffer.resend_failed_send` — otherwise the next replay transmits
  the message.
-/

namespace Signalrr.HubConnection

open Hub

namespace MessageBuffer

/-- `b'` is `b`, but that it may know that the transport is gone: ids, buffered messages, byte count
and the receiving side are the same. -/
def Forgets (b b' : MessageBuffer) : Prop := b' = b ∨ b' = b.disconnected

/-- A failed send is forgotten: the buffer is what it was without the message, and a replay
transmits what it would have transmitted without it. -/
def FailedSendForgotten (protocol : HubProtocol) (fmt : TransferFormat)
    (transport : Bytes → Except Error Unit) (m : HubMessage) (w : Waiter) (b : MessageBuffer) :
    Prop :=
  let o := b.send protocol fmt transport m w
  ∀ error, o.result = .error error → b.Forgets o.buffer ∧
    ∀ later, (o.buffer.resend protocol fmt later).written = (b.resend protocol fmt later).written

/-- The write of a stored message does not fail: the message cannot be serialized, is not of
invocation type, is held back while a reconnect is in progress, or is written. -/
def StoredIsWritten (protocol : HubProtocol) (fmt : TransferFormat)
    (transport : Bytes → Except Error Unit) (m : HubMessage) (b : MessageBuffer) : Prop :=
  ∀ f, serialize protocol m = .ok f → isInvocationMessage m = true →
    b.reconnectInProgress = false → sendSerialized fmt transport f.payload = .ok ()

/-- What a replay writes does not depend on what is known about the transport. -/
lemma written_resend_disconnected (protocol : HubProtocol) (fmt : TransferFormat)
    (later : ℕ → Bytes → Except Error Unit) (b : MessageBuffer) :
    (b.disconnected.resend protocol fmt later).written = (b.resend protocol fmt later).written := by
  have hid : b.disconnected.resendSequenceId = b.resendSequenceId := rfl
  have hitems : b.disconnected.messages = b.messages := rfl
  simp only [resend, hid, hitems]
  split
  · rfl
  · split <;> rfl

/-- A buffer that forgets transmits what it would have transmitted. -/
lemma Forgets.written_resend {b b' : MessageBuffer} (h : b.Forgets b') (protocol : HubProtocol)
    (fmt : TransferFormat) (later : ℕ → Bytes → Except Error Unit) :
    (b'.resend protocol fmt later).written = (b.resend protocol fmt later).written := by
  rcases h with rfl | rfl
  · rfl
  · exact written_resend_disconnected protocol fmt later b

/-- A buffer with one more message has not forgotten it. -/
lemma not_forgets_enqueue {b : MessageBuffer} {f : Frame} (w : Waiter)
    (hf : isInvocationMessage f.message = true) : ¬ b.Forgets (b.enqueue f w).disconnected := by
  have hcount := totalMessageCount_enqueue (b := b) w hf
  have hsame : ¬ (b.enqueue f w).disconnected.totalMessageCount = b.totalMessageCount := by
    show ¬ (b.enqueue f w).totalMessageCount = b.totalMessageCount
    omega
  rintro (h | h)
  · exact hsame (congrArg totalMessageCount h)
  · have hcount' := congrArg totalMessageCount h
    exact hsame hcount'

/-- **When a failed send is forgotten**: for every buffer, message and outcome of the transport, a
send that returns an error leaves the buffer as it was without the message iff the error is not that
of the write of a stored message.

**Proof sketch.** The cases of `send_cases`. A message that cannot be serialized leaves the buffer
alone. A failed write leaves the stored message behind, which shows in the id of the next message;
a message that is not of invocation type was not stored. -/
theorem failed_send_forgotten_iff (protocol : HubProtocol) (fmt : TransferFormat)
    (transport : Bytes → Except Error Unit) (m : HubMessage) (w : Waiter) (b : MessageBuffer) :
    FailedSendForgotten protocol fmt transport m w b ↔
      StoredIsWritten protocol fmt transport m b := by
  unfold FailedSendForgotten
  dsimp only
  rcases send_cases protocol fmt transport m w b with
    ⟨e, hser, hs⟩ | ⟨f, hser, hm, ⟨hr, hs⟩ | ⟨hr, hw, hs⟩ | ⟨hr, e, hw, hs⟩⟩
  · -- not serialized
    rw [hs]
    refine iff_of_true (fun error _ => ⟨.inl rfl, fun later => rfl⟩) ?_
    intro f hf
    rw [hser] at hf
    cases hf
  · -- held back
    rw [hs]
    refine iff_of_true (fun error herror => by cases herror) ?_
    intro f' _ _ hr'
    rw [hr] at hr'
    cases hr'
  · -- written
    rw [hs]
    refine iff_of_true (fun error herror => by cases herror) ?_
    intro f' hf' _ _
    obtain rfl : f = f' := by simpa [hser] using hf'
    exact hw
  · -- the write fails
    rw [hs]
    constructor
    · intro h f' hf' hinv _
      refine absurd (h e rfl).1 ?_
      exact not_forgets_enqueue w (by rw [hm]; exact hinv)
    · intro h error _
      have hinv : isInvocationMessage f.message = false := by
        by_contra hinv
        have hok := h f hser (by simpa [hm] using hinv) hr
        rw [hw] at hok
        cases hok
      have hforgets : b.Forgets (b.enqueue f w).disconnected := by
        rw [enqueue_of_not_isInvocationMessage w hinv]
        exact .inr rfl
      exact ⟨hforgets, hforgets.written_resend protocol fmt⟩

/-- A transport on which every write fails. -/
def brokenWrite : Bytes → Except Error Unit := fun _ => .error (.webSocket "broken pipe")

/-- **A failed send is not forgotten**: the message is stored under id 1 when its write fails. -/
theorem failed_send_not_forgotten :
    ¬ ∀ (protocol : HubProtocol) (fmt : TransferFormat) (transport : Bytes → Except Error Unit)
      (m : HubMessage) (w : Waiter) (b : MessageBuffer),
        FailedSendForgotten protocol fmt transport m w b := by
  intro h
  have hforgets := (h .typeOnly .binary brokenWrite (.cancelInvocation ⟨[], "1"⟩) 0 (.new 100)
    (.webSocket "broken pipe") rfl).1
  exact not_forgets_enqueue (b := .new 100) (f := ⟨.cancelInvocation ⟨[], "1"⟩, [5]⟩) 0 rfl hforgets

/-- **A failed send is transmitted later**: a replay after a failed write, on a transport that takes
everything, ends with the message whose send has failed. -/
theorem resend_failed_send {protocol : HubProtocol} {fmt : TransferFormat}
    {transport : Bytes → Except Error Unit} {m : HubMessage} {f : Frame} {b : MessageBuffer}
    (hser : serialize protocol m = .ok f) (hinv : isInvocationMessage m = true)
    (hr : b.reconnectInProgress = false) {e : Error}
    (hw : sendSerialized fmt transport f.payload = .error e)
    (w : Waiter) {later : ℕ → Bytes → Except Error Unit}
    (hlater : ((b.send protocol fmt transport m w).buffer.resend protocol fmt later).result =
      .ok ()) :
    ∃ frames, ((b.send protocol fmt transport m w).buffer.resend protocol fmt later).written =
      frames ++ [f] := by
  have hm := message_of_serialize hser
  have hbuf : (b.send protocol fmt transport m w).buffer = (b.enqueue f w).disconnected := by
    simp [send, hser, hr, hw]
  have hmessages : (b.enqueue f w).disconnected.messages.map BufferedItem.message =
      b.messages.map BufferedItem.message ++ [f] := by
    have hkeys := congrArg (List.map Prod.snd) (keys_enqueue (b := b) w (by rw [hm]; exact hinv))
    simpa [keys, BufferedItem.key, Function.comp_def, disconnected] using hkeys
  rw [hbuf] at hlater ⊢
  obtain ⟨-, hall⟩ := resendItems_isPrefix fmt later (b.enqueue f w).disconnected.messages 1
  simp only [resend] at hlater ⊢
  split at hlater
  · cases hlater
  · rename_i frames _
    split at hlater
    · cases hlater
    · rename_i items hitems
      have hwritten : items = b.messages.map BufferedItem.message ++ [f] := by
        rw [← hmessages, ← hall (by rw [hitems]), hitems]
      refine ⟨frames ++ b.messages.map BufferedItem.message, ?_⟩
      rw [hwritten, List.append_assoc]

end MessageBuffer

end Signalrr.HubConnection
