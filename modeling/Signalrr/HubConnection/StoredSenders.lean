import Signalrr.HubConnection.CallSteps

set_option relaxedAutoImplicit false
set_option autoImplicit false

/-!
# The senders stored in buffers

A `MessageBuffer` in `src/hub_connection/message_buffer.rs` keeps the sender of a one-shot channel
with each item that has filled it. The sender is fired by an acknowledgement, and dropped with the
last reference to the buffer. This module lists what steps do to the stored senders and to the
references to buffers.

## Main definitions

* `Signalrr.HubConnection.Core.senders` — the senders stored in a buffer.
* `Signalrr.HubConnection.Core.sends`, `Signalrr.HubConnection.Core.Fits` — the message a step
  sends, and that there is room for it.
* `Signalrr.HubConnection.Core.Released` — no sender is stored in the buffers referred to.

## Main results

* `Signalrr.HubConnection.Core.senders_applyOp` — operations of the life cycle store no sender.
* `Signalrr.HubConnection.Core.senders_of_next` — neither do other steps, when what they send fits.
* `Signalrr.HubConnection.Core.bufferRefs_applyOp` — an operation that stores no runtime leaves no
  reference to another buffer, unless it is a new one.
-/

namespace Signalrr.HubConnection

open Hub

/-! ## Senders -/

namespace Core

/-- The senders stored in the items of buffer `b`. -/
def senders (c : Core) (b : ℕ) : List Waiter := (c.buffers[b]?.map waiters).getD []

/-- A buffer stores no sender iff none of its items has one. -/
lemma waiters_eq_nil {b : MessageBuffer} :
    waiters b = [] ↔ ∀ item ∈ b.messages, item.backpressure = none := by
  simp [waiters, List.filterMap_eq_nil_iff]

/-- Buffers with the same items store the same senders. -/
lemma waiters_congr {b b' : MessageBuffer} (h : b'.messages = b.messages) :
    waiters b' = waiters b := by
  rw [waiters, h, waiters]

end Core

namespace MessageBuffer

/-- Items that pass the loop of `ack` lose their senders or stay as they are. -/
lemma backpressure_ackLoop (n : ℕ) (k : ℤ) {items : List BufferedItem}
    (h : ∀ item ∈ items, item.backpressure = none) :
    ∀ (newest : Option ℤ) (count : ℕ), ∀ item ∈ (ackLoop n k items newest count).items,
      item.backpressure = none := by
  induction items with
  | nil => simp [ackLoop]
  | cons first rest ih =>
    intro newest count
    have hrest := ih fun item hitem => h item (List.mem_cons_of_mem _ hitem)
    unfold ackLoop
    split
    · simpa using hrest _ _
    · split
      · simpa using hrest _ _
      · exact h

/-- `ack` stores no senders. -/
lemma waiters_ack {b : MessageBuffer} (h : Core.waiters b = []) (m : AckMessage) :
    Core.waiters (b.ack m) = [] := by
  rw [Core.waiters_eq_nil] at h ⊢
  have hloop := backpressure_ackLoop b.bufferSize m.sequenceId h none b.bufferedByteCount
  intro item hitem
  simp only [ack, retained] at hitem
  split at hitem
  · exact hloop item (List.mem_filter.mp hitem).1
  · exact hloop item hitem

/-- `reset_sequence` leaves the items alone. -/
lemma messages_resetSequence {b b' : MessageBuffer} {m : SequenceMessage}
    (h : b.resetSequence m = .ok b') : b'.messages = b.messages := by
  unfold resetSequence at h
  split at h <;> cases h
  rfl

/-- `resend` leaves the items alone. -/
lemma messages_resend (protocol : HubProtocol) (fmt : TransferFormat)
    (transport : ℕ → Bytes → Except Error Unit) (b : MessageBuffer) :
    (b.resend protocol fmt transport).buffer.messages = b.messages := by
  rcases resend_cases protocol fmt transport b with ⟨-, h⟩ | ⟨f, fs, -, -, -, h | ⟨h, -⟩⟩ <;> rw [h]

/-- A message is not numbered, or there is room for it. -/
def Fits (b : MessageBuffer) (f : Frame) : Prop :=
  isInvocationMessage f.message = true → b.bufferedByteCount + f.payload.length < b.bufferSize

instance (b : MessageBuffer) (f : Frame) : Decidable (b.Fits f) :=
  inferInstanceAs (Decidable (isInvocationMessage f.message = true →
    b.bufferedByteCount + f.payload.length < b.bufferSize))

/-- A message that fits is stored without a sender. -/
lemma waiters_enqueue {b : MessageBuffer} {f : Frame} (h : Core.waiters b = []) (hf : b.Fits f)
    (w : Waiter) : Core.waiters (b.enqueue f w) = [] := by
  unfold enqueue
  split
  · rename_i hm
    have hroom : ¬ b.bufferSize ≤ b.bufferedByteCount + f.payload.length := by
      have := hf hm
      omega
    rw [Core.waiters] at h ⊢
    simp [List.filterMap_append, h, hroom]
  · exact h

/-- `send` stores no sender when the message fits. -/
lemma waiters_send {protocol : HubProtocol} {fmt : TransferFormat}
    {transport : Bytes → Except Error Unit} {m : HubMessage} {b : MessageBuffer}
    (h : Core.waiters b = []) (hf : ∀ f, serialize protocol m = .ok f → b.Fits f) (w : Waiter) :
    Core.waiters (b.send protocol fmt transport m w).buffer = [] := by
  rcases send_cases protocol fmt transport m w b with ⟨e, -, hs⟩ | ⟨f, hser, -, hs⟩
  · rw [hs]
    exact h
  · have henq := waiters_enqueue h (hf f hser) w
    rcases hs with ⟨-, hs⟩ | ⟨-, -, hs⟩ | ⟨-, e, -, hs⟩ <;> rw [hs] <;> exact henq

end MessageBuffer

/-! ## Steps and the senders -/

namespace Core

variable {options : ConnectionOptions} {c c' : Core} {b n : ℕ} {buffer : MessageBuffer}

/-- The senders are in the buffers. -/
lemma senders_congr (h : c'.buffers = c.buffers) : c'.senders b = c.senders b := by
  rw [senders, h, senders]

/-- The senders of a buffer that is there. -/
lemma senders_eq (h : c.buffers[b]? = some buffer) : c.senders b = waiters buffer := by
  simp [senders, h]

/-- A change of a buffer that stores no sender in it. -/
lemma senders_set (h : c.senders b = []) (hb : n = b → waiters buffer = []) :
    ({ c with buffers := c.buffers.set n buffer } : Core).senders b = [] := by
  by_cases hn : n = b
  · simp only [senders, hn, List.getElem?_set_self']
    cases c.buffers[b]? <;> simp [hb hn]
  · simpa [senders, List.getElem?_set_ne hn] using h

/-- There is room for a message in the buffer of a runtime, if it has one. -/
def FitsRuntime (options : ConnectionOptions) (c : Core) (rt : HubRuntime) (m : HubMessage) :
    Prop :=
  ∀ n ∈ rt.messageBuffer, ∀ buffer ∈ c.buffers[n]?,
    ∀ f ∈ (serialize options.protocol m).toOption, buffer.Fits f

/-- There is room for a message in the buffer of the runtime, if there is one. -/
def Fits (options : ConnectionOptions) (c : Core) (m : HubMessage) : Prop :=
  ∀ rt ∈ c.runtime, c.FitsRuntime options rt m

instance (options : ConnectionOptions) (c : Core) (m : HubMessage) :
    Decidable (c.Fits options m) :=
  inferInstanceAs (Decidable (∀ rt ∈ c.runtime, ∀ n ∈ rt.messageBuffer, ∀ buffer ∈ c.buffers[n]?,
    ∀ f ∈ (serialize options.protocol m).toOption, buffer.Fits f))

/-- The message a step of a call, of a handle or of an upload task sends, if there is a runtime. -/
def sends (c : Core) : CoreAction → Option HubMessage
  | .call i _ =>
    c.calls[i]?.bind fun call => if call.pc = .sendThrough then some call.message else none
  | .handle i _ =>
    c.calls[i]?.bind fun call =>
      if call.cancels then some (.cancelInvocation ⟨[], call.id.getD ""⟩) else none
  | .upload i _ =>
    c.calls[i]?.bind fun call =>
      if call.uploading then call.commands.head?.map UploadCommand.message else none
  | _ => none

/-- A send of a message that fits stores no sender. -/
lemma senders_runtimeSend {rt : HubRuntime} {m : HubMessage} (h : c.senders b = [])
    (hf : c.FitsRuntime options rt m) (w : Waiter) (outcome : Except Error Unit) :
    (c.runtimeSend options rt m w outcome).1.senders b = [] := by
  unfold runtimeSend
  split
  · exact h
  · rename_i n buffer hbuf
    obtain ⟨n', hn, hbuf⟩ := Option.bind_eq_some_iff.mp hbuf
    obtain ⟨buffer', hbuf, heq⟩ := Option.map_eq_some_iff.mp hbuf
    cases heq
    refine senders_set h fun hnb => ?_
    subst hnb
    refine MessageBuffer.waiters_send (senders_eq hbuf ▸ h) (fun f hser => ?_) w
    exact hf n hn buffer hbuf f (by simp [hser, Except.toOption])

/-- A replay stores no sender. -/
lemma senders_resend (h : c.senders b = []) (n : Option ℕ) (writes : ℕ → Except Error Unit) :
    (c.resend options n writes).senders b = [] := by
  unfold resend
  split
  · exact h
  · rename_i n buffer hbuf
    obtain ⟨n', hn, hbuf⟩ := Option.bind_eq_some_iff.mp hbuf
    obtain ⟨buffer', hbuf, heq⟩ := Option.map_eq_some_iff.mp hbuf
    cases heq
    refine senders_set h fun hnb => ?_
    subst hnb
    rw [waiters_congr (MessageBuffer.messages_resend ..), ← senders_eq hbuf]
    exact h

/-- **Operations of the life cycle** store no sender. -/
lemma senders_applyOp (h : c.senders b = []) (op : Op) :
    (c.applyOp options op).senders b = [] := by
  cases op with
  | storeRuntime connection transport n writes =>
    cases writes with
    | none => exact h
    | some writes =>
      exact senders_resend (c := { c with runtime := some ⟨connection, transport, n, 0⟩ }) h n
        writes
  | storeBuffer stateful =>
    cases stateful with
    | false => exact h
    | true =>
      simp only [senders, applyOp, if_true, List.getElem?_append, List.getElem?_singleton] at h ⊢
      split
      · exact h
      · split <;> rfl
  | disconnectBuffer n =>
    simp only [senders, applyOp, List.getElem?_modify] at h ⊢
    cases hb : c.buffers[b]? with
    | none => rfl
    | some buffer =>
      simp only [hb, Option.map_some, Option.getD_some] at h ⊢
      split <;> exact h
  | shutdownRuntime rt write outcome =>
    have hfits : c.FitsRuntime options rt (.close ⟨none, none⟩) := by
      intro n hn buffer hbuf f hf hm
      cases hser : serialize options.protocol (.close ⟨none, none⟩) with
      | error error => simp [hser, Except.toOption] at hf
      | ok g =>
        obtain rfl : g = f := by simpa [hser, Except.toOption] using hf
        rw [message_of_serialize hser] at hm
        cases hm
    exact senders_runtimeSend h hfits 0 write
  | control | cancelAllPending | takeRuntime | clearBuffer | closeTransport | connect | reopen =>
    exact h

/-- What a step of a call does to the buffers. -/
lemma buffers_callStep {i : ℕ} {call : Call} {outcome : Except Error Unit}
    (h : c.callStep options i call outcome = some c') :
    c'.buffers = c.buffers ∨ call.pc = .sendThrough ∧ ∃ rt, c.runtime = some rt ∧
      c'.buffers = (c.runtimeSend options rt call.message i outcome).1.buffers := by
  unfold callStep at h
  split at h
  case h_5 hpc =>
    cases h
    unfold sendThrough
    split
    · exact .inl rfl
    · rename_i rt hrt
      exact .inr ⟨hpc, rt, hrt, rfl⟩
  case h_4 =>
    obtain ⟨id, -, rfl⟩ := Option.map_eq_some_iff.mp h
    unfold register
    split <;> exact .inl rfl
  case h_2 | h_3 =>
    cases h
    simp only [takeStreamIds, takeId, withRuntime]
    split <;> exact .inl rfl
  all_goals
    try split at h
    all_goals cases h
    all_goals exact .inl rfl

/-- What a step of a handle does to the buffers. -/
lemma buffers_handleStep {i : ℕ} {call : Call} {outcome : Except Error Unit}
    (h : c.handleStep options i call outcome = some c') :
    c'.buffers = c.buffers ∨ call.cancels = true ∧ ∃ rt, c.runtime = some rt ∧
      c'.buffers = (c.runtimeSend options rt (.cancelInvocation ⟨[], call.id.getD ""⟩) i
        outcome).1.buffers := by
  unfold handleStep at h
  split at h
  case h_2 hc | h_4 hc =>
    cases h
    unfold handleSend
    split
    · exact .inl rfl
    · rename_i rt hrt
      exact .inr ⟨by simp [Call.cancels, hc], rt, hrt, rfl⟩
  all_goals cases h
  all_goals exact .inl rfl

/-- What a step of an upload task does to the buffers. -/
lemma buffers_uploadStep {i : ℕ} {call : Call} {outcome : Except Error Unit}
    (h : c.uploadStep options i call outcome = some c') :
    c'.buffers = c.buffers ∨ call.uploading = true ∧ ∃ command, call.commands.head? = some command ∧
      ∃ rt, c.runtime = some rt ∧
        c'.buffers = (c.runtimeSend options rt command.message i outcome).1.buffers := by
  unfold uploadStep at h
  split at h
  · rename_i hup
    split at h
    · split at h <;> cases h
      exact .inl rfl
    · rename_i command rest hcmd
      split at h
      · cases h
        exact .inl rfl
      · rename_i rt hrt
        cases h
        exact .inr ⟨hup, command, by simp [hcmd], rt, hrt, rfl⟩
  · cases h

/-- The dispatch of a message stores no sender. -/
lemma waiters_dispatch {H : Type} {cfg : DispatchConfig} {ctx : DispatchContext H}
    (h : ∀ buffer ∈ ctx.messageBuffer, waiters buffer = []) (m : HubMessage)
    (call : H → Arguments → ClientMethodOutput) (outcome : Except Error Unit) :
    ∀ buffer ∈ (ctx.dispatch cfg m call outcome).1.messageBuffer, waiters buffer = [] := by
  intro buffer' hbuffer'
  unfold DispatchContext.dispatch at hbuffer'
  split at hbuffer'
  · rename_i hnone
    simp [DispatchContext.process_messageBuffer, hnone] at hbuffer'
  · rename_i buffer hb
    have hproc : waiters (buffer.shouldProcessMessage m).buffer = [] := by
      rw [waiters_congr (buffer.shouldProcessMessage_sender m).1]
      exact h buffer hb
    dsimp only at hbuffer'
    split at hbuffer'
    · rw [DispatchContext.process_messageBuffer] at hbuffer'
      obtain rfl := Option.some.inj hbuffer'
      cases m with
      | ack message => exact MessageBuffer.waiters_ack hproc message
      | sequence message =>
        cases hr :
            (buffer.shouldProcessMessage (.sequence message)).buffer.resetSequence message with
        | error error => simpa [hr, Except.toOption] using hproc
        | ok buffer' =>
          simp only [hr, Except.toOption, Option.getD_some]
          rw [waiters_congr (MessageBuffer.messages_resetSequence hr)]
          exact hproc
      | _ => exact hproc
    · obtain rfl := Option.some.inj hbuffer'
      exact hproc

/-- A received message stores no sender. -/
lemma senders_receive (h : c.senders b = []) (n : Option ℕ) (m : HubMessage)
    (outcome : Except Error Unit) : (c.receive options n m outcome).senders b = [] := by
  unfold receive
  dsimp only
  split
  · rename_i n buffer' hbuffer'
    refine senders_set h fun hnb => ?_
    subst hnb
    refine waiters_dispatch (fun buffer hbuf => ?_) m _ outcome buffer' hbuffer'
    rw [← senders_eq hbuf]
    exact h
  · exact h

/-- **Steps of calls, handles, upload tasks and receive tasks** store no sender when what they send
fits. -/
theorem senders_of_next {a : CoreAction} (ha : ∀ op, a ≠ .op op)
    (hf : ∀ m ∈ c.sends a, c.Fits options m) (h : c.next options a = some c')
    (hb : c.senders b = []) : c'.senders b = [] := by
  cases a with
  | op op => exact absurd rfl (ha op)
  | newCall | cancelStream =>
    cases h
    exact hb
  | call i outcome =>
    obtain ⟨call, hi, h⟩ := Option.bind_eq_some_iff.mp h
    rcases buffers_callStep h with hbuf | ⟨hpc, rt, hrt, hbuf⟩
    · rw [senders_congr hbuf]
      exact hb
    · rw [senders_congr hbuf]
      exact senders_runtimeSend hb (hf _ (by simp [sends, hi, hpc]) rt hrt) i outcome
  | handle i outcome =>
    obtain ⟨call, hi, h⟩ := Option.bind_eq_some_iff.mp h
    rcases buffers_handleStep h with hbuf | ⟨hc, rt, hrt, hbuf⟩
    · rw [senders_congr hbuf]
      exact hb
    · rw [senders_congr hbuf]
      exact senders_runtimeSend hb (hf _ (by simp [sends, hi, hc]) rt hrt) i outcome
  | upload i outcome =>
    obtain ⟨call, hi, h⟩ := Option.bind_eq_some_iff.mp h
    rcases buffers_uploadStep h with hbuf | ⟨hup, command, hcmd, rt, hrt, hbuf⟩
    · rw [senders_congr hbuf]
      exact hb
    · rw [senders_congr hbuf]
      exact senders_runtimeSend hb (hf _ (by simp [sends, hi, hup, hcmd]) rt hrt) i outcome
  | roomDropped i =>
    obtain ⟨call, -, h⟩ := Option.bind_eq_some_iff.mp h
    unfold roomDropped at h
    split at h <;> cases h
    exact hb
  | cancelHandle i | dropHandle i =>
    obtain ⟨call, -, h⟩ := Option.bind_eq_some_iff.mp h
    split at h <;> cases h
    exact hb
  | produce i streamId item =>
    obtain ⟨call, -, h⟩ := Option.bind_eq_some_iff.mp h
    unfold produce at h
    split at h <;> cases h
    exact hb
  | receive n m outcome =>
    cases h
    exact senders_receive hb n m outcome

/-! ## References to buffers -/

/-- The references to buffers in the fields. -/
def bufferRefs (c : Core) : List (Option ℕ) :=
  [c.messageBuffer, c.runtime.bind HubRuntime.messageBuffer]

/-- No sender is stored in the buffers referred to. -/
def Released (c : Core) (refs : List (Option ℕ)) : Prop := ∀ r ∈ refs, ∀ b ∈ r, c.senders b = []

instance (c : Core) (refs : List (Option ℕ)) : Decidable (c.Released refs) :=
  inferInstanceAs (Decidable (∀ r ∈ refs, ∀ b ∈ r, c.senders b = []))

/-- An operation that is followed by other references keeps the buffers released when every
reference is an old one or one to a buffer without senders. -/
lemma Released.applyOp {refs refs' : List (Option ℕ)} {op : Op} (h : c.Released refs)
    (hrefs : ∀ b, some b ∈ refs' → some b ∈ refs ∨ (c.applyOp options op).senders b = []) :
    (c.applyOp options op).Released refs' := by
  rintro r hr b hb
  obtain rfl : r = some b := hb
  rcases hrefs b hr with hold | hnew
  · exact senders_applyOp (h _ hold b rfl) op
  · exact hnew

end Core

/-- The operation stores a runtime. -/
def Op.storesRuntime : Op → Bool
  | .storeRuntime .. => true
  | _ => false

namespace Core

variable {options : ConnectionOptions} {c : Core} {op : Op} {b : ℕ}

/-- The field `message_buffer` keeps its buffer, is cleared or gets a new buffer. -/
lemma messageBuffer_applyOp (h : (c.applyOp options op).messageBuffer = some b) :
    c.messageBuffer = some b ∨ (c.applyOp options op).senders b = [] := by
  cases op with
  | storeRuntime connection transport n writes =>
    refine .inl ?_
    cases writes with
    | none => exact h
    | some writes =>
      simp only [applyOp, resend] at h
      split at h <;> exact h
  | storeBuffer stateful =>
    cases stateful with
    | false => cases h
    | true =>
      obtain rfl : c.buffers.length = b := Option.some.inj h
      exact .inr (by simp [applyOp, senders, waiters, MessageBuffer.new])
  | clearBuffer => cases h
  | shutdownRuntime rt write outcome =>
    obtain ⟨buffers, hcore, -⟩ := shutdown_eq options c rt write outcome
    simp only [applyOp, hcore] at h
    exact .inl h
  | control | cancelAllPending | takeRuntime | disconnectBuffer | closeTransport | connect
  | reopen => exact .inl h

/-- Other operations keep the runtime or take it. -/
lemma runtime_applyOp (options : ConnectionOptions) (c : Core) (hop : op.storesRuntime = false) :
    (c.applyOp options op).runtime = c.runtime ∨ (c.applyOp options op).runtime = none := by
  cases op with
  | storeRuntime => cases hop
  | takeRuntime => exact .inr rfl
  | storeBuffer stateful => cases stateful <;> exact .inl rfl
  | shutdownRuntime rt write outcome =>
    obtain ⟨buffers, hcore, -⟩ := shutdown_eq options c rt write outcome
    exact .inl (by simp only [applyOp, hcore])
  | _ => exact .inl rfl

/-- A runtime is stored. -/
lemma runtime_storeRuntime (options : ConnectionOptions) (c : Core) (connection transport : ℕ)
    (n : Option ℕ) (writes : Option (ℕ → Except Error Unit)) :
    (c.applyOp options (.storeRuntime connection transport n writes)).runtime =
      some ⟨connection, transport, n, 0⟩ := by
  cases writes with
  | none => rfl
  | some writes =>
    simp only [applyOp, resend]
    split <;> rfl

/-- The references in the fields are old ones, or one to a new buffer. -/
lemma bufferRefs_applyOp (hop : op.storesRuntime = false)
    (h : some b ∈ (c.applyOp options op).bufferRefs) :
    some b ∈ c.bufferRefs ∨ (c.applyOp options op).senders b = [] := by
  simp only [bufferRefs, List.mem_cons, List.not_mem_nil, or_false] at h ⊢
  rcases h with h | h
  · rcases messageBuffer_applyOp h.symm with hold | hnew
    · exact .inl (.inl hold.symm)
    · exact .inr hnew
  · rcases runtime_applyOp options c hop with hrt | hrt
    · exact .inl (.inr (hrt ▸ h))
    · simp [hrt] at h

end Core

end Signalrr.HubConnection
