import Mathlib.Logic.Function.Basic
import Signalrr.Automata.System
import Signalrr.HubConnection.MessageBuffer

set_option relaxedAutoImplicit false
set_option autoImplicit false

/-!
# Concurrent senders on one transport

`MessageBuffer::send` releases the buffer lock before it hands the payload to the queue of the
transport, and its callers hold a shared lock only. Any number of calls may therefore be between
these two steps at once.

## Main definitions

* `Signalrr.HubConnection.SendCall` — where one call of `send` is.
* `Signalrr.HubConnection.Senders.system` — the interleavings of calls of `send`, with incoming
  acknowledgements.
* `Signalrr.HubConnection.Senders.InOrder` — invocation-type messages are handed over in
  increasing order of their ids.
* `Signalrr.HubConnection.Senders.NotOvertaking` — the condition on a step: no call with a smaller
  id is between its two steps.

## Main results

* `Signalrr.HubConnection.Senders.inOrder_of_meets` — the order is kept by runs in which no call
  overtakes another one.
* `Signalrr.HubConnection.Senders.not_inOrder_of_overtaken` — the order is lost for good when a
  call that was overtaken hands its message over.
* `Signalrr.HubConnection.Senders.runFrom_alone` — a call that runs alone does what
  `MessageBuffer.send` does.
-/

namespace Signalrr.HubConnection

open Hub

/-- Where a call of `MessageBuffer::send` is. -/
inductive SendCall where
  /-- Not made yet. -/
  | idle
  /-- The message is serialized, the call waits for the buffer lock. -/
  | serialized (frame : Frame)
  /-- The lock is released and the call goes on to hand the payload over; `id` is the id of an
  invocation-type message. -/
  | buffered (frame : Frame) (id : Option ℤ) (backpressureRx : Option Waiter)
  /-- The payload is in the queue of the transport, the call waits for the answer. -/
  | enqueued (backpressureRx : Option Waiter)
  /-- The call has returned. -/
  | done (result : Except Error (Option Waiter))

/-- The id of a call between its two steps. -/
def SendCall.pendingId? : SendCall → Option ℤ
  | buffered _ id _ => id
  | _ => none

/-- The buffer, the calls of `send` on it, and what they have handed to the transport: the frames
in the order of the queue, with the ids of the invocation-type ones. -/
structure Senders where
  buffer : MessageBuffer
  calls : ℕ → SendCall
  handed : List (Frame × Option ℤ)

/-- What the calls share. -/
structure SendConfig where
  protocol : HubProtocol
  transferFormat : TransferFormat
  bufferSize : ℕ

/-- Whether `send_serialized` passes a payload on to the transport. -/
def acceptsPayload (transferFormat : TransferFormat) (payload : Bytes) : Bool :=
  match transferFormat with
  | .text => (ByteArray.mk payload.toArray).validateUTF8
  | .binary => true

namespace Senders

/-- A step of one of the calls, or an acknowledgement. -/
inductive Action where
  /-- Call `i` starts and serializes its message. -/
  | call (i : ℕ) (message : HubMessage)
  /-- Call `i` stores its message under the buffer lock. -/
  | store (i : ℕ)
  /-- Call `i` hands its payload to the queue of the transport. -/
  | handOver (i : ℕ)
  /-- Call `i` gets the answer of the queue. -/
  | answer (i : ℕ) (outcome : Except Error Unit)
  /-- An acknowledgement is processed. -/
  | ack (message : AckMessage)

/-- Moves call `i` on. -/
def setCall (s : Senders) (i : ℕ) (c : SendCall) : Senders :=
  { s with calls := Function.update s.calls i c }

/-- The id a message gets. -/
def nextId (s : Senders) (message : HubMessage) : Option ℤ :=
  if isInvocationMessage message then some (s.buffer.totalMessageCount + 1) else none

/-- One step. The waiter of call `i` is named `i`. -/
def next (cfg : SendConfig) (s : Senders) : Action → Option Senders
  | .call i message =>
    match s.calls i with
    | .idle =>
      some (s.setCall i (match serialize cfg.protocol message with
        | .ok frame => .serialized frame
        | .error error => .done (.error error)))
    | _ => none
  | .store i =>
    match s.calls i with
    | .serialized frame =>
      let backpressureRx := s.buffer.backpressure frame i
      let sendNow := !s.buffer.reconnectInProgress
      some ({ s with buffer := s.buffer.enqueue frame i }.setCall i
        (if sendNow then .buffered frame (s.nextId frame.message) backpressureRx
        else .done (.ok backpressureRx)))
    | _ => none
  | .handOver i =>
    match s.calls i with
    | .buffered frame id backpressureRx =>
      if acceptsPayload cfg.transferFormat frame.payload then
        some ({ s with handed := s.handed ++ [(frame, id)] }.setCall i (.enqueued backpressureRx))
      else
        some ({ s with buffer := s.buffer.disconnected }.setCall i
          (.done (.error (.protocol "invalid text payload"))))
    | _ => none
  | .answer i outcome =>
    match s.calls i with
    | .enqueued backpressureRx =>
      match outcome with
      | .ok () => some (s.setCall i (.done (.ok backpressureRx)))
      | .error error =>
        some ({ s with buffer := s.buffer.disconnected }.setCall i (.done (.error error)))
    | _ => none
  | .ack message => some { s with buffer := s.buffer.ack message }

/-- No call has been made. -/
def init (cfg : SendConfig) : Senders := ⟨.new cfg.bufferSize, fun _ => .idle, []⟩

/-- The interleavings of calls of `send` on one transport. -/
def system (cfg : SendConfig) : Automata.System Senders Action := ⟨init cfg, next cfg⟩

/-- The ids of the invocation-type messages handed over, in the order of the queue. -/
def handedIds (s : Senders) : List ℤ := s.handed.filterMap Prod.snd

/-- Invocation-type messages are handed over in increasing order of their ids. -/
def InOrder (s : Senders) : Prop := s.handedIds.Pairwise (· < ·)

/-- The condition on a step: when call `i` hands its message over, no other call with a smaller id
is between its two steps. -/
def NotOvertaking (s : Senders) (a : Action) : Prop :=
  ∀ i k, a = .handOver i → (s.calls i).pendingId? = some k →
    ∀ j k', (s.calls j).pendingId? = some k' → k ≤ k'

/-! ## Everything a step can do -/

/-- The effect of a step on the ids: no id becomes pending, a new one does, or one is handed
over. -/
inductive IdStep (s : Senders) : Action → Senders → Prop where
  | keep (a : Action) (s' : Senders)
    (hp : ∀ j k, (s'.calls j).pendingId? = some k → (s.calls j).pendingId? = some k)
    (hh : s'.handedIds = s.handedIds)
    (ht : s.buffer.totalMessageCount ≤ s'.buffer.totalMessageCount) : IdStep s a s'
  | assign (a : Action) (s' : Senders) (i : ℕ)
    (hi : (s'.calls i).pendingId? = some (s.buffer.totalMessageCount + 1))
    (hp : ∀ j, j ≠ i → (s'.calls j).pendingId? = (s.calls j).pendingId?)
    (hh : s'.handedIds = s.handedIds)
    (ht : s'.buffer.totalMessageCount = s.buffer.totalMessageCount + 1) : IdStep s a s'
  | handOver (s' : Senders) (i : ℕ) (k : ℤ) (hk : (s.calls i).pendingId? = some k)
    (hi : (s'.calls i).pendingId? = none)
    (hp : ∀ j, j ≠ i → (s'.calls j).pendingId? = (s.calls j).pendingId?)
    (hh : s'.handedIds = s.handedIds ++ [k])
    (ht : s'.buffer.totalMessageCount = s.buffer.totalMessageCount) : IdStep s (.handOver i) s'

/-- The other calls do not move. -/
lemma setCall_ne (s : Senders) {i j : ℕ} (c : SendCall) (h : j ≠ i) :
    ((s.setCall i c).calls j) = s.calls j := by
  simp [setCall, h]

/-- The call that moves. -/
lemma setCall_self (s : Senders) (i : ℕ) (c : SendCall) : (s.setCall i c).calls i = c := by
  simp [setCall]

/-- Moving a call to a place without an id makes no id pending. -/
lemma pendingId?_of_setCall {s : Senders} {i j : ℕ} {c : SendCall} {k : ℤ}
    (hc : c.pendingId? = none) (h : ((s.setCall i c).calls j).pendingId? = some k) :
    (s.calls j).pendingId? = some k := by
  by_cases hj : j = i
  · rw [hj, setCall_self, hc] at h
    cases h
  · rwa [setCall_ne s c hj] at h

/-- Every step of the system has one of these effects.

**Proof sketch.** Cases on the action and the place of the call. `store` takes the next id for an
invocation-type message, also when a reconnect is in progress and the call returns at once. -/
lemma idStep_of_next {cfg : SendConfig} {s s' : Senders} {a : Action}
    (h : next cfg s a = some s') : IdStep s a s' := by
  cases a with
  | call i message =>
    simp only [next] at h
    split at h
    · cases h
      refine .keep _ _ (fun j k => pendingId?_of_setCall ?_) rfl le_rfl
      cases serialize cfg.protocol message <;> rfl
    · cases h
  | store i =>
    simp only [next] at h
    split at h
    · rename_i frame hi
      cases h
      cases hinv : isInvocationMessage frame.message with
      | true =>
        have ht := MessageBuffer.totalMessageCount_enqueue (b := s.buffer) i hinv
        cases s.buffer.reconnectInProgress with
        | true =>
          refine .keep _ _ (fun j k => pendingId?_of_setCall rfl) rfl ?_
          show s.buffer.totalMessageCount ≤ (s.buffer.enqueue frame i).totalMessageCount
          omega
        | false =>
          refine .assign _ _ i ?_ (fun j hj => ?_) rfl ht
          · rw [setCall_self]
            simp [SendCall.pendingId?, nextId, hinv]
          · rw [setCall_ne _ _ hj]
      | false =>
        refine .keep _ _ (fun j k => pendingId?_of_setCall ?_) rfl ?_
        · cases s.buffer.reconnectInProgress <;> simp [SendCall.pendingId?, nextId, hinv]
        · simp only [setCall, MessageBuffer.enqueue_of_not_isInvocationMessage i hinv, le_refl]
    · cases h
  | handOver i =>
    simp only [next] at h
    split at h
    · rename_i frame id rx hi
      split at h
      · cases h
        cases id with
        | none =>
          refine .keep _ _ (fun j k => pendingId?_of_setCall rfl) ?_ le_rfl
          simp [handedIds, setCall]
        | some k =>
          refine .handOver _ i k (by rw [hi]; rfl) (by rw [setCall_self]; rfl)
            (fun j hj => by rw [setCall_ne _ _ hj]) ?_ rfl
          simp [handedIds, setCall]
      · cases h
        exact .keep _ _ (fun j k => pendingId?_of_setCall rfl) rfl le_rfl
    · cases h
  | answer i outcome =>
    simp only [next] at h
    split at h
    · split at h <;> cases h <;>
        exact .keep _ _ (fun j k => pendingId?_of_setCall rfl) rfl le_rfl
    · cases h
  | ack message =>
    cases h
    exact .keep _ _ (fun _ _ hk => hk) rfl le_rfl

/-! ## The order of the ids -/

/-- What steps that do not overtake preserve: the ids handed over are increasing and below all
pending ones, pending ids differ, and no id is above the last one assigned. -/
structure Ordered (s : Senders) : Prop where
  inOrder : s.InOrder
  below : ∀ k ∈ s.handedIds, ∀ j k', (s.calls j).pendingId? = some k' → k < k'
  distinct : ∀ i j k, (s.calls i).pendingId? = some k → (s.calls j).pendingId? = some k → i = j
  handed_le : ∀ k ∈ s.handedIds, k ≤ s.buffer.totalMessageCount
  pending_le : ∀ j k, (s.calls j).pendingId? = some k → k ≤ s.buffer.totalMessageCount

/-- Nothing has been sent. -/
lemma ordered_init (cfg : SendConfig) : (init cfg).Ordered where
  inOrder := List.Pairwise.nil
  below := by simp [init, handedIds]
  distinct := by simp [init, SendCall.pendingId?]
  handed_le := by simp [init, handedIds]
  pending_le := by simp [init, SendCall.pendingId?]

section Step

variable {s s' : Senders} {i : ℕ} {k : ℤ}

/-- A step after which no further id is pending. -/
lemma Ordered.keep (h : s.Ordered)
    (hp : ∀ j k, (s'.calls j).pendingId? = some k → (s.calls j).pendingId? = some k)
    (hh : s'.handedIds = s.handedIds)
    (ht : s.buffer.totalMessageCount ≤ s'.buffer.totalMessageCount) : s'.Ordered := by
  refine ⟨?_, ?_, ?_, ?_, ?_⟩
  · rw [InOrder, hh]
    exact h.inOrder
  · intro k hk j k' hj
    rw [hh] at hk
    exact h.below k hk j k' (hp j k' hj)
  · intro j l k hj hl
    exact h.distinct j l k (hp j k hj) (hp l k hl)
  · intro k hk
    rw [hh] at hk
    exact (h.handed_le k hk).trans ht
  · intro j k hj
    exact (h.pending_le j k (hp j k hj)).trans ht

/-- A step that assigns the next id: it is above all others. -/
lemma Ordered.assign (h : s.Ordered)
    (hi : (s'.calls i).pendingId? = some (s.buffer.totalMessageCount + 1))
    (hp : ∀ j, j ≠ i → (s'.calls j).pendingId? = (s.calls j).pendingId?)
    (hh : s'.handedIds = s.handedIds)
    (ht : s'.buffer.totalMessageCount = s.buffer.totalMessageCount + 1) : s'.Ordered := by
  have hnew : ∀ j k, (s'.calls j).pendingId? = some k →
      j = i ∧ k = s.buffer.totalMessageCount + 1 ∨ j ≠ i ∧ (s.calls j).pendingId? = some k := by
    intro j k hj
    by_cases hji : j = i
    · rw [hji, hi, Option.some.injEq] at hj
      exact .inl ⟨hji, hj.symm⟩
    · exact .inr ⟨hji, by rw [← hp j hji]; exact hj⟩
  refine ⟨?_, ?_, ?_, ?_, ?_⟩
  · rw [InOrder, hh]
    exact h.inOrder
  · intro k hk j k' hj
    rw [hh] at hk
    rcases hnew j k' hj with ⟨-, rfl⟩ | ⟨-, hold⟩
    · have := h.handed_le k hk
      omega
    · exact h.below k hk j k' hold
  · intro j l k hj hl
    rcases hnew j k hj with ⟨rfl, rfl⟩ | ⟨-, hold⟩ <;>
      rcases hnew l _ hl with ⟨rfl, hk⟩ | ⟨-, hold'⟩
    · rfl
    · have := h.pending_le l _ hold'
      omega
    · have := h.pending_le j _ hold
      omega
    · exact h.distinct j l k hold hold'
  · intro k hk
    rw [hh] at hk
    have := h.handed_le k hk
    omega
  · intro j k hj
    rcases hnew j k hj with ⟨-, rfl⟩ | ⟨-, hold⟩
    · omega
    · have := h.pending_le j k hold
      omega

/-- A step that hands the least pending id over. The other pending ids are greater, because
pending ids differ. -/
lemma Ordered.handOver (h : s.Ordered) (hk : (s.calls i).pendingId? = some k)
    (hleast : ∀ j k', (s.calls j).pendingId? = some k' → k ≤ k')
    (hi : (s'.calls i).pendingId? = none)
    (hp : ∀ j, j ≠ i → (s'.calls j).pendingId? = (s.calls j).pendingId?)
    (hh : s'.handedIds = s.handedIds ++ [k])
    (ht : s'.buffer.totalMessageCount = s.buffer.totalMessageCount) : s'.Ordered := by
  have hother : ∀ j k', (s'.calls j).pendingId? = some k' →
      (s.calls j).pendingId? = some k' ∧ k < k' := by
    intro j k' hj
    have hji : j ≠ i := by
      rintro rfl
      rw [hi] at hj
      cases hj
    rw [hp j hji] at hj
    refine ⟨hj, lt_of_le_of_ne (hleast j k' hj) ?_⟩
    rintro rfl
    exact hji (h.distinct j i k hj hk)
  refine ⟨?_, ?_, ?_, ?_, ?_⟩
  · rw [InOrder, hh, List.pairwise_append]
    refine ⟨h.inOrder, List.pairwise_singleton _ _, ?_⟩
    intro k₁ hk₁ k₂ hk₂
    rw [List.mem_singleton.mp hk₂]
    exact h.below k₁ hk₁ i k hk
  · intro k₁ hk₁ j k' hj
    obtain ⟨hold, hlt⟩ := hother j k' hj
    rw [hh] at hk₁
    rcases List.mem_append.mp hk₁ with hk₁ | hk₁
    · exact h.below k₁ hk₁ j k' hold
    · rwa [List.mem_singleton.mp hk₁]
  · intro j l k' hj hl
    exact h.distinct j l k' (hother j k' hj).1 (hother l k' hl).1
  · intro k₁ hk₁
    rw [hh] at hk₁
    rw [ht]
    rcases List.mem_append.mp hk₁ with hk₁ | hk₁
    · exact h.handed_le k₁ hk₁
    · rw [List.mem_singleton.mp hk₁]
      exact h.pending_le i k hk
  · intro j k' hj
    rw [ht]
    exact h.pending_le j k' (hother j k' hj).1

/-- **One step** that does not overtake. -/
lemma ordered_next {cfg : SendConfig} {a : Action} (h : s.Ordered) (hok : NotOvertaking s a)
    (hstep : next cfg s a = some s') : s'.Ordered := by
  cases idStep_of_next hstep with
  | keep _ _ hp hh ht => exact h.keep hp hh ht
  | assign _ _ i hi hp hh ht => exact h.assign hi hp hh ht
  | handOver _ i k hk hi hp hh ht => exact h.handOver hk (hok i k rfl hk) hi hp hh ht

end Step

/-- **Wire order is buffer order** in runs in which no call overtakes another one. -/
theorem inOrder_of_meets (cfg : SendConfig) {as : List Action} {s : Senders}
    (hrun : (system cfg).run as = some s) (hm : (system cfg).Meets NotOvertaking as) :
    s.InOrder := by
  have h : s.Ordered := Automata.System.invariant_of_meets (I := Ordered) (ordered_init cfg)
    (fun _ _ _ hs hok hstep => ordered_next hs hok hstep) hrun hm
  exact h.inOrder

/-- Two calls that are both between their steps, the earlier one handing over first. -/
theorem inOrder_of_meets_two :
    let cfg : SendConfig := ⟨.typeOnly, .binary, defaultStatefulReconnectBufferSize⟩
    ∃ s, (system cfg).run [.call 0 (.cancelInvocation ⟨[], "1"⟩), .store 0,
        .call 1 (.cancelInvocation ⟨[], "2"⟩), .store 1, .handOver 0, .handOver 1] = some s ∧
      s.handedIds = [1, 2] ∧ s.InOrder := by
  intro cfg
  have hrun : (system cfg).run [.call 0 (.cancelInvocation ⟨[], "1"⟩), .store 0,
    .call 1 (.cancelInvocation ⟨[], "2"⟩), .store 1, .handOver 0, .handOver 1] = some _ := rfl
  have hnot : ∀ {s : Senders} {a : Action}, (∀ i, a ≠ .handOver i) → NotOvertaking s a :=
    fun h i _ ha => absurd ha (h i)
  refine ⟨_, hrun, rfl, inOrder_of_meets cfg hrun ?_⟩
  refine Automata.System.meetsFrom_cons_of_next _ rfl (hnot (by simp)) ?_
  refine Automata.System.meetsFrom_cons_of_next _ rfl (hnot (by simp)) ?_
  refine Automata.System.meetsFrom_cons_of_next _ rfl (hnot (by simp)) ?_
  refine Automata.System.meetsFrom_cons_of_next _ rfl (hnot (by simp)) ?_
  refine Automata.System.meetsFrom_cons_of_next _ rfl ?_ ?_
  · rintro i k ⟨⟩ hk j k' hj
    have hk : some (1 : ℤ) = some k := hk
    have hj : (j = 0 ∧ some (1 : ℤ) = some k') ∨ (j = 1 ∧ some (2 : ℤ) = some k') := by
      match j, hj with
      | 0, hj => exact .inl ⟨rfl, hj⟩
      | 1, hj => exact .inr ⟨rfl, hj⟩
    simp only [Option.some.injEq] at hk hj
    omega
  · refine Automata.System.meetsFrom_cons_of_next _ rfl ?_ (Automata.System.meetsFrom_nil _ _ _)
    rintro i k ⟨⟩ hk j k' hj
    have hk : some (2 : ℤ) = some k := hk
    have hj : j = 1 ∧ some (2 : ℤ) = some k' := by
      match j, hj with
      | 1, hj => exact ⟨rfl, hj⟩
    simp only [Option.some.injEq] at hk hj
    omega

/-- **Wire order can differ from buffer order**: the second call hands its message over while the
first one, with the smaller id, is still between its two steps. -/
theorem not_inOrder : ¬ ∀ (cfg : SendConfig) as s, (system cfg).run as = some s → s.InOrder := by
  intro h
  have hord := h ⟨.typeOnly, .binary, defaultStatefulReconnectBufferSize⟩
    [.call 0 (.cancelInvocation ⟨[], "1"⟩), .store 0, .call 1 (.cancelInvocation ⟨[], "2"⟩),
      .store 1, .handOver 1, .handOver 0] _ rfl
  have : ([2, 1] : List ℤ).Pairwise (· < ·) := hord
  revert this
  decide

/-- A call that has been overtaken breaks the order when it hands its message over. -/
lemma not_inOrder_of_overtaken {cfg : SendConfig} {s s' : Senders} {i : ℕ} {k k' : ℤ}
    (hk : k ∈ s.handedIds) (hi : (s.calls i).pendingId? = some k') (hlt : k' < k)
    (hstep : next cfg s (.handOver i) = some s') (hhanded : s'.handed ≠ s.handed) :
    ¬ s'.InOrder := by
  intro hord
  have hids : s'.handedIds = s.handedIds ++ [k'] := by
    simp only [next] at hstep
    split at hstep
    · rename_i frame id rx hcall
      rw [hcall] at hi
      obtain rfl : id = some k' := hi
      split at hstep
      · cases hstep
        simp [handedIds, setCall]
      · cases hstep
        exact absurd rfl hhanded
    · cases hstep
  rw [InOrder, hids, List.pairwise_append] at hord
  have := hord.2.2 k hk k' List.mem_cons_self
  omega

/-- `send_serialized` in terms of what it passes on. -/
lemma sendSerialized_eq (fmt : TransferFormat) (transport : Bytes → Except Error Unit)
    (payload : Bytes) :
    sendSerialized fmt transport payload =
      if acceptsPayload fmt payload then transport payload
      else .error (.protocol "invalid text payload") := by
  cases fmt <;> simp [sendSerialized, acceptsPayload]

/-- **A call that runs alone** leaves the buffer and returns the result that `MessageBuffer.send`
describes.

**Proof sketch.** The steps of the call one after the other, in each of the cases of
`MessageBuffer.send`. -/
theorem runFrom_alone (cfg : SendConfig) {s : Senders} {i : ℕ} (hi : s.calls i = .idle)
    (message : HubMessage) (outcome : Except Error Unit) :
    ∃ as s', (system cfg).runFrom s as = some s' ∧
      s'.buffer = (s.buffer.send cfg.protocol cfg.transferFormat (fun _ => outcome) message
        i).buffer ∧
      s'.calls i = .done (s.buffer.send cfg.protocol cfg.transferFormat (fun _ => outcome) message
        i).result := by
  cases hf : serialize cfg.protocol message with
  | error e =>
    refine ⟨[.call i message], s.setCall i (.done (.error e)), ?_, ?_, ?_⟩
    · simp [system, next, hi, hf]
    · simp [MessageBuffer.send, hf, setCall]
    · simp [MessageBuffer.send, hf, setCall]
  | ok f =>
    cases hr : s.buffer.reconnectInProgress with
    | true =>
      refine ⟨[.call i message, .store i], { s with buffer := s.buffer.enqueue f i }.setCall i
        (.done (.ok (s.buffer.backpressure f i))), ?_, ?_, ?_⟩
      · simp [system, next, hi, hf, hr, setCall]
      · simp [MessageBuffer.send, hf, hr, setCall]
      · simp [MessageBuffer.send, hf, hr, setCall]
    | false =>
      cases ha : acceptsPayload cfg.transferFormat f.payload with
      | false =>
        refine ⟨[.call i message, .store i, .handOver i],
          { s with buffer := (s.buffer.enqueue f i).disconnected }.setCall i
            (.done (.error (.protocol "invalid text payload"))), ?_, ?_, ?_⟩
        · simp [system, next, hi, hf, hr, ha, setCall]
        · simp [MessageBuffer.send, hf, hr, sendSerialized_eq, ha, setCall]
        · simp [MessageBuffer.send, hf, hr, sendSerialized_eq, ha, setCall]
      | true =>
        cases outcome with
        | ok _ =>
          refine ⟨[.call i message, .store i, .handOver i, .answer i (.ok ())],
            { s with
              buffer := s.buffer.enqueue f i
              handed := s.handed ++ [(f, s.nextId f.message)] }.setCall i
              (.done (.ok (s.buffer.backpressure f i))), ?_, ?_, ?_⟩
          · simp [system, next, hi, hf, hr, ha, setCall, nextId]
          · simp [MessageBuffer.send, hf, hr, sendSerialized_eq, ha, setCall]
          · simp [MessageBuffer.send, hf, hr, sendSerialized_eq, ha, setCall]
        | error e =>
          refine ⟨[.call i message, .store i, .handOver i, .answer i (.error e)],
            { s with
              buffer := (s.buffer.enqueue f i).disconnected
              handed := s.handed ++ [(f, s.nextId f.message)] }.setCall i
              (.done (.error e)), ?_, ?_, ?_⟩
          · simp [system, next, hi, hf, hr, ha, setCall, nextId]
          · simp [MessageBuffer.send, hf, hr, sendSerialized_eq, ha, setCall]
          · simp [MessageBuffer.send, hf, hr, sendSerialized_eq, ha, setCall]

end Senders

end Signalrr.HubConnection
