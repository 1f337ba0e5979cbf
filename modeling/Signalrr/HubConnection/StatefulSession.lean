import Signalrr.HubConnection.Link

set_option relaxedAutoImplicit false
set_option autoImplicit false

/-!
# A stateful session at the granularity of its locks

`Link` treats a send, a resume and the ack timer as single steps. Here they are taken apart: a send
holds the read lock of `runtime` from its start to the end of its write
(`src/hub_connection/mod.rs`, `send_through`), `resume_transport` reopens the transport, starts its
receive task, then waits for the write lock, and the task of `schedule_ack_timer` sleeps, looks
whether a reconnect is in progress, writes an `Ack` and clears the flag.

## Main definitions

* `Signalrr.HubConnection.MessageBuffer.dispatch` — what a received message does to the buffer.
* `Signalrr.HubConnection.StatefulSession` — the buffer with the sends, the resume and the ack tasks
  around it.
* `Signalrr.HubConnection.StatefulSession.system` — their steps, in any order.

## Main results

* `Signalrr.HubConnection.MessageBuffer.dispatch_spec` — the effect of a received message on what
  the receiving side keeps.
* `Signalrr.HubConnection.StatefulSession.step_of_next` — everything a step can do.

## Design

Transports are numbered in the order in which they are opened. `resume_transport` is called when the
receive task of the current transport has ended, so it starts when there is no current transport. A
resume that fails is the last one: the supervisor goes on to a new connection with a new buffer, or
gives up.

An ack task reads the counter and writes the `Ack` in one step, and clears the flag in another. A
message that arrives during the write changes nothing the write depends on, so it stands for one
that arrives between the two steps. A failed write and the call of `disconnected` that follows it
are one step for the same reason. `resend` holds the write lock, so the buffered items do not change
meanwhile, and it is one step.
-/

namespace Signalrr.HubConnection

open Hub

/-! ## Received messages -/

namespace MessageBuffer

/-- A received message is counted: it gets the next receiving id. -/
def counts (b : MessageBuffer) (message : HubMessage) : Bool :=
  !b.waitForSequenceMessage && isInvocationMessage message

/-- A received message makes `should_process_message` call `schedule_ack_timer`. -/
def schedules (b : MessageBuffer) (message : HubMessage) : Bool :=
  b.counts message && decide (b.latestReceivedSequenceId ≤ b.nextReceivingSequenceId)

/-- A received message is a `Sequence` that `reset_sequence` obeys. -/
def resets (b : MessageBuffer) (message : HubMessage) : Bool :=
  message.sequenceId?.any fun k => decide (k ≤ b.nextReceivingSequenceId)

/-- `DispatchContext::dispatch` as far as the buffer is concerned: the buffer, and whether an ack
task was spawned. -/
def dispatch (b : MessageBuffer) (message : HubMessage) : MessageBuffer × Bool :=
  let r := b.shouldProcessMessage message
  if r.process then
    match message with
    | .ack ack => (r.buffer.ack ack, r.timer)
    | .sequence sequence => ((r.buffer.resetSequence sequence).toOption.getD r.buffer, r.timer)
    | _ => (r.buffer, r.timer)
  else (r.buffer, r.timer)

/-- It is what an end of a `Link` does with a message. -/
lemma dispatch_eq (x : Peer) (t : ℕ) (m : HubMessage) :
    (x.dispatch t m).buffer = (x.buffer.dispatch m).1 ∧
      (x.dispatch t m).timer = if (x.buffer.dispatch m).2 then some t else x.timer := by
  unfold Peer.dispatch dispatch
  dsimp only
  split
  · cases m with
    | sequence message =>
      dsimp only
      cases (x.buffer.shouldProcessMessage (.sequence message)).buffer.resetSequence message <;>
        exact ⟨rfl, rfl⟩
    | ack message => exact ⟨rfl, rfl⟩
    | _ =>
      dsimp only
      split <;> exact ⟨rfl, rfl⟩
  · exact ⟨rfl, rfl⟩

/-- An invocation-type message acts on the buffer through `should_process_message` only. -/
lemma dispatch_of_isInvocationMessage (b : MessageBuffer) {m : HubMessage}
    (hm : isInvocationMessage m = true) :
    b.dispatch m = ((b.shouldProcessMessage m).buffer, (b.shouldProcessMessage m).timer) := by
  unfold dispatch
  dsimp only
  split
  · cases m with
    | ack _ => cases hm
    | sequence _ => cases hm
    | _ => rfl
  · rfl

/-- Other messages leave the counters of the receiving side alone, apart from a `Sequence`. -/
lemma dispatch_of_not_isInvocationMessage (b : MessageBuffer) {m : HubMessage}
    (hm : isInvocationMessage m = false) :
    (b.dispatch m).1.latestReceivedSequenceId = b.latestReceivedSequenceId ∧
      (b.dispatch m).1.ackScheduled = b.ackScheduled ∧ (b.dispatch m).2 = false ∧
      (b.dispatch m).1.reconnectInProgress = b.reconnectInProgress ∧
      (b.dispatch m).1.waitForSequenceMessage =
        (b.waitForSequenceMessage && !b.resets m) := by
  cases m with
  | sequence sequence =>
    have hr : b.shouldProcessMessage (.sequence sequence) = ⟨b, true, false⟩ := by
      unfold shouldProcessMessage
      cases b.waitForSequenceMessage <;> rfl
    by_cases hk : b.nextReceivingSequenceId < sequence.sequenceId
    · simp [dispatch, hr, resetSequence, hk, Except.toOption, resets, HubMessage.sequenceId?]
    · simp [dispatch, hr, resetSequence, hk, Except.toOption, resets, HubMessage.sequenceId?,
        not_lt.mp hk]
  | ack ack =>
    cases hw : b.waitForSequenceMessage <;>
      simp [dispatch, shouldProcessMessage, hw, hm, MessageBuffer.ack, resets,
        HubMessage.sequenceId?]
  | invocation _ | streamInvocation _ | streamItem _ | completion _ | cancelInvocation _ => cases hm
  | ping | close _ =>
    cases hw : b.waitForSequenceMessage <;>
      simp [dispatch, shouldProcessMessage, hw, hm, resets, HubMessage.sequenceId?]

/-- **What a received message does** to what the receiving side keeps. -/
lemma dispatch_spec (b : MessageBuffer) (m : HubMessage) :
    (b.dispatch m).1.latestReceivedSequenceId =
        (if b.schedules m then b.nextReceivingSequenceId else b.latestReceivedSequenceId) ∧
      (b.dispatch m).1.ackScheduled = (b.ackScheduled || b.schedules m) ∧
      (b.dispatch m).2 = (b.schedules m && !b.ackScheduled) ∧
      (b.dispatch m).1.reconnectInProgress = b.reconnectInProgress ∧
      (b.dispatch m).1.waitForSequenceMessage =
        (b.waitForSequenceMessage && !b.resets m) := by
  by_cases hm : isInvocationMessage m = true
  · have hresets : b.resets m = false := by
      simp [resets, sequenceId?_of_isInvocationMessage hm]
    rw [b.dispatch_of_isInvocationMessage hm, hresets]
    cases hw : b.waitForSequenceMessage with
    | true => simp [shouldProcessMessage, hw, schedules, counts]
    | false =>
      rcases lt_trichotomy b.nextReceivingSequenceId b.latestReceivedSequenceId with
        hlt | heq | hgt
      · simp [shouldProcessMessage, hw, hm, schedules, counts, hlt.le, hlt.ne, not_le.mpr hlt]
      · cases hs : b.ackScheduled <;>
          simp [shouldProcessMessage, scheduleAckTimer, hw, hm, schedules, counts, heq, hs]
      · cases hs : b.ackScheduled <;>
          simp [shouldProcessMessage, scheduleAckTimer, hw, hm, schedules, counts, hgt.le,
            not_le.mpr hgt, hs]
  · rw [Bool.not_eq_true] at hm
    have hschedules : b.schedules m = false := by simp [schedules, counts, hm]
    rw [hschedules]
    simpa using b.dispatch_of_not_isInvocationMessage hm

end MessageBuffer

/-! ## The session -/

/-- Where a call of `send_through` is. -/
inductive SendPc where
  /-- It holds the read lock and has serialized its message. -/
  | locked (transport : ℕ) (frame : Frame) (waiter : Waiter)
  /-- It holds the read lock and its message is being written. -/
  | writing (transport : ℕ) (frame : Frame)
  /-- It has released the lock. -/
  | returned

/-- The call holds the read lock of `runtime`. -/
def SendPc.reading : SendPc → Bool
  | locked _ _ _ => true
  | writing _ _ => true
  | returned => false

/-- Where `resume_transport` is. -/
inductive ResumePc where
  /-- Not called, or returned `Ok`. -/
  | idle
  /-- The buffer is disconnected, the old runtime is still running. -/
  | aborting
  /-- The old runtime is aborted. -/
  | reopening
  /-- The new runtime is started and waits for the write lock. -/
  | storing
  /-- It holds the write lock. -/
  | resending
  /-- It has returned an error. -/
  | failed
  deriving DecidableEq, Repr

/-- `resume_transport` holds the write lock of `runtime` or waits for it, so that no new send gets
the read lock. -/
def ResumePc.writing : ResumePc → Bool
  | storing => true
  | resending => true
  | _ => false

/-- Where the task of `schedule_ack_timer` is. -/
inductive AckPc where
  | sleeping
  /-- It has seen that no reconnect is in progress. -/
  | reading
  /-- The flag is all that is left. -/
  | clearing
  | done
  deriving DecidableEq, Repr

/-- The task will still read the latest received id. -/
def AckPc.pending : AckPc → Bool
  | sleeping => true
  | reading => true
  | _ => false

/-- A task of `schedule_ack_timer` with the transport it has captured. -/
structure AckTask where
  transport : ℕ
  pc : AckPc
  deriving DecidableEq, Repr

/-- The buffer of a stateful connection and everyone who uses it. -/
structure StatefulSession where
  buffer : MessageBuffer
  /-- The newest transport. -/
  opened : ℕ
  /-- The current transport: the newest one while its receive task runs. -/
  current : Option ℕ
  /-- The transport of the runtime in `runtime`. -/
  stored : ℕ
  resume : ResumePc
  sends : List SendPc
  acks : List AckTask
  /-- The ids of the messages that have arrived on the newest transport. -/
  arrived : List ℤ
  /-- The ids of the acknowledgements written to it. -/
  acknowledged : List ℤ
  /-- A `Sequence` of the peer has been processed on it. -/
  sequenced : Bool
  /-- A write of a send or of `resend` to it has failed. -/
  failedSend : Bool

namespace StatefulSession

/-- A fresh connection. -/
def new (bufferSize : ℕ) : StatefulSession where
  buffer := .new bufferSize
  opened := 0
  current := some 0
  stored := 0
  resume := .idle
  sends := []
  acks := []
  arrived := []
  acknowledged := []
  sequenced := false
  failedSend := false

/-- What happens in a session. -/
inductive Action where
  /-- The current transport drops, its receive task ends. -/
  | drop
  /-- The receive task gets a message. -/
  | receive (message : HubMessage)
  /-- A send gets the read lock and serializes its message. -/
  | sendLock (message : HubMessage) (waiter : Waiter)
  /-- A send stores its message and decides whether to write it. -/
  | sendStore (i : ℕ)
  /-- The write of a send ends. -/
  | sendWrite (i : ℕ) (outcome : Except Error Unit)
  /-- `resume_transport` calls `disconnected`. -/
  | resumeStart
  /-- It aborts the old runtime. -/
  | resumeAbort
  /-- It opens a new transport and starts its receive task, or fails. -/
  | resumeReopen (outcome : Except Error Unit)
  /-- It gets the write lock and stores the new runtime. -/
  | resumeStore
  /-- It has called `resend`; the `k`-th write ends with `outcome k`. -/
  | resumeResend (outcome : ℕ → Except Error Unit)
  /-- An ack task wakes up. -/
  | ackWake (k : ℕ)
  /-- An ack task reads the counter and its write ends. -/
  | ackWrite (k : ℕ) (outcome : Except Error Unit)
  /-- An ack task clears the flag and ends. -/
  | ackClear (k : ℕ)

/-- The receive task of transport `t` gets a message. -/
def receive (s : StatefulSession) (t : ℕ) (message : HubMessage) : StatefulSession :=
  { s with
    buffer := (s.buffer.dispatch message).1
    acks := if (s.buffer.dispatch message).2 then s.acks ++ [⟨t, .sleeping⟩] else s.acks
    arrived :=
      if s.buffer.counts message then s.arrived ++ [s.buffer.nextReceivingSequenceId]
      else s.arrived
    sequenced := s.sequenced || s.buffer.resets message }

/-- Send `i` stores its message. -/
def sendStore (s : StatefulSession) (i t : ℕ) (frame : Frame) (waiter : Waiter) : StatefulSession :=
  { s with
    buffer := s.buffer.enqueue frame waiter
    sends := s.sends.set i (if s.buffer.reconnectInProgress then .returned else .writing t frame) }

/-- The write of send `i` to transport `t` ends. -/
def sendWrite (cfg : LinkConfig) (s : StatefulSession) (i t : ℕ) (frame : Frame)
    (outcome : Except Error Unit) : StatefulSession :=
  match sendSerialized cfg.transferFormat (fun _ => outcome) frame.payload with
  | .ok () => { s with sends := s.sends.set i .returned }
  | .error _ =>
    { s with
      buffer := s.buffer.disconnected
      sends := s.sends.set i .returned
      failedSend := s.failedSend || t = s.opened }

/-- A new transport is opened and its receive task started. -/
def reopen (s : StatefulSession) : StatefulSession :=
  { s with
    opened := s.opened + 1
    current := some (s.opened + 1)
    resume := .storing
    arrived := []
    acknowledged := []
    sequenced := false
    failedSend := false }

/-- `resend` on the reopened transport. -/
def resend (cfg : LinkConfig) (s : StatefulSession) (outcome : ℕ → Except Error Unit) :
    StatefulSession :=
  let o := s.buffer.resend cfg.protocol cfg.transferFormat fun k _ => outcome k
  match o.result with
  | .ok () => { s with buffer := o.buffer, resume := .idle }
  | .error _ => { s with buffer := o.buffer, resume := .failed, failedSend := true }

/-- Ack task `k`, which has captured transport `t`, writes its `Ack`; what is written to an earlier
transport is lost. -/
def ackWrite (cfg : LinkConfig) (s : StatefulSession) (k t : ℕ) (outcome : Except Error Unit) :
    StatefulSession :=
  let id := s.buffer.latestReceivedSequenceId
  let r := sendHubMessage cfg.protocol cfg.transferFormat (fun _ => outcome) (.ack ⟨id⟩)
  { s with
    acks := s.acks.set k ⟨t, .clearing⟩
    acknowledged :=
      if t = s.opened then s.acknowledged ++ r.1.map fun _ => id else s.acknowledged }

/-- One step. -/
def next (cfg : LinkConfig) (s : StatefulSession) : Action → Option StatefulSession
  | .drop => s.current.map fun _ => { s with current := none }
  | .receive message => s.current.map fun t => s.receive t message
  | .sendLock message waiter =>
    if s.resume.writing then none
    else
      match serialize cfg.protocol message with
      | .error _ => some { s with sends := s.sends ++ [.returned] }
      | .ok frame => some { s with sends := s.sends ++ [.locked s.stored frame waiter] }
  | .sendStore i =>
    match s.sends[i]? with
    | some (.locked t frame waiter) => some (s.sendStore i t frame waiter)
    | _ => none
  | .sendWrite i outcome =>
    match s.sends[i]? with
    | some (.writing t frame) => some (s.sendWrite cfg i t frame outcome)
    | _ => none
  | .resumeStart =>
    if s.resume = .idle ∧ s.current = none then
      some { s with buffer := s.buffer.disconnected, resume := .aborting }
    else none
  | .resumeAbort => if s.resume = .aborting then some { s with resume := .reopening } else none
  | .resumeReopen outcome =>
    if s.resume = .reopening then
      match outcome with
      | .ok () => some s.reopen
      | .error _ => some { s with resume := .failed }
    else none
  | .resumeStore =>
    if s.resume = .storing ∧ s.sends.all fun send => !send.reading then
      some { s with stored := s.opened, resume := .resending }
    else none
  | .resumeResend outcome =>
    if s.resume = .resending then some (s.resend cfg outcome) else none
  | .ackWake k =>
    match s.acks[k]? with
    | some ⟨t, .sleeping⟩ =>
      some { s with
        acks := s.acks.set k
          ⟨t, if s.buffer.reconnectInProgress then .clearing else .reading⟩ }
    | _ => none
  | .ackWrite k outcome =>
    match s.acks[k]? with
    | some ⟨t, .reading⟩ => some (s.ackWrite cfg k t outcome)
    | _ => none
  | .ackClear k =>
    match s.acks[k]? with
    | some ⟨t, .clearing⟩ =>
      some { s with
        buffer := { s.buffer with ackScheduled := false }
        acks := s.acks.set k ⟨t, .done⟩ }
    | _ => none

/-- The runs of a stateful session. -/
def system (cfg : LinkConfig) (bufferSize : ℕ) : Automata.System StatefulSession Action :=
  ⟨new bufferSize, next cfg⟩

/-- Messages without arguments, on binary transports. -/
def plainLink : LinkConfig := ⟨.typeOnly, .binary, fun _ => 100⟩

/-! ## Everything a step can do -/

/-- The steps of a session, one constructor for each branch. -/
inductive Step (cfg : LinkConfig) (s : StatefulSession) : Action → StatefulSession → Prop where
  | drop : Step cfg s .drop { s with current := none }
  | receive (t : ℕ) (message : HubMessage) (hcur : s.current = some t) :
    Step cfg s (.receive message) (s.receive t message)
  | sendRefused (message : HubMessage) (waiter : Waiter) :
    Step cfg s (.sendLock message waiter) { s with sends := s.sends ++ [.returned] }
  | sendLock (message : HubMessage) (waiter : Waiter) (frame : Frame)
    (hresume : s.resume.writing = false) :
    Step cfg s (.sendLock message waiter)
      { s with sends := s.sends ++ [.locked s.stored frame waiter] }
  | sendStore (i t : ℕ) (frame : Frame) (waiter : Waiter)
    (hi : s.sends[i]? = some (.locked t frame waiter)) :
    Step cfg s (.sendStore i) (s.sendStore i t frame waiter)
  | sendWrite (i t : ℕ) (frame : Frame) (outcome : Except Error Unit)
    (hi : s.sends[i]? = some (.writing t frame)) :
    Step cfg s (.sendWrite i outcome) (s.sendWrite cfg i t frame outcome)
  | resumeStart (hresume : s.resume = .idle) (hcur : s.current = none) :
    Step cfg s .resumeStart { s with buffer := s.buffer.disconnected, resume := .aborting }
  | resumeAbort (hresume : s.resume = .aborting) :
    Step cfg s .resumeAbort { s with resume := .reopening }
  | resumeReopen (hresume : s.resume = .reopening) : Step cfg s (.resumeReopen (.ok ())) s.reopen
  | resumeFail (error : Error) (hresume : s.resume = .reopening) :
    Step cfg s (.resumeReopen (.error error)) { s with resume := .failed }
  | resumeStore (hresume : s.resume = .storing) (hidle : ∀ send ∈ s.sends, send.reading = false) :
    Step cfg s .resumeStore { s with stored := s.opened, resume := .resending }
  | resumeResend (outcome : ℕ → Except Error Unit) (hresume : s.resume = .resending) :
    Step cfg s (.resumeResend outcome) (s.resend cfg outcome)
  | ackWake (k t : ℕ) (hk : s.acks[k]? = some ⟨t, .sleeping⟩) :
    Step cfg s (.ackWake k) { s with
      acks := s.acks.set k ⟨t, if s.buffer.reconnectInProgress then .clearing else .reading⟩ }
  | ackWrite (k t : ℕ) (outcome : Except Error Unit) (hk : s.acks[k]? = some ⟨t, .reading⟩) :
    Step cfg s (.ackWrite k outcome) (s.ackWrite cfg k t outcome)
  | ackClear (k t : ℕ) (hk : s.acks[k]? = some ⟨t, .clearing⟩) :
    Step cfg s (.ackClear k) { s with
      buffer := { s.buffer with ackScheduled := false }
      acks := s.acks.set k ⟨t, .done⟩ }

/-- Every step of the system is one of these. -/
lemma step_of_next {cfg : LinkConfig} {s s' : StatefulSession} {a : Action}
    (h : s.next cfg a = some s') : Step cfg s a s' := by
  cases a with
  | drop =>
    obtain ⟨t, -, rfl⟩ := Option.map_eq_some_iff.mp h
    exact .drop
  | receive message =>
    obtain ⟨t, hcur, rfl⟩ := Option.map_eq_some_iff.mp h
    exact .receive t message hcur
  | sendLock message waiter =>
    simp only [next] at h
    split at h
    · cases h
    · rename_i hresume
      split at h
      · cases h
        exact .sendRefused message waiter
      · cases h
        exact .sendLock message waiter _ (by simpa using hresume)
  | sendStore i =>
    simp only [next] at h
    split at h
    · rename_i t frame waiter hi
      cases h
      exact .sendStore i t frame waiter hi
    · cases h
  | sendWrite i outcome =>
    simp only [next] at h
    split at h
    · rename_i t frame hi
      cases h
      exact .sendWrite i t frame outcome hi
    · cases h
  | resumeStart =>
    simp only [next, Option.ite_none_right_eq_some, Option.some.injEq] at h
    obtain ⟨⟨hresume, hcur⟩, rfl⟩ := h
    exact .resumeStart hresume hcur
  | resumeAbort =>
    simp only [next, Option.ite_none_right_eq_some, Option.some.injEq] at h
    obtain ⟨hresume, rfl⟩ := h
    exact .resumeAbort hresume
  | resumeReopen outcome =>
    simp only [next, Option.ite_none_right_eq_some] at h
    obtain ⟨hresume, h⟩ := h
    cases outcome with
    | ok u =>
      cases h
      exact .resumeReopen hresume
    | error e =>
      cases h
      exact .resumeFail e hresume
  | resumeStore =>
    simp only [next, Option.ite_none_right_eq_some, Option.some.injEq] at h
    obtain ⟨⟨hresume, hidle⟩, rfl⟩ := h
    exact .resumeStore hresume (by simpa using hidle)
  | resumeResend outcome =>
    simp only [next, Option.ite_none_right_eq_some, Option.some.injEq] at h
    obtain ⟨hresume, rfl⟩ := h
    exact .resumeResend outcome hresume
  | ackWake k =>
    simp only [next] at h
    split at h
    · rename_i t hk
      cases h
      exact .ackWake k t hk
    · cases h
  | ackWrite k outcome =>
    simp only [next] at h
    split at h
    · rename_i t hk
      cases h
      exact .ackWrite k t outcome hk
    · cases h
  | ackClear k =>
    simp only [next] at h
    split at h
    · rename_i t hk
      cases h
      exact .ackClear k t hk
    · cases h

end StatefulSession

end Signalrr.HubConnection
