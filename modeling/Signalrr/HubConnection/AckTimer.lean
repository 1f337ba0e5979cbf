import Signalrr.HubConnection.StatefulSession

set_option relaxedAutoImplicit false
set_option autoImplicit false

/-!
# Acknowledging received messages

`schedule_ack_timer` (`src/hub_connection/message_buffer.rs`): an arrival sets the flag
`ack_scheduled` and spawns a task unless the flag is set already. The task sleeps, writes an `Ack`
with the latest received id to the transport it was spawned on, unless a reconnect is in progress,
and clears the flag last.

## Main definitions

* `Signalrr.HubConnection.StatefulSession.Acknowledged` — the latest message that has arrived on the
  current transport is acknowledged there or some task will do it.
* `Signalrr.HubConnection.StatefulSession.ackLost` — the steps after which this may fail: an arrival
  that relies on a task that has read the counter already or has captured an older transport, and a
  task on the current transport that gives up.

## Main results

* `Signalrr.HubConnection.StatefulSession.Scheduled.of_reachable` — while the flag is set there is a
  task that has not ended.
* `Signalrr.HubConnection.StatefulSession.acknowledged_of_meets` — every message is acknowledged in
  runs without these steps.
* `Signalrr.HubConnection.StatefulSession.ack_lost` — in general some are not.
-/

namespace Signalrr.HubConnection

open Hub

namespace StatefulSession

/-! ## Statement -/

/-- An `Ack` of the latest received message has been written to the newest transport. -/
def acked (s : StatefulSession) : Bool :=
  s.acknowledged.any fun n => decide (s.buffer.latestReceivedSequenceId ≤ n)

/-- If the latest received message has arrived on the current transport, it has been acknowledged
there or a task that has captured this transport will still read its id. -/
def Acknowledged (s : StatefulSession) : Prop :=
  ∀ t, s.current = some t → s.buffer.latestReceivedSequenceId ∈ s.arrived →
    s.acked = true ∨ ∃ task ∈ s.acks, task.transport = t ∧ task.pc.pending = true

/-- The task has not ended, and it will not read the latest id for the current transport. -/
def AckTask.stale (task : AckTask) (current : Option ℕ) : Bool :=
  task.pc != .done && !(some task.transport == current && task.pc.pending)

/-- The steps that lose an acknowledgement. -/
def ackLost (cfg : LinkConfig) (s : StatefulSession) : Action → Bool
  | .receive message =>
    -- `schedule_ack_timer` is called while the task it relies on is of no use
    s.buffer.schedules message &&
      !(decide (s.buffer.nextReceivingSequenceId = s.buffer.latestReceivedSequenceId) && s.acked) &&
      s.acks.any fun task => AckTask.stale task s.current
  | .ackWake k =>
    match s.acks[k]? with
    | some ⟨t, .sleeping⟩ =>
      some t == s.current && s.buffer.reconnectInProgress && !s.acked
    | _ => false
  | .ackWrite k outcome =>
    match s.acks[k]? with
    | some ⟨t, .reading⟩ =>
      some t == s.current &&
        (sendHubMessage cfg.protocol cfg.transferFormat (fun _ => outcome)
          (.ack ⟨s.buffer.latestReceivedSequenceId⟩)).1.isEmpty && !s.acked
    | _ => false
  | _ => false

/-- The condition on a step. -/
def LosesNoAck (cfg : LinkConfig) (s : StatefulSession) (a : Action) : Prop :=
  s.ackLost cfg a = false

instance (cfg : LinkConfig) (s : StatefulSession) (a : Action) : Decidable (s.LosesNoAck cfg a) :=
  inferInstanceAs (Decidable (s.ackLost cfg a = false))

/-! ## Flag and tasks -/

/-- What acknowledging depends on. -/
structure SameAcks (s s' : StatefulSession) : Prop where
  latest : s'.buffer.latestReceivedSequenceId = s.buffer.latestReceivedSequenceId
  scheduled : s'.buffer.ackScheduled = s.buffer.ackScheduled
  current : s'.current = s.current
  opened : s'.opened = s.opened
  acks : s'.acks = s.acks
  arrived : s'.arrived = s.arrived
  acknowledged : s'.acknowledged = s.acknowledged

/-- Storing the message of a send. -/
lemma sameAcks_sendStore (s : StatefulSession) (i t : ℕ) (f : Frame) (w : Waiter) :
    SameAcks s (s.sendStore i t f w) := by
  refine ⟨?_, ?_, rfl, rfl, rfl, rfl, rfl⟩
  · exact MessageBuffer.enqueue_latestReceivedSequenceId s.buffer f w
  · show (s.buffer.enqueue f w).ackScheduled = s.buffer.ackScheduled
    unfold MessageBuffer.enqueue
    split <;> rfl

/-- The end of the write of a send. -/
lemma sameAcks_sendWrite (cfg : LinkConfig) (s : StatefulSession) (i t : ℕ) (f : Frame)
    (outcome : Except Error Unit) : SameAcks s (s.sendWrite cfg i t f outcome) := by
  unfold sendWrite
  split <;> exact ⟨rfl, rfl, rfl, rfl, rfl, rfl, rfl⟩

/-- `resend`. -/
lemma sameAcks_resend (cfg : LinkConfig) (s : StatefulSession) (outcome : ℕ → Except Error Unit) :
    SameAcks s (s.resend cfg outcome) := by
  have hbuf : ∀ b : MessageBuffer, (b.resend cfg.protocol cfg.transferFormat fun k _ =>
        outcome k).buffer.latestReceivedSequenceId = b.latestReceivedSequenceId ∧
      (b.resend cfg.protocol cfg.transferFormat fun k _ =>
        outcome k).buffer.ackScheduled = b.ackScheduled := by
    intro b
    unfold MessageBuffer.resend
    split
    · exact ⟨rfl, rfl⟩
    · split <;> exact ⟨rfl, rfl⟩
  obtain ⟨hlatest, hscheduled⟩ := hbuf s.buffer
  unfold resend
  dsimp only
  split <;> exact ⟨hlatest, hscheduled, rfl, rfl, rfl, rfl, rfl⟩

/-- The steps that concern acknowledging. -/
inductive AckStep (cfg : LinkConfig) (s : StatefulSession) : Action → StatefulSession → Prop where
  | drop : AckStep cfg s .drop { s with current := none }
  | receive (t : ℕ) (message : HubMessage) (hcur : s.current = some t) :
    AckStep cfg s (.receive message) (s.receive t message)
  | reopen (a : Action) : AckStep cfg s a s.reopen
  | wake (k t : ℕ) (hk : s.acks[k]? = some ⟨t, .sleeping⟩) :
    AckStep cfg s (.ackWake k) { s with
      acks := s.acks.set k ⟨t, if s.buffer.reconnectInProgress then .clearing else .reading⟩ }
  | write (k t : ℕ) (outcome : Except Error Unit) (hk : s.acks[k]? = some ⟨t, .reading⟩) :
    AckStep cfg s (.ackWrite k outcome) (s.ackWrite cfg k t outcome)
  | clear (k t : ℕ) (hk : s.acks[k]? = some ⟨t, .clearing⟩) :
    AckStep cfg s (.ackClear k) { s with
      buffer := { s.buffer with ackScheduled := false }
      acks := s.acks.set k ⟨t, .done⟩ }
  | other (a : Action) (s' : StatefulSession) (h : SameAcks s s') : AckStep cfg s a s'

/-- Every step is one of these. -/
lemma ackStep_of_next {cfg : LinkConfig} {s s' : StatefulSession} {a : Action}
    (h : s.next cfg a = some s') : AckStep cfg s a s' := by
  cases step_of_next h with
  | drop => exact .drop
  | receive t m hcur => exact .receive t m hcur
  | sendStore i t f w hi => exact .other _ _ (s.sameAcks_sendStore i t f w)
  | sendWrite i t f outcome hi => exact .other _ _ (s.sameAcks_sendWrite cfg i t f outcome)
  | resumeReopen hresume => exact .reopen _
  | resumeResend outcome hresume => exact .other _ _ (s.sameAcks_resend cfg outcome)
  | ackWake k t hk => exact .wake k t hk
  | ackWrite k t outcome hk => exact .write k t outcome hk
  | ackClear k t hk => exact .clear k t hk
  | _ => exact .other _ _ ⟨rfl, rfl, rfl, rfl, rfl, rfl, rfl⟩

/-- The flag is set only while a task has not ended, and the current transport is the newest one. -/
structure Scheduled (s : StatefulSession) : Prop where
  task : s.buffer.ackScheduled = true → ∃ task ∈ s.acks, task.pc ≠ .done
  newest : ∀ t, s.current = some t → t = s.opened

/-- A task that exists can be replaced. -/
lemma mem_set_of_getElem? {tasks : List AckTask} {k : ℕ} {task : AckTask}
    (hk : tasks[k]? = some task) (task' : AckTask) : task' ∈ tasks.set k task' :=
  List.mem_set (List.getElem?_eq_some_iff.mp hk).1 task'

/-- **One step**: the flag is set together with the spawn of a task, and a task that ends clears
it. -/
lemma Scheduled.step {cfg : LinkConfig} {s s' : StatefulSession} {a : Action} (h : s.Scheduled)
    (hstep : s.next cfg a = some s') : s'.Scheduled := by
  cases ackStep_of_next hstep with
  | drop => exact ⟨h.task, fun t ht => (by cases ht)⟩
  | receive t m hcur =>
    refine ⟨fun hsched => ?_, h.newest⟩
    obtain ⟨-, hflag, htimer, -, -⟩ := s.buffer.dispatch_spec m
    cases hold : s.buffer.ackScheduled with
    | true =>
      obtain ⟨task, hmem, hpc⟩ := h.task hold
      refine ⟨task, ?_, hpc⟩
      show task ∈ if (s.buffer.dispatch m).2 then s.acks ++ [⟨t, .sleeping⟩] else s.acks
      split
      · exact List.mem_append_left _ hmem
      · exact hmem
    | false =>
      have hsched : (s.buffer.dispatch m).1.ackScheduled = true := hsched
      have hspawn : (s.buffer.dispatch m).2 = true := by
        rw [hflag, hold, Bool.false_or] at hsched
        rw [htimer, hold, hsched, Bool.not_false, Bool.and_true]
      refine ⟨⟨t, .sleeping⟩, ?_, fun hdone => (by cases hdone)⟩
      show _ ∈ if (s.buffer.dispatch m).2 then s.acks ++ [⟨t, .sleeping⟩] else s.acks
      rw [if_pos hspawn]
      exact List.mem_append_right _ (List.mem_singleton_self _)
  | reopen => exact ⟨h.task, fun t ht => (Option.some.inj ht).symm⟩
  | wake k t hk =>
    refine ⟨fun _ => ⟨_, mem_set_of_getElem? hk _, fun hdone => ?_⟩, h.newest⟩
    dsimp only at hdone
    split at hdone <;> cases hdone
  | write k t outcome hk =>
    exact ⟨fun _ => ⟨_, mem_set_of_getElem? hk _, fun hdone => (by cases hdone)⟩, h.newest⟩
  | clear k t hk => exact ⟨fun hsched => (by cases hsched), h.newest⟩
  | other a s' heq =>
    refine ⟨fun hsched => ?_, fun t ht => ?_⟩
    · rw [heq.scheduled] at hsched
      rw [heq.acks]
      exact h.task hsched
    · rw [heq.current] at ht
      rw [heq.opened]
      exact h.newest t ht

/-- While the flag is set there is a task that has not ended. -/
theorem Scheduled.of_reachable {cfg : LinkConfig} {bufferSize : ℕ} {s : StatefulSession}
    (h : (system cfg bufferSize).Reachable s) : s.Scheduled := by
  have hinit : (system cfg bufferSize).init.Scheduled :=
    ⟨fun hsched => (by cases hsched), fun t ht => (Option.some.inj ht).symm⟩
  exact h.invariant hinit fun _ _ _ hs hstep => hs.step hstep

/-! ## Every message is acknowledged -/

/-- A message arrives.

**Proof sketch.** A message that does not call `schedule_ack_timer` is older than the latest one, or
is not counted. One that does finds the flag clear, and a task is spawned, or set: then there is a
task, and by the condition it will still read the id for the current transport. -/
lemma Acknowledged.receive {cfg : LinkConfig} {s : StatefulSession} (h : s.Acknowledged)
    (hs : s.Scheduled) {t : ℕ} {m : HubMessage} (hok : s.LosesNoAck cfg (.receive m))
    (hcur : s.current = some t) : (s.receive t m).Acknowledged := by
  obtain ⟨hlatest, hflag, htimer, -, -⟩ := s.buffer.dispatch_spec m
  have hacks : ∀ task ∈ s.acks, task ∈ (s.receive t m).acks := by
    intro task hmem
    show task ∈ if (s.buffer.dispatch m).2 then s.acks ++ [⟨t, .sleeping⟩] else s.acks
    split
    · exact List.mem_append_left _ hmem
    · exact hmem
  -- what is acknowledged or pending stays so while the latest id is the same
  have hkeep : (s.receive t m).buffer.latestReceivedSequenceId =
        s.buffer.latestReceivedSequenceId →
      (s.acked = true ∨ ∃ task ∈ s.acks, task.transport = t ∧ task.pc.pending = true) →
      ((s.receive t m).acked = true ∨
        ∃ task ∈ (s.receive t m).acks, task.transport = t ∧ task.pc.pending = true) := by
    intro hsame hpending
    rcases hpending with hacked | ⟨task, hmem, htask⟩
    · left
      rw [acked, hsame]
      exact hacked
    · exact .inr ⟨task, hacks task hmem, htask⟩
  intro t' ht' harr
  obtain rfl : t = t' := Option.some.inj (hcur.symm.trans ht')
  cases hsched : s.buffer.schedules m with
  | false =>
    have hsame : (s.receive t m).buffer.latestReceivedSequenceId =
        s.buffer.latestReceivedSequenceId := by
      rw [hsched] at hlatest
      exact hlatest
    refine hkeep hsame (h t hcur ?_)
    rw [hsame] at harr
    have harr : s.buffer.latestReceivedSequenceId ∈ if s.buffer.counts m then
        s.arrived ++ [s.buffer.nextReceivingSequenceId] else s.arrived := harr
    split at harr
    · rename_i hcounts
      have hlt : ¬ s.buffer.latestReceivedSequenceId ≤ s.buffer.nextReceivingSequenceId := by
        simpa [MessageBuffer.schedules, hcounts] using hsched
      rcases List.mem_append.mp harr with harr | harr
      · exact harr
      · exact absurd (List.mem_singleton.mp harr).le hlt
    · exact harr
  | true =>
    cases hold : s.buffer.ackScheduled with
    | false =>
      have hspawn : (s.buffer.dispatch m).2 = true := by simp [htimer, hsched, hold]
      refine .inr ⟨⟨t, .sleeping⟩, ?_, rfl, rfl⟩
      show _ ∈ if (s.buffer.dispatch m).2 then s.acks ++ [⟨t, .sleeping⟩] else s.acks
      rw [if_pos hspawn]
      exact List.mem_append_right _ (List.mem_singleton_self _)
    | true =>
      obtain ⟨task, hmem, hpc⟩ := hs.task hold
      simp only [LosesNoAck, ackLost, hsched, Bool.true_and, Bool.and_eq_false_iff,
        Bool.not_eq_false', Bool.and_eq_true, decide_eq_true_eq] at hok
      rcases hok with ⟨hnext, hacked⟩ | hstale
      · refine hkeep ?_ (.inl hacked)
        rw [hsched, if_pos rfl, hnext] at hlatest
        exact hlatest
      · have hnot : AckTask.stale task s.current = false := by
          by_contra hst
          rw [Bool.not_eq_false] at hst
          rw [List.any_eq_true.mpr ⟨task, hmem, hst⟩] at hstale
          cases hstale
        have huse : some task.transport = s.current ∧ task.pc.pending = true := by
          simpa [AckTask.stale, hpc] using hnot
        exact .inr ⟨task, hacks task hmem, Option.some.inj (huse.1.trans hcur), huse.2⟩

/-- Task `k` moves on: another task that is pending stays so, and `k` itself if `task'` is. -/
lemma pending_set {tasks : List AckTask} {k t : ℕ} {task task' : AckTask}
    (hk : tasks[k]? = some task) (htask : task.transport = t → task'.transport = t ∧
      task'.pc.pending = true)
    (h : ∃ task ∈ tasks, task.transport = t ∧ task.pc.pending = true) :
    ∃ task ∈ tasks.set k task', task.transport = t ∧ task.pc.pending = true := by
  obtain ⟨x, hmem, hx⟩ := h
  obtain ⟨j, hj⟩ := List.getElem?_of_mem hmem
  by_cases hjk : j = k
  · subst hjk
    obtain rfl : task = x := Option.some.inj (hk.symm.trans hj)
    exact ⟨task', mem_set_of_getElem? hk task', htask hx.1⟩
  · have hset : (tasks.set k task')[j]? = some x := by
      rw [List.getElem?_set_ne (Ne.symm hjk)]
      exact hj
    exact ⟨x, List.mem_of_getElem? hset, hx⟩

/-- **One step** under the condition. -/
lemma Acknowledged.step {cfg : LinkConfig} {s s' : StatefulSession} {a : Action}
    (h : s.Acknowledged) (hs : s.Scheduled) (hok : s.LosesNoAck cfg a)
    (hstep : s.next cfg a = some s') : s'.Acknowledged := by
  cases ackStep_of_next hstep with
  | drop => exact fun t ht => (by cases ht)
  | receive t m hcur => exact h.receive hs hok hcur
  | reopen => exact fun t _ harr => (by cases harr)
  | wake k t hk =>
    intro t' ht' harr
    rcases h t' ht' harr with hacked | hpending
    · exact .inl hacked
    · by_cases hgive : t = t' ∧ s.buffer.reconnectInProgress = true
      · -- the task gives up, so by the condition it was not needed
        obtain ⟨rfl, hrec⟩ := hgive
        have ht' : s.current = some t := ht'
        have hacked : s.acked = true := by simpa [LosesNoAck, ackLost, hk, ht', hrec] using hok
        exact .inl hacked
      · refine .inr (pending_set hk (fun ht => ⟨ht, ?_⟩) hpending)
        have hrec : s.buffer.reconnectInProgress ≠ true := fun hrec => hgive ⟨ht, hrec⟩
        simp only [if_neg hrec]
        rfl
  | write k t outcome hk =>
    intro t' ht' harr
    by_cases ht : t = t'
    · subst ht
      have hcur : s.current = some t := ht'
      have hopened : t = s.opened := hs.newest t hcur
      left
      cases hwritten : (sendHubMessage cfg.protocol cfg.transferFormat (fun _ => outcome)
          (.ack ⟨s.buffer.latestReceivedSequenceId⟩)).1 with
      | nil =>
        have hacked : s.acked = true := by
          simpa [LosesNoAck, ackLost, hk, hcur, hwritten] using hok
        simpa [acked, ackWrite, ← hopened, hwritten] using hacked
      | cons frame frames => simp [acked, ackWrite, ← hopened, hwritten]
    · rcases h t' ht' harr with hacked | hpending
      · left
        obtain ⟨n, hn, hle⟩ := List.any_eq_true.mp hacked
        refine List.any_eq_true.mpr ⟨n, ?_, hle⟩
        show n ∈ if t = s.opened then _ else s.acknowledged
        split
        · exact List.mem_append_left _ hn
        · exact hn
      · exact .inr (pending_set hk (fun heq => absurd heq ht) hpending)
  | clear k t hk =>
    intro t' ht' harr
    rcases h t' ht' harr with hacked | hpending
    · exact .inl hacked
    · obtain ⟨x, hmem, hx⟩ := hpending
      obtain ⟨j, hj⟩ := List.getElem?_of_mem hmem
      have hjk : k ≠ j := by
        rintro rfl
        obtain rfl := Option.some.inj (hk.symm.trans hj)
        cases hx.2
      have hset : (s.acks.set k ⟨t, .done⟩)[j]? = some x := by
        rw [List.getElem?_set_ne hjk]
        exact hj
      exact .inr ⟨x, List.mem_of_getElem? hset, hx⟩
  | other a s' heq =>
    intro t ht harr
    rw [heq.current] at ht
    rw [heq.latest, heq.arrived] at harr
    rw [acked, heq.latest, heq.acknowledged, heq.acks]
    exact h t ht harr

/-- **Received messages get acknowledged** in a run without the steps that lose an
acknowledgement. -/
theorem acknowledged_of_meets (cfg : LinkConfig) (bufferSize : ℕ) {as : List Action}
    {s : StatefulSession} (hrun : (system cfg bufferSize).run as = some s)
    (hm : (system cfg bufferSize).Meets (LosesNoAck cfg) as) : s.Acknowledged := by
  have hinit : (system cfg bufferSize).init.Scheduled ∧
      (system cfg bufferSize).init.Acknowledged :=
    ⟨.of_reachable ⟨[], rfl⟩, fun t _ harr => by cases harr⟩
  have h := Automata.System.invariant_of_meets (I := fun s => s.Scheduled ∧ s.Acknowledged) hinit
    (fun _ _ _ hs hok hstep => ⟨hs.1.step hstep, hs.2.step hs.1 hok hstep⟩) hrun hm
  exact h.2

/-- Two messages are acknowledged together, and a third one after a resume. -/
theorem acknowledged_of_meets_resumed :
    ∃ s, (system plainLink 100).run
        [.receive (.cancelInvocation ⟨[], "1"⟩), .receive (.cancelInvocation ⟨[], "2"⟩), .ackWake 0,
          .ackWrite 0 (.ok ()), .ackClear 0, .drop, .resumeStart, .resumeAbort,
          .resumeReopen (.ok ()), .receive (.sequence ⟨3⟩),
          .receive (.cancelInvocation ⟨[], "3"⟩)] = some s ∧
      (s.arrived = [3] ∧ s.acks = [⟨0, .done⟩, ⟨1, .sleeping⟩]) ∧ s.Acknowledged := by
  obtain ⟨s, hrun, hs⟩ := Option.map_eq_some_iff.mp
    (show ((system plainLink 100).run
      [.receive (.cancelInvocation ⟨[], "1"⟩), .receive (.cancelInvocation ⟨[], "2"⟩), .ackWake 0,
        .ackWrite 0 (.ok ()), .ackClear 0, .drop, .resumeStart, .resumeAbort,
        .resumeReopen (.ok ()), .receive (.sequence ⟨3⟩),
        .receive (.cancelInvocation ⟨[], "3"⟩)]).map (fun s => (s.arrived, s.acks)) =
      some ([3], [⟨0, .done⟩, ⟨1, .sleeping⟩]) by rfl)
  exact ⟨s, hrun, by simpa using hs,
    acknowledged_of_meets plainLink 100 hrun (by decide +kernel)⟩

/-- **An acknowledgement can be lost**: a message that arrives after the task has written its `Ack`
and before it clears the flag finds the flag set, so no task is spawned for it. -/
theorem ack_lost :
    ¬ ∀ (cfg : LinkConfig) (bufferSize : ℕ) (as : List Action) (s : StatefulSession),
        (system cfg bufferSize).run as = some s → s.Acknowledged := by
  intro h
  obtain ⟨s, hrun, hs⟩ := Option.map_eq_some_iff.mp
    (show ((system plainLink 100).run
      [.receive (.cancelInvocation ⟨[], "1"⟩), .ackWake 0, .ackWrite 0 (.ok ()),
        .receive (.cancelInvocation ⟨[], "2"⟩), .ackClear 0]).map
      (fun s => (s.current, s.buffer.latestReceivedSequenceId, s.arrived, s.acked, s.acks)) =
      some (some 0, 2, [1, 2], false, [⟨0, .done⟩]) by rfl)
  simp only [Prod.mk.injEq] at hs
  obtain ⟨hcur, hlatest, harr, hacked, hacks⟩ := hs
  rcases h plainLink 100 _ s hrun 0 hcur (by rw [hlatest, harr]; decide)
    with hyes | ⟨task, hmem, hx⟩
  · rw [hacked] at hyes
    cases hyes
  · rw [hacks] at hmem
    cases List.mem_singleton.mp hmem
    cases hx.2

end StatefulSession

end Signalrr.HubConnection
