import Mathlib.Algebra.GroupWithZero.Nat
import Signalrr.Transport.WebSocketClose

set_option relaxedAutoImplicit false
set_option autoImplicit false

/-!
# Calls of close come to an end

The calls of `WebSocketTransport::close` (`src/transport/websocket.rs`) wait for the worker of the
send queue and for two locks. None of them waits forever, unless the worker has taken `Shutdown` in
a drain and waits for a further command.

## Main definitions

* `Signalrr.Transport.WebSocketTransport.Action.own` — the steps of calls and worker.
* `Signalrr.Transport.WebSocketTransport.stepsLeft` — how many there are at most.

## Main results

* `Signalrr.Transport.WebSocketTransport.calls_end` — the calls come to an end.

## Design

Every step of a call leads it closer to its end, and the worker takes one command less or goes on
towards waiting for the next one. So the steps of all of them together lower a measure, whatever
their order is, and it is enough to see that one of them can go on.
-/

namespace Signalrr.Transport

open Hub

namespace WebSocketTransport

/-- A step that a call or the worker takes by itself. -/
def Action.own : Action → Bool
  | .lockWorker _ | .workerEnded _ | .lockClosed _ | .closeSink .. | .abortRead _ => true
  | .recv | .tryRecv | .flush _ => true
  | .close | .dropClose _ | .send _ | .drop => false

end WebSocketTransport

/-- How many steps the worker takes at most, when nothing is sent. -/
def TransportSendQueue.stepsLeft (q : TransportSendQueue) : ℕ :=
  3 * q.channel.length + match q.worker with
    | .receive => 1
    | .drain => 3
    | .flush => 2
    | .ended => 0

/-- A command that is taken is one step less, whatever becomes of it. -/
lemma TransportSendQueue.stepsLeft_take {q : TransportSendQueue} {channel : List QueueCommand}
    {payload : OutboundPayload} {response : Response}
    (hch : q.channel = .send payload response :: channel)
    (hw : q.worker = .receive ∨ q.worker = .drain) :
    ({ q with channel := channel }.take payload response .drain).stepsLeft < q.stepsLeft := by
  have hlength : q.channel.length = channel.length + 1 := by rw [hch, List.length_cons]
  unfold TransportSendQueue.take stepsLeft
  split <;> rcases hw with hw | hw <;> simp only [hw, hlength] <;> omega

/-- The worker takes a step. -/
lemma TransportSendQueue.stepsLeft_next {q q' : TransportSendQueue}
    {a : TransportSendQueue.Action} (ha : a = .recv ∨ a = .tryRecv ∨ ∃ outcome, a = .flush outcome)
    (h : q.next a = some q') : q'.stepsLeft < q.stepsLeft := by
  cases TransportSendQueue.step_of_next h with
  | sendRefused | send | stopRefused | stop | stopReturn | drop => simp at ha
  | recvSend payload response rest hw hch => exact stepsLeft_take hch (.inl hw)
  | drainSend payload response rest hw hch => exact stepsLeft_take hch (.inr hw)
  | recvShutdown rest hw hch | recvClosed hw hch =>
    simp [stepsLeft, stopPending, finish, hw]
  | drainShutdown rest hw hch =>
    simp only [stepsLeft, stopPending, hw, hch, List.length_cons]
    omega
  | drainEmpty hw hch | flushNothing outcome hw | flush outcome payload hw =>
    simp only [stepsLeft, complete, hw]
    omega

namespace WebSocketTransport

/-- How many steps the calls and the worker take at most, when there are no more calls and nothing
is sent. -/
def stepsLeft (s : WebSocketTransport) : ℕ :=
  (s.calls.map ClosePc.stepsLeft).sum + s.queue.stepsLeft

/-- A call that goes on has fewer steps left. -/
lemma sum_set_lt {calls : List ClosePc} {i : ℕ} {pc pc' : ClosePc} (hi : calls[i]? = some pc)
    (hlt : pc'.stepsLeft < pc.stepsLeft) :
    ((calls.set i pc').map ClosePc.stepsLeft).sum < (calls.map ClosePc.stepsLeft).sum := by
  obtain ⟨hlength, rfl⟩ := List.getElem?_eq_some_iff.mp hi
  have hset : ∀ pc, ((calls.set i pc).map ClosePc.stepsLeft).sum =
      ((calls.take i).map ClosePc.stepsLeft).sum + (pc.stepsLeft +
        ((calls.drop (i + 1)).map ClosePc.stepsLeft).sum) := by
    intro pc
    rw [List.set_eq_take_append_cons_drop, if_pos hlength, List.map_append, List.sum_append,
      List.map_cons, List.sum_cons]
  have hself := hset calls[i]
  rw [List.set_getElem_self] at hself
  rw [hset, hself]
  omega

/-- A step that is taken by itself is one step less. -/
lemma stepsLeft_next {s s' : WebSocketTransport} {a : Action} (ha : a.own = true)
    (h : next s a = some s') : s'.stepsLeft < s.stepsLeft := by
  have hqueue : ∀ {b : TransportSendQueue.Action},
      (b = .recv ∨ b = .tryRecv ∨ ∃ outcome, b = .flush outcome) → s.queueStep b = some s' →
        s'.stepsLeft < s.stepsLeft := by
    intro b hb hstep
    obtain ⟨q, hq, rfl⟩ := Option.map_eq_some_iff.mp hstep
    exact Nat.add_lt_add_left (TransportSendQueue.stepsLeft_next hb hq) _
  have hcall : ∀ {i : ℕ} {pc pc' : ClosePc}, s.calls[i]? = some pc → pc'.stepsLeft < pc.stepsLeft →
      s'.calls = s.calls.set i pc' → s'.queue.stepsLeft = s.queue.stepsLeft →
        s'.stepsLeft < s.stepsLeft := by
    intro i pc pc' hi hlt hcalls hsame
    rw [stepsLeft, stepsLeft, hcalls, hsame]
    exact Nat.add_lt_add_right (sum_set_lt hi hlt) _
  cases a with
  | close | dropClose | send | drop => cases ha
  | recv => exact hqueue (.inl rfl) h
  | tryRecv => exact hqueue (.inr (.inl rfl)) h
  | flush outcome => exact hqueue (.inr (.inr ⟨outcome, rfl⟩)) h
  | lockWorker i =>
    simp only [next] at h
    split at h
    next hi hlock =>
      obtain rfl := Option.some.inj h
      unfold lockWorkerStep at hcall ⊢
      split_ifs at hcall ⊢
      · exact hcall hi (by decide) rfl rfl
      · exact hcall hi (by decide) rfl rfl
    next => cases h
  | workerEnded i =>
    simp only [next] at h
    split at h
    next hi hended =>
      obtain rfl := Option.some.inj h
      exact hcall hi (by decide) rfl rfl
    next => cases h
  | lockClosed i =>
    simp only [next] at h
    split at h
    next hi hlock =>
      obtain rfl := Option.some.inj h
      unfold lockClosedStep at hcall ⊢
      split_ifs at hcall ⊢
      · exact hcall hi (by simp [ClosePc.stepsLeft]) rfl rfl
      · exact hcall hi (by decide) rfl rfl
    next => cases h
  | closeSink i outcome =>
    simp only [next] at h
    split at h
    next hi =>
      obtain rfl := Option.some.inj h
      cases outcome with
      | ok u => exact hcall hi (by decide) rfl rfl
      | error error => exact hcall hi (by simp [ClosePc.stepsLeft]) rfl rfl
    next => cases h
  | abortRead i =>
    simp only [next] at h
    split at h
    next hi =>
      obtain rfl := Option.some.inj h
      exact hcall hi (by simp [ClosePc.stepsLeft]) rfl rfl
    next => cases h

/-- `Shutdown` is in the channel, has been taken, or is not needed any more. -/
def ShutdownSent (q : TransportSendQueue) : Prop :=
  q.shutdownTaken = true ∨ .shutdown ∈ q.channel ∨ q.worker = .ended

/-- `Shutdown` is not lost before it is taken. -/
lemma ShutdownSent.next {q q' : TransportSendQueue} {a : TransportSendQueue.Action}
    (hsent : ShutdownSent q) (h : q.next a = some q') : ShutdownSent q' := by
  have hne : ∀ {w : SendLoop}, q.worker = w → w ≠ .ended → q.worker ≠ .ended := fun hw hne =>
    hw ▸ hne
  have htake : ∀ {payload response rest}, q.worker ≠ .ended →
      q.channel = .send payload response :: rest →
        ShutdownSent ({ q with channel := rest }.take payload response .drain) := by
    intro payload response rest hw hch
    obtain ⟨hc, -, ht⟩ :=
      TransportSendQueue.take_eq { q with channel := rest } payload response .drain
    rcases hsent with htaken | hmem | hended
    · exact .inl (ht.trans htaken)
    · rw [hch] at hmem
      exact .inr (.inl (by simpa [hc] using hmem))
    · exact absurd hended hw
  cases TransportSendQueue.step_of_next h with
  | sendRefused payload hended | stopRefused hended | stopReturn hended => exact .inr (.inr hended)
  | send payload hended => exact hsent.imp id (Or.imp (List.mem_append_left _) id)
  | stop hended => exact .inr (.inl (by simp))
  | drop hstop => exact hsent
  | recvSend payload response rest hw hch => exact htake (hne hw (by decide)) hch
  | drainSend payload response rest hw hch => exact htake (hne hw (by decide)) hch
  | recvShutdown rest hw hch | recvClosed hw hch => exact .inr (.inr rfl)
  | drainShutdown rest hw hch => exact .inl rfl
  | drainEmpty hw hch =>
    exact hsent.imp id (Or.imp id fun hended => absurd hended (hne hw (by decide)))
  | flushNothing outcome hw | flush outcome payload hw =>
    exact hsent.imp id (Or.imp id fun hended => absurd hended (hne hw (by decide)))

/-- A call has sent `Shutdown`. -/
lemma shutdownSent_of_reachable {s : WebSocketTransport} (h : system.Reachable s)
    (hcalls : s.calls ≠ []) : ShutdownSent s.queue := by
  have hkeeps : ∀ {t t' : WebSocketTransport} {a : Action}, Step t a t' →
      (t.calls ≠ [] → ShutdownSent t.queue) → t'.calls ≠ [] → ShutdownSent t'.queue := by
    intro t t' a hstep hsent hne
    have hold : t.calls ≠ [] → ShutdownSent t'.queue := by
      intro hne
      rcases queue_of_step hstep with ⟨b, hb⟩ | ⟨n, heq⟩
      · exact (hsent hne).next hb
      · rw [heq]
        exact hsent hne
    cases hstep with
    | close q hstop =>
      cases TransportSendQueue.step_of_next hstop with
      | stopRefused hended => exact .inr (.inr hended)
      | stop hended => exact .inr (.inl (by simp))
    | queue => exact hold hne
    | takeHandle i hi | noHandle i hi | workerEnded i hi | alreadyClosed i hi | setClosed i hi
    | sinkClosed i hi | sinkFailed i _ hi | abortRead i hi | dropped i _ hi =>
      apply hold
      intro hnil
      rw [hnil] at hi
      cases hi
  have hsent : s.calls ≠ [] → ShutdownSent s.queue :=
    h.invariant (I := fun s => s.calls ≠ [] → ShutdownSent s.queue) (fun hne => absurd rfl hne)
      fun _ _ _ hs hstep => hkeeps (step_of_next hstep) hs
  exact hsent hcalls

/-- A worker that cannot go on has ended or waits for a command. -/
lemma Held.worker_of_stuck {s : WebSocketTransport} (h : s.Held)
    (hstuck : ∀ a : Action, a.own = true → next s a = none) :
    s.queue.worker = .ended ∨ s.queue.WaitsForCommand := by
  have hqueue : ∀ {a : TransportSendQueue.Action}, s.queueStep a = none → s.queue.next a = none :=
    fun hnone => Option.map_eq_none_iff.mp hnone
  cases hworker : s.queue.worker with
  | ended => exact .inl rfl
  | drain =>
    have hnone := hqueue (hstuck .tryRecv rfl)
    rw [TransportSendQueue.next, if_pos hworker] at hnone
    cases hnone
  | flush =>
    have hsome := TransportSendQueue.flush_isSome h.uniform (.ok ()) hworker
    rw [hqueue (hstuck (.flush (.ok ())) rfl)] at hsome
    cases hsome
  | receive =>
    have hnone := hqueue (hstuck .recv rfl)
    rw [TransportSendQueue.next, if_pos hworker, TransportSendQueue.recv] at hnone
    split at hnone
    next => cases hnone
    next => cases hnone
    next hch =>
      split_ifs at hnone with halive
      exact .inr ⟨hworker, hch, halive⟩

/-- When neither a call nor the worker can go on, all calls are over, unless the worker waits for a
command.

**Proof sketch.** The worker has ended or waits for a command. When it has ended, a call that waits
for a lock waits for the call that holds it, and that one can go on. -/
lemma Held.over_of_stuck {s : WebSocketTransport} (h : s.Held)
    (hstuck : ∀ a : Action, a.own = true → next s a = none) :
    (∀ pc ∈ s.calls, pc.finished = true) ∨ s.queue.WaitsForCommand := by
  rcases h.worker_of_stuck hstuck with hended | hwaits
  · left
    have hawait : ∀ i : ℕ, s.calls[i]? ≠ some .awaitWorker := by
      intro i hi
      have hnone := hstuck (.workerEnded i) rfl
      simp [next, hi, hended] at hnone
    have hsink : ∀ i : ℕ, s.calls[i]? ≠ some .closeSink := by
      intro i hi
      have hnone := hstuck (.closeSink i (.ok ())) rfl
      simp [next, hi] at hnone
    have hread : ∀ i : ℕ, s.calls[i]? ≠ some .abortRead := by
      intro i hi
      have hnone := hstuck (.abortRead i) rfl
      simp [next, hi] at hnone
    intro pc hpc
    obtain ⟨i, hi⟩ := List.mem_iff_getElem?.mp hpc
    cases pc with
    | returned r | dropped => rfl
    | awaitWorker => exact absurd hi (hawait i)
    | closeSink => exact absurd hi (hsink i)
    | abortRead => exact absurd hi (hread i)
    | lockWorker =>
      have hnone := hstuck (.lockWorker i) rfl
      cases hlock : s.workerLock with
      | none => simp [next, hi, hlock] at hnone
      | some j => exact absurd (h.stop.holder j hlock) (hawait j)
    | lockClosed =>
      have hnone := hstuck (.lockClosed i) rfl
      have hfree : s.closedLock = none := by
        cases hlock : s.closedLock with
        | none => rfl
        | some j =>
          obtain ⟨pc, hj, hpc⟩ := h.closed j hlock
          cases pc with
          | closeSink => exact absurd hj (hsink j)
          | abortRead => exact absurd hj (hread j)
          | _ => cases hpc
      simp [next, hi, hfree] at hnone
  · exact .inr hwaits

/-- **No call of `close` waits forever**, unless a stop is lost, wherever other calls have been
dropped. When no more calls are made and nothing is sent, the calls and the worker take a bounded
number of steps. When none of them can go on, all calls are over, or a `Shutdown` was taken and the
worker waits for a further command. -/
theorem calls_end {s : WebSocketTransport} (h : system.Reachable s) {as : List Action}
    {t : WebSocketTransport} (hrun : system.runFrom s as = some t)
    (hown : ∀ a ∈ as, a.own = true) :
    as.length ≤ s.stepsLeft ∧
      ((∀ a : Action, a.own = true → next t a = none) →
        (∀ pc ∈ t.calls, pc.finished = true) ∨
          (t.queue.shutdownTaken = true ∧ t.queue.WaitsForCommand)) := by
  have hmeets : system.MeetsFrom (fun _ a => a.own = true) s as :=
    Automata.System.meetsFrom_of_mem hown s
  constructor
  · have hle := Automata.System.length_le_of_lowers (I := fun _ => True)
      (fun _ _ _ _ ha hstep => ⟨trivial, stepsLeft_next ha hstep⟩) trivial hrun hmeets
    omega
  · intro hstuck
    have hreachable : system.Reachable t :=
      Automata.System.invariant_of_meetsFrom (I := system.Reachable)
        (fun _ _ _ hs _ hstep => hs.next hstep) h hrun hmeets
    rcases (held_of_reachable hreachable).over_of_stuck hstuck with hover | hwaits
    · exact .inl hover
    · by_cases hcalls : t.calls = []
      · exact .inl (by simp [hcalls])
      · obtain ⟨hworker, hch, halive⟩ := hwaits
        rcases shutdownSent_of_reachable hreachable hcalls with htaken | hmem | hended
        · exact .inr ⟨htaken, hworker, hch, halive⟩
        · rw [hch] at hmem
          cases hmem
        · rw [hworker] at hended
          cases hended

/-- Three calls have been made, and the one that has taken the handle of the worker was dropped. -/
def threeCalls : List Action := [.close, .close, .close, .lockWorker 0, .dropClose 0]

/-- The two others come to their end. -/
theorem calls_end_three :
    ∃ s as t, system.run threeCalls = some s ∧ system.runFrom s as = some t ∧
      as.length ≤ s.stepsLeft ∧ t.calls = [.dropped, .returned (.ok ()), .returned (.ok ())] := by
  obtain ⟨s, hrun, -⟩ := Option.map_eq_some_iff.mp
    (show (system.run threeCalls).map WebSocketTransport.calls =
      some [.dropped, .lockWorker, .lockWorker] by rfl)
  obtain ⟨t, hrun', hcalls⟩ := Option.map_eq_some_iff.mp
    (show (system.run (threeCalls ++ [.lockWorker 1, .recv, .lockWorker 2, .lockClosed 1,
      .closeSink 1 (.ok ()), .abortRead 1, .lockClosed 2])).map WebSocketTransport.calls =
        some [.dropped, .returned (.ok ()), .returned (.ok ())] by rfl)
  rw [Automata.System.run, Automata.System.runFrom_append,
    show system.runFrom system.init threeCalls = some s from hrun, Option.bind_some] at hrun'
  exact ⟨s, _, t, hrun, hrun', (calls_end ⟨_, hrun⟩ hrun' (by simp [Action.own])).1, hcalls⟩

end WebSocketTransport

end Signalrr.Transport
