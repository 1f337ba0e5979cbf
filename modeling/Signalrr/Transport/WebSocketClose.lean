import Signalrr.Transport.WebSocketTransport

set_option relaxedAutoImplicit false
set_option autoImplicit false

/-!
# Closing a web socket

Calls of `WebSocketTransport::close` of `src/transport/websocket.rs`, any number of them at once.
The lock of the worker's handle makes each of them wait for the worker, and the lock of `closed`
lets one of them close the sink.

## Main definitions

* `Signalrr.Transport.WebSocketTransport.StopLock`, `ClosedHeld` — who holds the two locks.
* `Signalrr.Transport.WebSocketTransport.SeenEnd` — a call is behind `queue.stop()` when the worker
  has ended.
* `Signalrr.Transport.WebSocketTransport.Phase` — how far closing the sink has got.

## Main results

* `Signalrr.Transport.WebSocketTransport.reachable_queue` — with the lock, the queue does what it
  does when `stop` waits for the worker.
* `Signalrr.Transport.WebSocketTransport.closes_of_meets` — the sink is closed once, behind the
  last frame, and no call returns before that.
-/

namespace Signalrr.Transport

open Hub

namespace WebSocketTransport

/-! ## The queue -/

section

variable {q q' : TransportSendQueue}

/-- A worker that has ended writes nothing more. -/
lemma ended_next {a : TransportSendQueue.Action} (hended : q.worker = .ended)
    (h : q.next a = some q') : q'.worker = .ended ∧ q'.flushed = q.flushed := by
  have hne : ∀ {w : SendLoop}, q.worker = w → w = .ended := fun hw => hw.symm.trans hended
  cases TransportSendQueue.step_of_next h with
  | sendRefused | send | stopRefused | stop | stopReturn | drop => exact ⟨hended, rfl⟩
  | recvSend _ _ _ hw | recvShutdown _ hw | recvClosed hw | drainSend _ _ _ hw
  | drainShutdown _ hw | drainEmpty hw | flushNothing _ hw | flush _ _ hw => cases hne hw

/-- A step that no call takes part in leaves the number of calls that wait. -/
lemma stopping_next {a : Action} {b : TransportSendQueue.Action} (ha : a.alone = some b)
    (h : q.next b = some q') : q'.stopping = q.stopping := by
  cases TransportSendQueue.step_of_next h with
  | stopRefused | stop | stopReturn => cases a <;> cases ha
  | recvSend payload response rest | drainSend payload response rest =>
    exact (TransportSendQueue.take_eq _ _ _ _).2.1
  | _ => rfl

/-- `Shutdown` is sent, if the worker is there to take it. -/
lemma eq_of_next_stop (h : q.next .stop = some q') :
    q'.stopping = q.stopping + 1 ∧ q'.worker = q.worker ∧ q'.flushed = q.flushed := by
  cases TransportSendQueue.step_of_next h with
  | stopRefused | stop => exact ⟨rfl, rfl, rfl⟩

end

/-! ## Places of calls -/

section

variable {calls : List ClosePc} {i j : ℕ} {pc pc' pc'' : ClosePc}

/-- A call that goes on is where it goes, and the others are where they were. -/
lemma getElem?_set_iff (hi : calls[i]? = some pc) :
    (calls.set i pc')[j]? = some pc'' ↔
      (j = i ∧ pc'' = pc') ∨ (j ≠ i ∧ calls[j]? = some pc'') := by
  have hlt : i < calls.length := (List.getElem?_eq_some_iff.mp hi).1
  rw [List.getElem?_set]
  by_cases hij : i = j
  · subst hij
    simp [hlt, eq_comm]
  · simp [hij, Ne.symm hij]

/-- A new call is the last one. -/
lemma getElem?_concat (hi : (calls ++ [pc'])[i]? = some pc) : calls[i]? = some pc ∨ pc = pc' := by
  rw [List.getElem?_append] at hi
  split_ifs at hi with hlt
  · exact .inl hi
  · rw [List.getElem?_singleton] at hi
    split_ifs at hi
    exact .inr (Option.some.inj hi).symm

/-- The calls in `queue.stop()` are one less or one more when a call leaves it or enters it. -/
lemma countP_set_inStop (hi : calls[i]? = some pc) (pc' : ClosePc) :
    (calls.set i pc').countP ClosePc.inStop + pc.inStop.toNat =
      calls.countP ClosePc.inStop + pc'.inStop.toNat := by
  obtain ⟨hlt, hget⟩ := List.getElem?_eq_some_iff.mp hi
  have hpos : pc.inStop = true → 0 < calls.countP ClosePc.inStop := fun hstop =>
    List.countP_pos_iff.mpr ⟨pc, List.mem_of_getElem? hi, hstop⟩
  rw [List.countP_set hlt, hget]
  cases hstop : pc.inStop with
  | false => cases pc'.inStop <;> simp
  | true =>
    have hone := hpos hstop
    cases pc'.inStop <;> simp <;> omega

end

/-! ## The locks -/

/-- The calls in `queue.stop()`. -/
structure StopLock (s : WebSocketTransport) : Prop where
  stopping : s.queue.stopping = s.calls.countP ClosePc.inStop
  /-- A call that waits for the worker holds the lock. -/
  awaiting : ∀ i, s.calls[i]? = some .awaitWorker → s.workerLock = some i
  holder : ∀ i, s.workerLock = some i → s.calls[i]? = some .awaitWorker

section

variable {s s' : WebSocketTransport}

/-- A step of the queue alone. -/
lemma StopLock.queue (h : s.StopLock) {a : Action} {b : TransportSendQueue.Action}
    (ha : a.alone = some b) {q : TransportSendQueue} (hstep : s.queue.next b = some q) :
    StopLock { s with queue := q } where
  stopping := (stopping_next ha hstep).trans h.stopping
  awaiting := h.awaiting
  holder := h.holder

/-- A call goes on behind `queue.stop()`, or is dropped there. -/
lemma StopLock.moveTo (h : s.StopLock) {i : ℕ} {pc pc' : ClosePc} (hi : s.calls[i]? = some pc)
    (hstop : pc.inStop = false) (hstop' : pc'.inStop = false) : (s.moveTo i pc').StopLock where
  stopping := by
    have hcount := countP_set_inStop hi pc'
    rw [hstop, hstop'] at hcount
    exact h.stopping.trans hcount.symm
  awaiting := by
    intro j hj
    rcases (getElem?_set_iff hi).mp hj with ⟨-, rfl⟩ | ⟨-, hj⟩
    · cases hstop'
    · exact h.awaiting j hj
  holder := by
    intro j hj
    have hold := h.holder j hj
    refine (getElem?_set_iff hi).mpr (.inr ⟨?_, hold⟩)
    rintro rfl
    rw [hi] at hold
    cases hold
    cases hstop

/-- A call leaves `queue.stop()`, and gives the lock back if it has it. -/
lemma StopLock.leaveStop (h : s.StopLock) {i : ℕ} {pc pc' : ClosePc} (hi : s.calls[i]? = some pc)
    (hstop : pc.inStop = true) (hstop' : pc'.inStop = false) {lock : Option ℕ}
    (hlock : lock = if s.workerLock = some i then none else s.workerLock) :
    ({ s with workerLock := lock }.leaveStop i pc').StopLock where
  stopping := by
    have hcount := countP_set_inStop hi pc'
    rw [hstop, hstop'] at hcount
    simp only [Bool.toNat_true, Bool.toNat_false, Nat.add_zero] at hcount
    show s.queue.stopping - 1 = (s.calls.set i pc').countP ClosePc.inStop
    rw [h.stopping]
    omega
  awaiting := by
    intro j hj
    rcases (getElem?_set_iff hi).mp hj with ⟨-, rfl⟩ | ⟨hne, hj⟩
    · cases hstop'
    · have hheld := h.awaiting j hj
      show lock = some j
      have hother : ¬ s.workerLock = some i := by
        rw [hheld]
        exact fun heq => hne (Option.some.inj heq)
      rw [hlock, if_neg hother, hheld]
  holder := by
    intro j hj
    replace hj : lock = some j := hj
    rw [hlock] at hj
    split_ifs at hj with hself
    refine (getElem?_set_iff hi).mpr (.inr ⟨?_, h.holder j hj⟩)
    rintro rfl
    exact hself hj

/-- A call takes the handle and its lock. -/
lemma StopLock.takeHandle (h : s.StopLock) {i : ℕ} (hi : s.calls[i]? = some .lockWorker)
    (hlock : s.workerLock = none) :
    ({ s with worker := false, workerLock := some i }.moveTo i .awaitWorker).StopLock where
  stopping := by
    have hcount := countP_set_inStop hi .awaitWorker
    simp only [ClosePc.inStop, Nat.add_right_cancel_iff] at hcount
    exact h.stopping.trans hcount.symm
  awaiting := by
    intro j hj
    rcases (getElem?_set_iff hi).mp hj with ⟨rfl, -⟩ | ⟨-, hj⟩
    · rfl
    · have hheld := h.awaiting j hj
      rw [hlock] at hheld
      cases hheld
  holder := by
    rintro j ⟨⟩
    exact (getElem?_set_iff hi).mpr (.inl ⟨rfl, rfl⟩)

/-- A call is made. -/
lemma StopLock.close (h : s.StopLock) {q : TransportSendQueue}
    (hstop : s.queue.next .stop = some q) :
    StopLock { s with queue := q, calls := s.calls ++ [.lockWorker] } := by
  obtain ⟨hstopping, -, -⟩ := eq_of_next_stop hstop
  exact
    { stopping := by
        rw [List.countP_append, ← h.stopping]
        exact hstopping
      awaiting := by
        intro i hi
        rcases getElem?_concat hi with hi | hpc
        · exact h.awaiting i hi
        · cases hpc
      holder := by
        intro i hi
        have hold := h.holder i hi
        have hlt : i < s.calls.length := (List.getElem?_eq_some_iff.mp hold).1
        exact (List.getElem?_append_left hlt).trans hold }

/-- The lock of `closed`, the sink and the read task are of no account. -/
lemma StopLock.closing (h : s.StopLock) (closed : Bool) (closedLock : Option ℕ)
    (sink : Option (Except Error Unit × List OutboundPayload)) (reading : Bool) :
    StopLock { s with
      closed := closed, closedLock := closedLock, sink := sink, reading := reading } :=
  ⟨h.stopping, h.awaiting, h.holder⟩

/-- A call is dropped. -/
lemma StopLock.dropped (h : s.StopLock) {i : ℕ} {pc : ClosePc} (hi : s.calls[i]? = some pc)
    (hstep : s.dropCloseStep i pc = some s') : s'.StopLock := by
  cases pc with
  | lockWorker =>
    obtain rfl := Option.some.inj hstep
    have hother : ¬ s.workerLock = some i := by
      intro hheld
      rw [h.holder i hheld] at hi
      cases hi
    exact h.leaveStop hi rfl rfl (if_neg hother).symm
  | awaitWorker =>
    obtain rfl := Option.some.inj hstep
    exact h.leaveStop hi rfl rfl (if_pos (h.awaiting i hi)).symm
  | lockClosed =>
    obtain rfl := Option.some.inj hstep
    exact h.moveTo hi rfl rfl
  | closeSink | abortRead =>
    obtain rfl := Option.some.inj hstep
    exact (h.closing _ none _ _).moveTo hi rfl rfl
  | returned r | dropped => cases hstep

/-- **One step** of the calls in `queue.stop()`. -/
lemma StopLock.step {a : Action} (h : s.StopLock) (hstep : Step s a s') : s'.StopLock := by
  cases hstep with
  | close q hstop => exact h.close hstop
  | takeHandle i hi hlock hworker => exact h.takeHandle hi hlock
  | noHandle i hi hlock hworker =>
    have hother : ¬ s.workerLock = some i := by
      rw [hlock]
      simp
    exact h.leaveStop hi rfl rfl (if_neg hother).symm
  | workerEnded i hi hended => exact h.leaveStop hi rfl rfl (if_pos (h.awaiting i hi)).symm
  | alreadyClosed i hi => exact h.moveTo hi rfl rfl
  | setClosed i hi | sinkClosed i hi | sinkFailed i _ hi | abortRead i hi =>
    exact (h.closing _ _ _ _).moveTo hi rfl rfl
  | dropped i pc hi s' hdrop => exact h.dropped hi hdrop
  | queue a b ha q hstep => exact h.queue ha hstep

/-- What the calls know of the worker. -/
structure SeenEnd (s : WebSocketTransport) : Prop where
  /-- The lock is free again when the worker has ended. -/
  taken : s.worker = false → s.workerLock = none → s.queue.worker = .ended
  /-- A call that has left `queue.stop()` has seen the worker end. -/
  left : ∀ (i : ℕ) (pc : ClosePc), s.calls[i]? = some pc → pc.afterStop = true →
    s.queue.worker = .ended

/-- A worker that has ended is seen to have ended. -/
lemma SeenEnd.of_ended (h : s.queue.worker = .ended) : s.SeenEnd := ⟨fun _ _ => h, fun _ _ _ _ => h⟩

/-- A call that is dropped with the condition has seen the worker end. -/
lemma SeenEnd.dropped (h : s.SeenEnd) {i : ℕ} {pc : ClosePc} (hok : s.AwaitsWorker (.dropClose i))
    (hi : s.calls[i]? = some pc) (hstep : s.dropCloseStep i pc = some s') :
    s.queue.worker = .ended := by
  cases hstop : pc.inStop with
  | true => exact hok pc hi hstop
  | false =>
    refine h.left i pc hi ?_
    cases pc with
    | lockWorker | awaitWorker => cases hstop
    | dropped => cases hstep
    | lockClosed | closeSink | abortRead | returned => rfl

/-- **One step**, as to what the calls know of the worker.

**Proof sketch.** A call leaves `queue.stop()` when it has seen the worker end, or when it finds the
handle gone and the lock free. The call that took the handle gave the lock back when the worker had
ended, and was not dropped before. -/
lemma SeenEnd.step {a : Action} (h : s.SeenEnd) (hok : s.AwaitsWorker a) (hstep : Step s a s') :
    s'.SeenEnd := by
  cases hstep with
  | close q hstop =>
    obtain ⟨-, hworker, -⟩ := eq_of_next_stop hstop
    refine ⟨fun hgone hlock => hworker.trans (h.taken hgone hlock), fun i pc hi hpc => ?_⟩
    rcases getElem?_concat hi with hi | rfl
    · exact hworker.trans (h.left i pc hi hpc)
    · cases hpc
  | takeHandle i hi hlock hworker =>
    refine ⟨fun _ hnone => (by cases hnone), fun j pc hj hpc => ?_⟩
    rcases (getElem?_set_iff hi).mp hj with ⟨-, rfl⟩ | ⟨-, hj⟩
    · cases hpc
    · exact h.left j pc hj hpc
  | noHandle i hi hlock hworker => exact .of_ended (h.taken hworker hlock)
  | workerEnded i hi hended => exact .of_ended hended
  | alreadyClosed i hi | setClosed i hi | sinkClosed i hi | sinkFailed i _ hi | abortRead i hi =>
    exact .of_ended (h.left i _ hi rfl)
  | dropped i pc hi s' hdrop =>
    have hended := h.dropped hok hi hdrop
    cases pc <;> cases hdrop <;> exact .of_ended hended
  | queue a b ha q hstep =>
    exact ⟨fun hgone hlock => (ended_next (h.taken hgone hlock) hstep).1,
      fun i pc hi hpc => (ended_next (h.left i pc hi hpc) hstep).1⟩

/-- The lock of `closed` is held by the call that closes the sink. -/
def ClosedHeld (s : WebSocketTransport) : Prop :=
  ∀ i, s.closedLock = some i → ∃ pc, s.calls[i]? = some pc ∧ pc.inSink = true

/-- A call goes on: it holds the lock where it closes the sink, and the others keep theirs. -/
lemma ClosedHeld.set (h : s.ClosedHeld) {i : ℕ} {pc pc' : ClosePc} (hi : s.calls[i]? = some pc)
    {lock : Option ℕ} (hlock : lock = none ∨ lock = s.closedLock ∧ pc.inSink = false ∨
      (lock = some i ∨ lock = s.closedLock) ∧ pc'.inSink = true) :
    ∀ j, lock = some j → ∃ pc, (s.calls.set i pc')[j]? = some pc ∧ pc.inSink = true := by
  intro j hj
  by_cases hji : j = i
  · subst hji
    refine ⟨pc', (getElem?_set_iff hi).mpr (.inl ⟨rfl, rfl⟩), ?_⟩
    rcases hlock with hnone | ⟨hsame, hpc⟩ | ⟨-, hpc'⟩
    · rw [hnone] at hj
      cases hj
    · obtain ⟨pc₀, hj₀, hpc₀⟩ := h j (hsame.symm.trans hj)
      cases hi.symm.trans hj₀
      rw [hpc] at hpc₀
      cases hpc₀
    · exact hpc'
  · have hold : s.closedLock = some j := by
      rcases hlock with hnone | ⟨hsame, -⟩ | ⟨hself | hsame, -⟩
      · rw [hnone] at hj
        cases hj
      · exact hsame.symm.trans hj
      · rw [hself] at hj
        exact absurd (Option.some.inj hj).symm hji
      · exact hsame.symm.trans hj
    obtain ⟨pc₀, hj₀, hpc₀⟩ := h j hold
    exact ⟨pc₀, (getElem?_set_iff hi).mpr (.inr ⟨hji, hj₀⟩), hpc₀⟩

/-- **One step**, as to who holds the lock of `closed`. -/
lemma ClosedHeld.step {a : Action} (h : s.ClosedHeld) (hstep : Step s a s') : s'.ClosedHeld := by
  cases hstep with
  | close q hstop =>
    intro i hi
    obtain ⟨pc, hpc, hsink⟩ := h i hi
    have hlt : i < s.calls.length := (List.getElem?_eq_some_iff.mp hpc).1
    exact ⟨pc, (List.getElem?_append_left hlt).trans hpc, hsink⟩
  | takeHandle i hi | noHandle i hi | workerEnded i hi | alreadyClosed i hi =>
    exact h.set hi (.inr (.inl ⟨rfl, rfl⟩))
  | setClosed i hi => exact h.set hi (.inr (.inr ⟨.inl rfl, rfl⟩))
  | sinkClosed i hi => exact h.set hi (.inr (.inr ⟨.inr rfl, rfl⟩))
  | sinkFailed i _ hi | abortRead i hi => exact h.set hi (.inl rfl)
  | dropped i pc hi s' hdrop =>
    cases pc with
    | lockWorker | awaitWorker | lockClosed =>
      cases hdrop
      exact h.set hi (.inr (.inl ⟨rfl, rfl⟩))
    | closeSink | abortRead =>
      cases hdrop
      exact h.set hi (.inl rfl)
    | returned | dropped => cases hdrop
  | queue a b ha q hstep => exact h

end

/-! ## Closing the sink -/

/-- How far closing the sink has got. Until it is over, no call has returned. -/
inductive Phase (s : WebSocketTransport) : Prop where
  /-- No call has come to the lock of `closed`. -/
  | opened (hclosed : s.closed = false) (hlock : s.closedLock = none) (hsink : s.sink = none)
    (hreading : s.reading = true) (hcalls : ∀ pc ∈ s.calls, pc.early = true)
  /-- A call closes the sink. -/
  | closing (i : ℕ) (hclosed : s.closed = true) (hlock : s.closedLock = some i)
    (hsink : s.sink = none) (hreading : s.reading = true) (hi : s.calls[i]? = some .closeSink)
    (hothers : ∀ (j : ℕ) (pc : ClosePc), s.calls[j]? = some pc → j ≠ i → pc.early = true)
  /-- It has closed the sink. -/
  | aborting (i : ℕ) (hclosed : s.closed = true) (hlock : s.closedLock = some i)
    (hsink : s.sink = some (.ok (), s.queue.flushed)) (hreading : s.reading = true)
    (hi : s.calls[i]? = some .abortRead)
    (hothers : ∀ (j : ℕ) (pc : ClosePc), s.calls[j]? = some pc → j ≠ i → pc.early = true)
  /-- It has returned, and so have others. -/
  | settled (i : ℕ) (answer : Except Error Unit) (hclosed : s.closed = true)
    (hlock : s.closedLock = none) (hsink : s.sink = some (answer, s.queue.flushed))
    (hreading : s.reading = !answer.isOk) (hi : s.calls[i]? = some (.returned answer))
    (hothers : ∀ (j : ℕ) (pc : ClosePc), s.calls[j]? = some pc → j ≠ i →
      pc.early = true ∨ pc = .returned (.ok ()))

section

variable {s s' : WebSocketTransport}

/-- An early call goes on before the lock of `closed`, the transport takes nothing meanwhile if the
sink has been asked to close, and the rest stays. -/
lemma Phase.frame (h : s.Phase) {calls : List ClosePc} {queue : TransportSendQueue}
    {worker : Bool} {workerLock : Option ℕ}
    (hcalls : ∀ (j : ℕ) (pc : ClosePc), calls[j]? = some pc →
      s.calls[j]? = some pc ∨ pc.early = true)
    (hkept : ∀ (j : ℕ) (pc : ClosePc), s.calls[j]? = some pc → pc.early = false →
      calls[j]? = some pc)
    (hflushed : (∃ (j : ℕ) (pc : ClosePc), s.calls[j]? = some pc ∧ pc.early = false) →
      queue.flushed = s.queue.flushed) :
    Phase { s with
      calls := calls, queue := queue, worker := worker, workerLock := workerLock } := by
  have hothers : ∀ {i : ℕ}, (∀ (j : ℕ) (pc : ClosePc), s.calls[j]? = some pc → j ≠ i →
      pc.early = true) → ∀ (j : ℕ) (pc : ClosePc), calls[j]? = some pc → j ≠ i →
        pc.early = true := by
    intro i hothers j pc hj hne
    exact (hcalls j pc hj).elim (fun hj => hothers j pc hj hne) id
  cases h with
  | opened hclosed hlock hsink hreading hall =>
    refine .opened hclosed hlock hsink hreading ?_
    intro pc hpc
    obtain ⟨j, hj⟩ := List.mem_iff_getElem?.mp hpc
    exact (hcalls j pc hj).elim (fun hj => hall pc (List.mem_of_getElem? hj)) id
  | closing i hclosed hlock hsink hreading hi hrest =>
    exact .closing i hclosed hlock hsink hreading (hkept i _ hi rfl) (hothers hrest)
  | aborting i hclosed hlock hsink hreading hi hrest =>
    refine .aborting i hclosed hlock ?_ hreading (hkept i _ hi rfl) (hothers hrest)
    rw [hflushed ⟨i, _, hi, rfl⟩]
    exact hsink
  | settled i answer hclosed hlock hsink hreading hi hrest =>
    refine .settled i answer hclosed hlock ?_ hreading (hkept i _ hi rfl) ?_
    · rw [hflushed ⟨i, _, hi, rfl⟩]
      exact hsink
    · intro j pc hj hne
      exact (hcalls j pc hj).elim (fun hj => hrest j pc hj hne) .inl

/-- An early call goes on before the lock of `closed`. -/
lemma Phase.moveTo (h : s.Phase) {i : ℕ} {pc pc' : ClosePc} (hi : s.calls[i]? = some pc)
    (hearly : pc.early = true) (hearly' : pc'.early = true) (worker : Bool)
    (workerLock : Option ℕ) (stopping : ℕ) :
    Phase { s with
      calls := s.calls.set i pc'
      queue := { s.queue with stopping := stopping }
      worker := worker
      workerLock := workerLock } := by
  refine h.frame ?_ ?_ fun _ => rfl
  · intro j pc'' hj
    rcases (getElem?_set_iff hi).mp hj with ⟨-, rfl⟩ | ⟨-, hj⟩
    · exact .inr hearly'
    · exact .inl hj
  · intro j pc'' hj hlate
    refine (getElem?_set_iff hi).mpr (.inr ⟨?_, hj⟩)
    rintro rfl
    obtain rfl := Option.some.inj (hi.symm.trans hj)
    rw [hearly] at hlate
    cases hlate

/-- The call that closes the sink is alone. -/
lemma Phase.of_closeSink (h : s.Phase) {i : ℕ} (hi : s.calls[i]? = some .closeSink) :
    s.closed = true ∧ s.closedLock = some i ∧ s.reading = true ∧
      ∀ (j : ℕ) (pc : ClosePc), s.calls[j]? = some pc → j ≠ i → pc.early = true := by
  cases h with
  | opened _ _ _ _ hcalls => cases hcalls _ (List.mem_of_getElem? hi)
  | closing k hclosed hlock _ hreading hk hothers =>
    by_cases hik : i = k
    · subst hik
      exact ⟨hclosed, hlock, hreading, hothers⟩
    · cases hothers i _ hi hik
  | aborting k _ _ _ _ hk hothers =>
    by_cases hik : i = k
    · rw [hik, hk] at hi
      cases hi
    · cases hothers i _ hi hik
  | settled k answer _ _ _ _ hk hothers =>
    by_cases hik : i = k
    · rw [hik, hk] at hi
      cases hi
    · rcases hothers i _ hi hik with hearly | heq
      · cases hearly
      · cases heq

/-- The call that has closed the sink is alone, too. -/
lemma Phase.of_abortRead (h : s.Phase) {i : ℕ} (hi : s.calls[i]? = some .abortRead) :
    s.closed = true ∧ s.sink = some (.ok (), s.queue.flushed) ∧
      ∀ (j : ℕ) (pc : ClosePc), s.calls[j]? = some pc → j ≠ i → pc.early = true := by
  cases h with
  | opened _ _ _ _ hcalls => cases hcalls _ (List.mem_of_getElem? hi)
  | closing k _ _ _ _ hk hothers =>
    by_cases hik : i = k
    · rw [hik, hk] at hi
      cases hi
    · cases hothers i _ hi hik
  | aborting k hclosed _ hsink _ hk hothers =>
    by_cases hik : i = k
    · exact ⟨hclosed, hsink, hik ▸ hothers⟩
    · cases hothers i _ hi hik
  | settled k answer _ _ _ _ hk hothers =>
    by_cases hik : i = k
    · rw [hik, hk] at hi
      cases hi
    · rcases hothers i _ hi hik with hearly | heq
      · cases hearly
      · cases heq

/-- When a call has returned, the sink has answered one of them and the others return `Ok`. -/
lemma Phase.of_free (h : s.Phase) (hclosed : s.closed = true) (hlock : s.closedLock = none) :
    ∃ i answer, s.sink = some (answer, s.queue.flushed) ∧ s.reading = !answer.isOk ∧
      s.calls[i]? = some (.returned answer) ∧
        ∀ (j : ℕ) (pc : ClosePc), s.calls[j]? = some pc → j ≠ i →
          pc.early = true ∨ pc = .returned (.ok ()) := by
  cases h with
  | opened hclosed' =>
    rw [hclosed] at hclosed'
    cases hclosed'
  | closing _ _ hlock' | aborting _ _ hlock' =>
    rw [hlock] at hlock'
    cases hlock'
  | settled i answer _ _ hsink hreading hi hothers =>
    exact ⟨i, answer, hsink, hreading, hi, hothers⟩

/-- A call returns when `closed` is set and its lock is free. -/
lemma Phase.of_returned (h : s.Phase) {i : ℕ} {r : Except Error Unit}
    (hi : s.calls[i]? = some (.returned r)) : s.closed = true ∧ s.closedLock = none := by
  cases h with
  | opened _ _ _ _ hcalls => cases hcalls _ (List.mem_of_getElem? hi)
  | closing k _ _ _ _ hk hothers | aborting k _ _ _ _ hk hothers =>
    by_cases hik : i = k
    · rw [hik, hk] at hi
      cases hi
    · cases hothers i _ hi hik
  | settled k answer hclosed hlock => exact ⟨hclosed, hlock⟩

/-- The call that closes the sink ends that, and all others are still early. -/
lemma others_set {i : ℕ} {pc : ClosePc} (hi : s.calls[i]? = some pc) (pc' : ClosePc)
    {P : ClosePc → Prop}
    (hothers : ∀ (j : ℕ) (pc : ClosePc), s.calls[j]? = some pc → j ≠ i → P pc) :
    (s.calls.set i pc')[i]? = some pc' ∧
      ∀ (j : ℕ) (pc : ClosePc), (s.calls.set i pc')[j]? = some pc → j ≠ i → P pc := by
  refine ⟨(getElem?_set_iff hi).mpr (.inl ⟨rfl, rfl⟩), ?_⟩
  intro j pc'' hj hne
  rcases (getElem?_set_iff hi).mp hj with ⟨heq, -⟩ | ⟨-, hj⟩
  · exact absurd heq hne
  · exact hothers j pc'' hj hne

/-- A call is dropped that does not close the sink. -/
lemma Phase.dropped (h : s.Phase) {i : ℕ} {pc : ClosePc} (hi : s.calls[i]? = some pc)
    (hsink : pc.inSink = false) (hstep : s.dropCloseStep i pc = some s') : s'.Phase := by
  cases pc with
  | lockWorker =>
    obtain rfl := Option.some.inj hstep
    exact h.moveTo hi rfl rfl s.worker s.workerLock _
  | awaitWorker =>
    obtain rfl := Option.some.inj hstep
    exact h.moveTo hi rfl rfl s.worker none _
  | lockClosed =>
    obtain rfl := Option.some.inj hstep
    exact h.moveTo hi rfl rfl s.worker s.workerLock s.queue.stopping
  | closeSink | abortRead => cases hsink
  | returned r | dropped => cases hstep

/-- **One step** of closing the sink.

**Proof sketch.** The first call that finds `closed` unset closes the sink and holds the lock until
it returns; all others wait for the lock meanwhile. As this call has left `queue.stop()`, the worker
has ended and the transport takes nothing more. -/
lemma Phase.step {a : Action} (h : s.Phase) (hseen : s.SeenEnd) (hok : s.AwaitsSink a)
    (hstep : Step s a s') : s'.Phase := by
  cases hstep with
  | close q hstop =>
    refine h.frame (fun j pc hj => ?_) (fun j pc hj _ => ?_) fun _ => (eq_of_next_stop hstop).2.2
    · rcases getElem?_concat hj with hj | rfl
      · exact .inl hj
      · exact .inr rfl
    · have hlt : j < s.calls.length := (List.getElem?_eq_some_iff.mp hj).1
      exact (List.getElem?_append_left hlt).trans hj
  | takeHandle i hi => exact h.moveTo hi rfl rfl false (some i) s.queue.stopping
  | noHandle i hi => exact h.moveTo hi rfl rfl s.worker s.workerLock _
  | workerEnded i hi => exact h.moveTo hi rfl rfl s.worker none _
  | alreadyClosed i hi hlock hclosed =>
    obtain ⟨k, answer, hsink, hreading, hk, hothers⟩ := h.of_free hclosed hlock
    have hne : k ≠ i := by
      rintro rfl
      rw [hi] at hk
      cases hk
    refine .settled k answer hclosed hlock hsink hreading
      ((getElem?_set_iff hi).mpr (.inr ⟨hne, hk⟩)) ?_
    intro j pc hj hjk
    rcases (getElem?_set_iff hi).mp hj with ⟨-, rfl⟩ | ⟨-, hj⟩
    · exact .inr rfl
    · exact hothers j pc hj hjk
  | setClosed i hi hlock hclosed =>
    cases h with
    | opened _ _ hsink hreading hcalls =>
      obtain ⟨hi', hothers⟩ := others_set hi .closeSink (P := fun pc => pc.early = true)
        fun j pc hj _ => hcalls pc (List.mem_of_getElem? hj)
      exact .closing i rfl rfl hsink hreading hi' hothers
    | closing _ hclosed' | aborting _ hclosed' | settled _ _ hclosed' =>
      rw [hclosed] at hclosed'
      cases hclosed'
  | sinkClosed i hi =>
    obtain ⟨hclosed, hlock, hreading, hothers⟩ := h.of_closeSink hi
    obtain ⟨hi', hothers'⟩ := others_set hi .abortRead hothers
    exact .aborting i hclosed hlock rfl hreading hi' hothers'
  | sinkFailed i error hi =>
    obtain ⟨hclosed, -, hreading, hothers⟩ := h.of_closeSink hi
    obtain ⟨hi', hothers'⟩ := others_set hi (.returned (.error error)) hothers
    exact .settled i (.error error) hclosed rfl rfl hreading hi' fun j pc hj hne =>
      .inl (hothers' j pc hj hne)
  | abortRead i hi =>
    obtain ⟨hclosed, hsink, hothers⟩ := h.of_abortRead hi
    obtain ⟨hi', hothers'⟩ := others_set hi (.returned (.ok ())) hothers
    exact .settled i (.ok ()) hclosed rfl hsink rfl hi' fun j pc hj hne =>
      .inl (hothers' j pc hj hne)
  | dropped i pc hi s' hdrop => exact h.dropped hi (hok pc hi) hdrop
  | queue a b ha q hstep =>
    refine h.frame (fun j pc hj => .inl hj) (fun j pc hj _ => hj) ?_
    rintro ⟨j, pc, hj, hlate⟩
    have hafter : pc.afterStop = true := by cases pc <;> first | rfl | cases hlate
    exact (ended_next (hseen.left j pc hj hafter) hstep).2

end

/-! ## Every run -/

/-- What holds in every reachable state. -/
structure Held (s : WebSocketTransport) : Prop where
  stop : s.StopLock
  closed : s.ClosedHeld
  uniform : TransportSendQueue.Uniform s.queue.buffer

/-- What holds besides when no call is dropped while it waits for the worker. -/
structure Sound (s : WebSocketTransport) : Prop where
  locks : s.StopLock
  seen : s.SeenEnd
  queue : TransportSendQueue.system.Reachable s.queue

section

variable {s s' : WebSocketTransport} {a : Action}

/-- A call that leaves `queue.stop()` when the worker has ended returns from the `stop` of the
queue. -/
lemma StopLock.next_stopReturn (h : s.StopLock) {i : ℕ} {pc : ClosePc} (hi : s.calls[i]? = some pc)
    (hstop : pc.inStop = true) (hended : s.queue.worker = .ended) :
    s.queue.next .stopReturn = some { s.queue with stopping := s.queue.stopping - 1 } := by
  have hpos : 0 < s.calls.countP ClosePc.inStop :=
    List.countP_pos_iff.mpr ⟨pc, List.mem_of_getElem? hi, hstop⟩
  rw [← h.stopping] at hpos
  exact if_pos ⟨Nat.pos_iff_ne_zero.mp hpos, hended⟩

/-- Every step is one of the queue, or changes at most how many calls are in `stop`. -/
lemma queue_of_step (hstep : Step s a s') :
    (∃ b, s.queue.next b = some s'.queue) ∨
      ∃ n, s'.queue = { s.queue with stopping := n } := by
  cases hstep with
  | close q hstop => exact .inl ⟨_, hstop⟩
  | queue a b ha q hstep => exact .inl ⟨_, hstep⟩
  | dropped i pc hi s' hdrop => cases pc <;> cases hdrop <;> exact .inr ⟨_, rfl⟩
  | _ => exact .inr ⟨_, rfl⟩

/-- **One step** of the transport. -/
lemma Held.step (h : s.Held) (hstep : Step s a s') : s'.Held where
  stop := h.stop.step hstep
  closed := h.closed.step hstep
  uniform := by
    rcases queue_of_step hstep with ⟨b, hb⟩ | ⟨n, heq⟩
    · exact TransportSendQueue.uniform_next h.uniform hb
    · rw [heq]
      exact h.uniform

/-- **One step** of the transport, with the condition. A call that leaves `queue.stop()` returns
from the `stop` of the queue, as it has seen the worker end. -/
lemma Sound.step (h : s.Sound) (hok : s.AwaitsWorker a) (hstep : Step s a s') : s'.Sound where
  locks := h.locks.step hstep
  seen := h.seen.step hok hstep
  queue := by
    cases hstep with
    | close q hstop => exact h.queue.next (a := .stop) hstop
    | queue a b ha q hstep => exact h.queue.next (a := b) hstep
    | noHandle i hi hlock hworker =>
      exact h.queue.next (a := .stopReturn)
        (h.locks.next_stopReturn hi rfl (h.seen.taken hworker hlock))
    | workerEnded i hi hended =>
      exact h.queue.next (a := .stopReturn) (h.locks.next_stopReturn hi rfl hended)
    | dropped i pc hi s' hdrop =>
      have hended := h.seen.dropped hok hi hdrop
      cases pc with
      | lockWorker | awaitWorker =>
        cases hdrop
        exact h.queue.next (a := .stopReturn) (h.locks.next_stopReturn hi rfl hended)
      | lockClosed | closeSink | abortRead =>
        cases hdrop
        exact h.queue
      | returned | dropped => cases hdrop
    | takeHandle | alreadyClosed | setClosed | sinkClosed | sinkFailed | abortRead =>
      exact h.queue

/-- No call has been made initially. -/
lemma stopLock_new : new.StopLock :=
  ⟨rfl, fun i h => (by simp [new] at h), fun i h => (by cases h)⟩

/-- Nobody has seen the worker end initially. -/
lemma sound_new : new.Sound :=
  ⟨stopLock_new, ⟨fun h => (by cases h), fun i pc h => (by simp [new] at h)⟩, ⟨[], rfl⟩⟩

/-- The locks in every reachable state. -/
lemma held_of_reachable (h : system.Reachable s) : s.Held :=
  h.invariant (I := Held) ⟨stopLock_new, fun i hi => (by cases hi), trivial⟩
    fun _ _ _ hs hstep => hs.step (step_of_next hstep)

end

/-- **The lock does what the model of the queue says**: in every run of the transport in which no
call is dropped while it waits for the worker, the queue goes through a run of its own, in which
`stop` returns when the worker has ended. -/
theorem reachable_queue {as : List Action} {s : WebSocketTransport}
    (hrun : system.run as = some s) (hm : system.Meets AwaitsWorker as) :
    TransportSendQueue.system.Reachable s.queue :=
  (Automata.System.invariant_of_meets (I := Sound) sound_new
    (fun _ _ _ hs hok hstep => hs.step hok (step_of_next hstep)) hrun hm).queue

/-- Two calls at once behind a frame, where the sink fails; a third one is dropped. -/
def failedClose : List Action :=
  [.send (.text "a"), .recv, .tryRecv, .flush (.ok ()), .close, .close, .recv, .lockWorker 0,
    .workerEnded 0, .lockWorker 1, .lockClosed 1, .closeSink 1 (.error (.webSocket "reset")),
    .close, .lockClosed 0, .dropClose 2]

/-- While one of the calls closes the sink, the queue has come to its end by itself. -/
theorem reachable_queue_failed :
    ∃ s, system.run failedClose = some s ∧ s.queue.flushed = [.text "a"] ∧
      TransportSendQueue.system.Reachable s.queue := by
  have hrun : system.run failedClose = some _ := rfl
  exact ⟨_, hrun, rfl, reachable_queue hrun (by decide)⟩

/-- How the calls of `close` and the sink fit together. -/
structure Closes (s : WebSocketTransport) : Prop where
  /-- The sink is closed when the worker has ended, and nothing is written behind that. -/
  last : ∀ answer frames, s.sink = some (answer, frames) →
    s.queue.worker = .ended ∧ s.queue.flushed = frames
  /-- A call returns when the worker has ended and the sink has answered, with `Ok` or with this
  answer. -/
  returned : ∀ (i : ℕ) (r : Except Error Unit), s.calls[i]? = some (.returned r) →
    s.queue.worker = .ended ∧
      ∃ answer, s.sink = some (answer, s.queue.flushed) ∧ (r = .ok () ∨ r = answer)
  /-- One call returns an error of the sink. -/
  failed : ∀ (error : Error) (frames : List OutboundPayload),
    s.sink = some (.error error, frames) →
      ∃! i : ℕ, ∃ e, s.calls[i]? = some (.returned (.error e))
  /-- When a call has returned, the read task has been aborted if the sink was closed. -/
  reading : ∀ (i : ℕ) (r : Except Error Unit), s.calls[i]? = some (.returned r) →
    (s.reading = false ↔ ∃ frames, s.sink = some (.ok (), frames))

/-- The sink is closed by a call that has seen the worker end. -/
lemma Phase.of_sink {s : WebSocketTransport} (h : s.Phase) {answer : Except Error Unit}
    {frames : List OutboundPayload} (hsink : s.sink = some (answer, frames)) :
    s.queue.flushed = frames ∧
      (∃ (i : ℕ) (pc : ClosePc), s.calls[i]? = some pc ∧ pc.afterStop = true) ∧
        ∀ error, answer = .error error → s.closed = true ∧ s.closedLock = none := by
  cases h with
  | opened _ _ hnone | closing _ _ _ hnone =>
    rw [hsink] at hnone
    cases hnone
  | aborting k hclosed hlock hsome _ hk =>
    obtain ⟨rfl, rfl⟩ := Prod.mk.inj (Option.some.inj (hsink.symm.trans hsome))
    exact ⟨rfl, ⟨k, _, hk, rfl⟩, by simp⟩
  | settled k answer' hclosed hlock hsome _ hk =>
    obtain ⟨rfl, rfl⟩ := Prod.mk.inj (Option.some.inj (hsink.symm.trans hsome))
    exact ⟨rfl, ⟨k, _, hk, rfl⟩, fun _ _ => ⟨hclosed, hlock⟩⟩

/-- **The sink is closed once**, in every run of any number of calls of `close`, of senders and of
the worker in which no call is dropped while it waits for the worker or for the sink: behind the
last frame, after which no frame is written. No call returns before that, and an error of the sink
is returned by one call.

**Proof sketch.** The call that finds `closed` unset has seen the worker end, and keeps the lock of
`closed` until the sink has answered. -/
theorem closes_of_meets {as : List Action} {s : WebSocketTransport} (hrun : system.run as = some s)
    (hm : system.Meets (fun s a => s.AwaitsWorker a ∧ s.AwaitsSink a) as) : s.Closes := by
  obtain ⟨⟨-, hseen, -⟩, hphase⟩ : s.Sound ∧ s.Phase :=
    Automata.System.invariant_of_meets (I := fun s => s.Sound ∧ s.Phase)
      ⟨sound_new, .opened rfl rfl rfl rfl (by simp [system, new])⟩
      (fun _ _ _ hs hok hstep => ⟨hs.1.step hok.1 (step_of_next hstep),
        hs.2.step hs.1.seen hok.2 (step_of_next hstep)⟩) hrun hm
  have hreturned : ∀ {k : ℕ} {answer : Except Error Unit},
      s.calls[k]? = some (.returned answer) →
      (∀ (j : ℕ) (pc : ClosePc), s.calls[j]? = some pc → j ≠ k →
        pc.early = true ∨ pc = .returned (.ok ())) →
      ∀ (i : ℕ) (r : Except Error Unit), s.calls[i]? = some (.returned r) →
        r = .ok () ∨ (i = k ∧ r = answer) := by
    intro k answer hk hothers i r hi
    by_cases hik : i = k
    · rw [hik, hk] at hi
      cases hi
      exact .inr ⟨hik, rfl⟩
    · rcases hothers i _ hi hik with hearly | heq
      · cases hearly
      · cases heq
        exact .inl rfl
  exact
    { last := by
        intro answer frames hsome
        obtain ⟨hframes, ⟨i, pc, hi, hpc⟩, -⟩ := hphase.of_sink hsome
        exact ⟨hseen.left i pc hi hpc, hframes⟩
      returned := by
        intro i r hi
        obtain ⟨hclosed, hlock⟩ := hphase.of_returned hi
        obtain ⟨k, answer, hsink, -, hk, hothers⟩ := hphase.of_free hclosed hlock
        exact ⟨hseen.left i _ hi rfl, answer, hsink,
          (hreturned hk hothers i r hi).imp id And.right⟩
      failed := by
        intro error frames hsome
        obtain ⟨-, -, hfree⟩ := hphase.of_sink hsome
        obtain ⟨hclosed, hlock⟩ := hfree error rfl
        obtain ⟨k, answer, hsink, -, hk, hothers⟩ := hphase.of_free hclosed hlock
        obtain ⟨rfl, -⟩ := Prod.mk.inj (Option.some.inj (hsink.symm.trans hsome))
        refine ⟨k, ⟨error, hk⟩, ?_⟩
        rintro i ⟨e, hi⟩
        rcases hreturned hk hothers i _ hi with heq | ⟨hik, -⟩
        · cases heq
        · exact hik
      reading := by
        intro i r hi
        obtain ⟨hclosed, hlock⟩ := hphase.of_returned hi
        obtain ⟨k, answer, hsink, hreading, -, -⟩ := hphase.of_free hclosed hlock
        rw [hreading, hsink]
        cases answer <;> simp [Except.isOk, Except.toBool] }

/-- One of two calls returns the error of the sink. -/
theorem closes_of_meets_failed :
    ∃ s, system.run failedClose = some s ∧
      s.sink = some (.error (.webSocket "reset"), [.text "a"]) ∧ s.Closes := by
  have hrun : system.run failedClose = some _ := rfl
  exact ⟨_, hrun, rfl, closes_of_meets hrun (by decide)⟩

/-- When the call that has taken the handle is dropped, the next one closes the sink and returns
before the worker has ended, and a frame is written behind that. -/
example :
    (system.run [.send (.text "a"), .close, .lockWorker 0, .dropClose 0, .close, .lockWorker 1,
      .lockClosed 1, .closeSink 1 (.ok ()), .abortRead 1, .recv, .tryRecv, .flush (.ok ())]).map
        (fun s => (s.calls, s.sink, s.queue.flushed, s.queue.worker)) =
      some ([.dropped, .returned (.ok ())], some (.ok (), []), [.text "a"], .receive) := by rfl

end WebSocketTransport

end Signalrr.Transport
