import Signalrr.HubConnection.CloseReports
import Signalrr.HubConnection.SupervisorLoop

set_option relaxedAutoImplicit false
set_option autoImplicit false

/-!
# The background loops

`run_keepalive` of `src/hub_connection/runtime.rs` waits for the shutdown signal, for messages that
are received and sent, and for two timers. Like a supervisor, it goes on when `changed()` is an
error, which it is at once and every time when the runtime is dropped.

## Main definitions

* `Signalrr.HubConnection.KeepAliveLoop` — the keep-alive task with what it waits for.
* `Signalrr.HubConnection.KeepAliveInput` — what it may get.
* `Signalrr.HubConnection.KeepAliveLoop.loop` — its loop.

## Main results

* `Signalrr.HubConnection.KeepAliveLoop.lawful` — the loop is one with a stop signal.
* `Signalrr.HubConnection.loops_neverSpin_iff` — when the loops of the hub connection do not spin.

## Design

Outside of `select!` the task takes the steps of `RuntimeTasks`. `Notify` keeps one permit. A timer
that has expired stays so until its deadline is put off, as it is made anew for each passage. Time
passes as it likes, and at least to the deadline of a timer that expires.
-/

namespace Signalrr.HubConnection

open Automata

/-- The deadlines of the keep-alive task, in milliseconds. -/
structure KeepAliveOptions where
  serverTimeout : ℕ
  keepAliveInterval : ℕ

/-- The keep-alive task, with what it waits for. -/
structure KeepAliveLoop where
  pc : KeepAlivePc
  /-- The shutdown signal. -/
  signal : Watch Bool
  /-- The permit of `received`. -/
  received : Bool
  /-- The permit of `sent`. -/
  sent : Bool
  now : ℕ
  lastReceived : ℕ
  nextPingAt : ℕ
  /-- The timer of the server deadline has expired. -/
  serverExpired : Bool
  /-- The timer of the ping deadline has expired. -/
  pingExpired : Bool
  /-- How many pings have been sent. -/
  pings : ℕ
  /-- The receive task of the runtime. -/
  receive : ReceivePc
  /-- `transport_close_signaled`. -/
  closeSignaled : Bool
  /-- The `TransportEvent::Closed` events that have been sent. -/
  reports : List TransportCloseInfo

/-- What the keep-alive task gets. -/
inductive KeepAliveInput where
  /-- The shutdown signal is changed, or its sender is dropped. -/
  | signal (i : WatchInput Bool)
  | received
  | sent
  | serverTimer
  | pingTimer

/-- A branch of `select!`. -/
inductive KeepAliveBranch where
  | shutdown
  | received
  | sent
  | serverTimer
  /-- The ping takes some time to be sent. -/
  | pingTimer (took : ℕ)

/-- A step beside or of the keep-alive task. -/
inductive KeepAliveAction where
  | input (i : KeepAliveInput)
  | elapse (time : ℕ)
  /-- The receive task changes what it shares. -/
  | receive (pc : ReceivePc) (closeSignaled : Bool) (reports : List TransportCloseInfo)
  /-- The task goes on by itself. -/
  | step
  | select (branch : KeepAliveBranch)

/-- The task has left its loop. -/
def KeepAlivePc.hasLeft : KeepAlivePc → Bool
  | loop | select => false
  | _ => true

namespace KeepAliveLoop

/-- The tasks of the runtime. -/
def tasks (s : KeepAliveLoop) : RuntimeTasks :=
  ⟨s.signal.value, s.signal.dropped, s.closeSignaled, s.reports, s.receive, s.pc⟩

/-- The state after an input. -/
def supply (options : KeepAliveOptions) (s : KeepAliveLoop) :
    KeepAliveInput → Option KeepAliveLoop
  | .signal i => (s.signal.receive i).map fun signal => { s with signal := signal }
  | .received => some { s with received := true }
  | .sent => some { s with sent := true }
  | .serverTimer =>
    some { s with
      now := max s.now (s.lastReceived + options.serverTimeout)
      serverExpired := true }
  | .pingTimer => some { s with now := max s.now s.nextPingAt, pingExpired := true }

/-- `select!`. -/
def select (options : KeepAliveOptions) (s : KeepAliveLoop) :
    KeepAliveBranch → Option KeepAliveLoop
  | .shutdown =>
    s.signal.changed.map fun (ok, signal) =>
      { s with signal := signal, pc := if ok && signal.value then .ended else .loop }
  | .received =>
    if s.received then
      some { s with received := false, lastReceived := s.now, serverExpired := false, pc := .loop }
    else none
  | .sent =>
    if s.sent then
      some { s with
        sent := false
        nextPingAt := s.now + options.keepAliveInterval
        pingExpired := false
        pc := .loop }
    else none
  | .serverTimer =>
    if s.serverExpired then
      some { s with
        serverExpired := false
        pc := if options.serverTimeout ≤ s.now - s.lastReceived then .timedOut else .loop }
    else none
  | .pingTimer took =>
    if s.pingExpired then
      if s.nextPingAt ≤ s.now then
        some { s with
          pings := s.pings + 1
          now := s.now + took
          nextPingAt := s.now + took + options.keepAliveInterval
          pingExpired := false
          pc := .loop }
      else some { s with pingExpired := false, pc := .loop }
    else none

/-- The state after a step. -/
def next (options : KeepAliveOptions) (s : KeepAliveLoop) : KeepAliveAction → Option KeepAliveLoop
  | .input i => s.supply options i
  | .elapse time => some { s with now := s.now + time }
  | .receive pc closeSignaled reports =>
    some { s with receive := pc, closeSignaled := closeSignaled, reports := reports }
  | .step =>
    s.tasks.keepAliveStep.map fun tasks =>
      { s with
        pc := tasks.keepAlive
        closeSignaled := tasks.closeSignaled
        reports := tasks.reports }
  | .select branch =>
    match s.pc with
    | .select => s.select options branch
    | _ => none

/-- How many inputs the task has not used yet. -/
def unused (s : KeepAliveLoop) : ℕ :=
  s.signal.unread + s.received.toNat + s.sent.toNat + s.serverExpired.toNat + s.pingExpired.toNat

/-- A task that was just spawned. -/
def spawned (options : KeepAliveOptions) (now : ℕ) (receive : ReceivePc) : KeepAliveLoop where
  pc := .loop
  signal := ⟨false, 0, 0, false⟩
  received := false
  sent := false
  now := now
  lastReceived := now
  nextPingAt := now + options.keepAliveInterval
  serverExpired := false
  pingExpired := false
  pings := 0
  receive := receive
  closeSignaled := false
  reports := []

/-- The loop of the keep-alive task. -/
def loop (options : KeepAliveOptions) (now : ℕ) (receive : ReceivePc) :
    StopLoop KeepAliveLoop KeepAliveAction KeepAliveInput where
  system := ⟨spawned options now receive, next options⟩
  input
    | .input i => some i
    | _ => none
  passes
    | s, .select _ => decide (s.pc = .select)
    | _, _ => false
  left s := s.pc.hasLeft
  unused := unused
  signal := signal
  signalInput
    | .signal i => some i
    | _ => none
  fresh s := s.pc = .loop

/-! ## Steps -/

variable {options : KeepAliveOptions} {s s' : KeepAliveLoop}

/-- One input is one more that is not used yet. -/
lemma supply_cases {i : KeepAliveInput} (h : s.supply options i = some s') :
    s'.pc = s.pc ∧ s'.unused ≤ s.unused + 1 := by
  have hreceived := Bool.toNat_le s.received
  cases i with
  | signal j =>
    obtain ⟨w, -, rfl⟩ := Option.map_eq_some_iff.mp h
    refine ⟨rfl, ?_⟩
    have hunread := w.unread_le
    simp only [unused]
    omega
  | received | sent | serverTimer | pingTimer =>
    cases h
    refine ⟨rfl, ?_⟩
    simp only [unused, Bool.toNat_true]
    omega

/-- The signal is changed by its inputs. -/
lemma signal_of_supply {now : ℕ} {receive : ReceivePc} {i : KeepAliveInput}
    (h : s.supply options i = some s') :
    match (loop options now receive).signalInput i with
    | some j => s.signal.receive j = some s'.signal
    | none => s'.signal = s.signal := by
  cases i with
  | signal j =>
    obtain ⟨w, hw, rfl⟩ := Option.map_eq_some_iff.mp h
    exact hw
  | received | sent | serverTimer | pingTimer =>
    cases h
    rfl

/-- An input comes unless it is one of an owner that is gone. -/
lemma exists_supply {i : KeepAliveInput}
    (hthere : ∀ j, i = .signal j → s.signal.dropped = false) :
    ∃ s', s.supply options i = some s' := by
  cases i with
  | signal j =>
    obtain ⟨w, hw⟩ := Watch.exists_receive (hthere j rfl) j
    exact ⟨{ s with signal := w }, by rw [supply, hw, Option.map_some]⟩
  | received | sent | serverTimer | pingTimer => exact ⟨_, rfl⟩

/-- A step outside of `select!` does not touch what the task waits for, and does not come back to
the loop. -/
lemma step_frame (options : KeepAliveOptions) (h : s.next options .step = some s') :
    s'.signal = s.signal ∧ s'.unused = s.unused ∧
      (s.pc.hasLeft = true → s'.pc.hasLeft = true) := by
  obtain ⟨t, ht, rfl⟩ := Option.map_eq_some_iff.mp h
  refine ⟨rfl, rfl, fun hleft => ?_⟩
  cases hpc : s.pc with
  | loop | select =>
    rw [hpc] at hleft
    cases hleft
  | timedOut | reportTimeout | closing =>
    simp only [RuntimeTasks.keepAliveStep, tasks, hpc] at ht
    cases ht
    first
      | rfl
      | (dsimp only; split <;> rfl)
  | ended => simp [RuntimeTasks.keepAliveStep, tasks, hpc] at ht

/-- A branch of `select!` uses an input up, unless it leaves the loop or finds that the owner of the
signal is gone. -/
lemma select_cases {branch : KeepAliveBranch} (h : s.select options branch = some s') :
    (s'.signal = s.signal ∨ s.signal.seen ≠ s.signal.version ∧ s'.signal = s.signal.see ∧
        (s.signal.value = true → s'.pc.hasLeft = true)) ∧
      (s'.unused < s.unused ∨ s.signal.dropped = true ∧ s.signal.seen = s.signal.version ∧
        s'.unused = s.unused) := by
  cases branch with
  | shutdown =>
    obtain ⟨⟨ok, w⟩, hchanged, rfl⟩ := Option.map_eq_some_iff.mp h
    rcases Watch.changed_cases hchanged with ⟨hseen, rfl, rfl⟩ | ⟨hseen, hdropped, rfl, rfl⟩
    · have hunread : s.signal.unread = 1 := if_neg hseen
      refine ⟨.inr ⟨hseen, rfl, fun hvalue => ?_⟩, .inl ?_⟩
      · simp only [Watch.see_value, hvalue, Bool.and_self, if_true]
        rfl
      · simp only [unused, Watch.unread_see, hunread]
        omega
    · exact ⟨.inl rfl, .inr ⟨hdropped, hseen, rfl⟩⟩
  | received =>
    simp only [select] at h
    split at h
    · rename_i hreceived
      cases h
      refine ⟨.inl rfl, .inl ?_⟩
      simp only [unused, hreceived, Bool.toNat_true, Bool.toNat_false]
      omega
    · cases h
  | sent =>
    simp only [select] at h
    split at h
    · rename_i hsent
      cases h
      refine ⟨.inl rfl, .inl ?_⟩
      simp only [unused, hsent, Bool.toNat_true, Bool.toNat_false]
      omega
    · cases h
  | serverTimer =>
    simp only [select] at h
    split at h
    · rename_i hexpired
      cases h
      refine ⟨.inl rfl, .inl ?_⟩
      simp only [unused, hexpired, Bool.toNat_true, Bool.toNat_false]
      omega
    · cases h
  | pingTimer took =>
    simp only [select] at h
    split at h
    · rename_i hexpired
      split at h <;> cases h <;> refine ⟨.inl rfl, .inl ?_⟩ <;>
        simp only [unused, hexpired, Bool.toNat_true, Bool.toNat_false] <;> omega
    · cases h

/-- A branch is taken in `select!`. -/
lemma select_of_next {branch : KeepAliveBranch} (h : s.next options (.select branch) = some s') :
    s.pc = .select ∧ s.select options branch = some s' := by
  simp only [next] at h
  split at h
  · rename_i hpc
    exact ⟨hpc, h⟩
  · cases h

/-- A task that is not to stop waits. -/
lemma next_loop (hpc : s.pc = .loop) (hvalue : s.signal.value = false) :
    s.next options .step = some { s with pc := .select } := by
  simp [next, RuntimeTasks.keepAliveStep, tasks, hpc, hvalue]

/-- A task that waits sees a change that is not to stop, and goes on. -/
lemma next_change (hpc : s.pc = .select) (hseen : s.signal.seen ≠ s.signal.version)
    (hvalue : s.signal.value = false) :
    s.next options (.select .shutdown) = some { s with signal := s.signal.see, pc := .loop } := by
  have hchanged : s.signal.changed = some (true, s.signal.see) := if_pos hseen
  simp [next, hpc, select, hchanged, hvalue]

/-- A task that waits finds that the owner of the signal is gone, and goes on. -/
lemma next_dropped (hpc : s.pc = .select) (hseen : s.signal.seen = s.signal.version)
    (hdropped : s.signal.dropped = true) :
    s.next options (.select .shutdown) = some { s with pc := .loop } := by
  have hchanged : s.signal.changed = some (false, s.signal) := by
    rw [Watch.changed, if_neg (not_not.mpr hseen), if_pos hdropped]
  simp [next, hpc, select, hchanged]

/-- A task whose signal has lost its owner passes its loop without getting anywhere. -/
lemma cycle_of_seen {now : ℕ} {receive : ReceivePc} (hpc : s.pc = .select)
    (hdropped : s.signal.dropped = true) (hseen : s.signal.seen = s.signal.version)
    (hvalue : s.signal.value = false) :
    let L := loop options now receive
    L.system.runFrom s [.select .shutdown, .step] = some s ∧
      L.inputs [.select .shutdown, .step] = [] ∧
      0 < L.passages s [.select .shutdown, .step] := by
  intro L
  have hfirst : L.system.runFrom s [.select .shutdown] = some { s with pc := .loop } := by
    change (s.next options (.select .shutdown)).bind some = _
    rw [next_dropped hpc hseen hdropped, Option.bind_some]
  have hselect : { s with pc := KeepAlivePc.select } = s := by rw [← hpc]
  have hsecond : L.system.runFrom { s with pc := .loop } [.step] = some s := by
    change (next options { s with pc := .loop } .step).bind some = _
    rw [next_loop (s := { s with pc := .loop }) rfl hvalue, Option.bind_some, hselect]
  refine ⟨?_, rfl, ?_⟩
  · rw [show [KeepAliveAction.select .shutdown, .step] = [.select .shutdown] ++ [.step] from rfl,
      System.runFrom_append, hfirst, Option.bind_some, hsecond]
  · have hpass : L.passages s [.select .shutdown] = 1 := by
      rw [InputLoop.passages_singleton]
      change (decide (s.pc = .select)).toNat = 1
      rw [hpc]
      rfl
    rw [show [KeepAliveAction.select .shutdown, .step] = [.select .shutdown] ++ [.step] from rfl,
      InputLoop.passages_append hfirst, hpass]
    omega

/-- A task that is not to stop, and whose signal has lost its owner, comes to pass its loop without
getting anywhere. -/
lemma exists_cycle {now : ℕ} {receive : ReceivePc} (hpc : s.pc = .loop)
    (hdropped : s.signal.dropped = true) (hvalue : s.signal.value = false) :
    let L := loop options now receive
    ∃ as t cycle, L.system.runFrom s as = some t ∧ L.inputs as = [] ∧
      L.system.runFrom t cycle = some t ∧ L.inputs cycle = [] ∧ 0 < L.passages t cycle := by
  intro L
  have hstep : s.next options .step = some { s with pc := .select } := next_loop hpc hvalue
  rcases eq_or_ne s.signal.seen s.signal.version with hseen | hseen
  · refine ⟨[.step], { s with pc := .select }, _, ?_, rfl,
      cycle_of_seen rfl hdropped hseen hvalue⟩
    change (s.next options .step).bind some = _
    rw [hstep, Option.bind_some]
  · -- a change that is not to stop is seen first
    refine ⟨[.step, .select .shutdown, .step], { s with signal := s.signal.see, pc := .select },
      _, ?_, rfl, cycle_of_seen rfl hdropped rfl hvalue⟩
    change (s.next options .step).bind (fun t => (t.next options (.select .shutdown)).bind
      fun t => (t.next options .step).bind some) = _
    have hchange : next options { s with pc := .select } (.select .shutdown) = _ :=
      next_change (s := { s with pc := .select }) rfl hseen hvalue
    have hloop : next options { s with signal := s.signal.see, pc := .loop } .step = _ :=
      next_loop (s := { s with signal := s.signal.see, pc := .loop }) rfl hvalue
    rw [hstep, Option.bind_some, hchange, Option.bind_some, hloop, Option.bind_some]

/-- **The loop of the keep-alive task** is one with a stop signal. -/
theorem lawful (options : KeepAliveOptions) (now : ℕ) (receive : ReceivePc) :
    (loop options now receive).Lawful where
  supply {s s' a} h := by
    cases a with
    | input i => exact (supply_cases h).2
    | elapse time | receive pc closeSignaled reports =>
      cases h
      exact le_rfl
    | step => exact (step_frame options h).2.1.le
    | select branch =>
      rcases (select_cases (select_of_next h).2).2 with hlt | ⟨-, -, heq⟩
      · exact hlt.le
      · exact heq.le
  passes {s a} h := by
    cases a with
    | select branch =>
      have hpc : s.pc = .select := of_decide_eq_true h
      refine ⟨rfl, ?_⟩
      change s.pc.hasLeft = false
      rw [hpc]
      rfl
    | _ => cases h
  leaves {s s' a} h hleft := by
    change s.pc.hasLeft = true at hleft
    change s'.pc.hasLeft = true
    cases a with
    | input i => rw [(supply_cases h).1, hleft]
    | elapse time | receive pc closeSignaled reports =>
      cases h
      exact hleft
    | step => exact (step_frame options h).2.2 hleft
    | select branch =>
      rw [(select_of_next h).1] at hleft
      cases hleft
  init_seen := rfl
  init_dropped := rfl
  init_fresh := rfl
  input {s s' a i} h hi := by
    cases a with
    | input i' =>
      obtain rfl : i' = i := Option.some.inj hi
      exact signal_of_supply h
    | _ => cases hi
  step {s s' a} h hi := by
    cases a with
    | input i => cases hi
    | elapse time | receive pc closeSignaled reports =>
      cases h
      exact .inl rfl
    | step => exact .inl (step_frame options h).1
    | select branch => exact (select_cases (select_of_next h).2).1
  passage {s s' a} h hpass := by
    cases a with
    | select branch =>
      rcases (select_cases (select_of_next h).2).2 with hlt | ⟨hdropped, hseen, -⟩
      · exact .inr (.inl hlt)
      · exact .inr (.inr ⟨hdropped, hseen⟩)
    | _ => cases hpass
  supplied {s} i hfresh hthere := by
    obtain ⟨s', hs'⟩ := exists_supply (s := s) (i := i) fun j hj => hthere j (by rw [hj]; rfl)
    exact ⟨.input i, s', rfl, hs', (supply_cases hs').1.trans hfresh⟩
  cycles {s} hfresh hdropped hvalue :=
    exists_cycle hfresh hdropped (hvalue.elim id fun h => h.2)

end KeepAliveLoop

/-! ## Both loops -/

/-- **The loops do not spin** if and only if the senders of their signals are dropped only after
they have been told to stop: the last change before `stop_reconnect` or the shutdown signal loses
its sender is to `true`. -/
theorem loops_neverSpin_iff (options : ConnectionOptions) (core : Core) (connection receiver : ℕ)
    (deadlines : KeepAliveOptions) (now : ℕ) (receive : ReceivePc) :
    (∀ is, let L := SupervisorLoop.loop options core connection receiver
      L.NeverSpins is ↔ StopsFirst (L.signals is)) ∧
    ∀ is, let L := KeepAliveLoop.loop deadlines now receive
      L.NeverSpins is ↔ StopsFirst (L.signals is) :=
  ⟨(SupervisorLoop.lawful options core connection receiver).neverSpins_iff,
    (KeepAliveLoop.lawful deadlines now receive).neverSpins_iff⟩

/-- An owner that is dropped at once, and was never told to stop, lets both loops spin. -/
theorem loops_spin_dropped :
    ¬ (SupervisorLoop.loop .plain .new 0 0).NeverSpins [.signal .dropped] ∧
      ¬ (KeepAliveLoop.loop ⟨30000, 15000⟩ 0 .loop).NeverSpins [.signal .dropped] := by
  have hstops : ¬ StopsFirst [.dropped] := fun h => by
    have hchange : lastChange ([] : List (WatchInput Bool)) = some true :=
      h [] (List.prefix_refl _) List.not_mem_nil
    cases hchange
  exact ⟨fun h => hstops (((SupervisorLoop.lawful .plain .new 0 0).neverSpins_iff _).mp h),
    fun h => hstops (((KeepAliveLoop.lawful ⟨30000, 15000⟩ 0 .loop).neverSpins_iff _).mp h)⟩

end Signalrr.HubConnection
