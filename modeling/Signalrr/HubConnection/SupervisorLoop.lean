import Signalrr.Automata.InputLoop
import Signalrr.HubConnection.StaysClosed

set_option relaxedAutoImplicit false
set_option autoImplicit false

/-!
# The loop of a supervisor

A supervisor of `src/hub_connection/mod.rs` waits for a change of `stop_reconnect` or an event of
its transport, and for a delay before it reconnects. When the hub connection is dropped, the sender
of `stop_reconnect` is, and `changed()` is an error from then on, at once and every time.

## Main definitions

* `Signalrr.HubConnection.SupervisorLoop` — a supervisor with what it waits for.
* `Signalrr.HubConnection.SupervisorInput` — what it may get.
* `Signalrr.HubConnection.SupervisorLoop.loop` — its loop.

## Main results

* `Signalrr.HubConnection.Supervisor.signal_of_step` — who sees the signal.
* `Signalrr.HubConnection.SupervisorLoop.lawful` — the loop is one with a stop signal.

## Design

The steps are those of `Supervisor`, where events and delays are taken from the inputs. A passage of
the loop is a step from `select!`, and one of the loop inside it a step from a delay. Other tasks
change the shared fields as they like; the signal is changed by its sender alone. A supervisor that
is aborted does not pass its loop again, and is left out.
-/

namespace Signalrr.HubConnection

open Automata

/-- A supervisor, with what it waits for. -/
structure SupervisorLoop where
  core : Core
  supervisor : Supervisor
  /-- The sender of `stop_reconnect` is dropped. -/
  dropped : Bool
  /-- The transport whose events it receives. -/
  receiver : ℕ
  /-- The events that have been sent, with their transports. -/
  pending : List (ℕ × TransportCloseInfo)
  /-- The transports whose senders of events are all dropped. -/
  closed : List ℕ
  /-- How many delays have expired. -/
  timers : ℕ

/-- What a supervisor gets. -/
inductive SupervisorInput where
  /-- `stop_reconnect` is changed, or its sender is dropped. -/
  | signal (i : WatchInput Bool)
  | event (transport : ℕ) (info : TransportCloseInfo)
  /-- The last sender of the events of a transport is dropped. -/
  | eventsClosed (transport : ℕ)
  | timer

/-- A step beside or of a supervisor. -/
inductive SupervisorAction where
  | input (i : SupervisorInput)
  /-- Other tasks change the shared fields. -/
  | others (core : Core)
  | step (env : Env)

/-- The transport whose `events_rx` a supervisor has got by a step. -/
def SupervisorPc.newEvents : SupervisorPc → SupervisorPc → Option ℕ
  | resumeStore _ _ _ transport, select => some transport
  | setConnected n, _ => some n.transport
  | _, _ => none

/-- A supervisor waits for an input. -/
def SupervisorPc.waits : SupervisorPc → Bool
  | select | sleep _ => true
  | _ => false

namespace SupervisorLoop

/-- `stop_reconnect`, as the supervisor watches it. -/
def signal (s : SupervisorLoop) : Watch Bool :=
  ⟨s.core.control.stopReconnect, s.core.control.stopVersion, s.supervisor.stopSeen, s.dropped⟩

/-- `stop_reconnect` after its owner has done something. -/
def withSignal (s : SupervisorLoop) (w : Watch Bool) : SupervisorLoop :=
  { s with
    core := { s.core with
      control := { s.core.control with stopReconnect := w.value, stopVersion := w.version } }
    dropped := w.dropped }

/-- The state after an input. A closed channel takes no events. -/
def supply (s : SupervisorLoop) : SupervisorInput → Option SupervisorLoop
  | .signal i => (s.signal.receive i).map s.withSignal
  | .event transport info =>
    some (if transport ∈ s.closed then s
      else { s with pending := s.pending ++ [(transport, info)] })
  | .eventsClosed transport => some { s with closed := s.closed ++ [transport] }
  | .timer => some { s with timers := s.timers + 1 }

/-- A step of the supervisor. -/
def advance (options : ConnectionOptions) (s : SupervisorLoop) (env : Env) :
    Option SupervisorLoop :=
  (s.supervisor.step options s.core env).map fun (e, supervisor) =>
    { s with
      core := s.core.applyOp options e.op
      supervisor := supervisor
      receiver := (s.supervisor.pc.newEvents supervisor.pc).getD s.receiver }

/-- `select!`: the branch of `stop_reconnect.changed()`, or that of `events_rx.recv()`. -/
def select (options : ConnectionOptions) (s : SupervisorLoop) (env : Env) : Option SupervisorLoop :=
  if env.stop then
    match s.signal.changed with
    | none => none
    | some (true, _) => s.advance options env
    -- `changed` is an error, and the loop goes on
    | some (false, _) => some s
  else
    match s.pending.find? fun p => p.1 == s.receiver with
    | some (_, info) =>
      advance options { s with pending := s.pending.eraseP fun p => p.1 == s.receiver }
        { env with event := some info }
    | none =>
      if s.receiver ∈ s.closed then s.advance options { env with event := none } else none

/-- The state after a step. -/
def next (options : ConnectionOptions) (s : SupervisorLoop) :
    SupervisorAction → Option SupervisorLoop
  | .input i => s.supply i
  | .others core => some ({ s with core := core }.withSignal s.signal)
  | .step env =>
    match s.supervisor.pc with
    | .select => s.select options env
    | .sleep _ =>
      if s.timers = 0 then none else advance options { s with timers := s.timers - 1 } env
    | _ => s.advance options env

/-- How many inputs the supervisor has not used yet. -/
def unused (s : SupervisorLoop) : ℕ := s.signal.unread + s.pending.length + s.timers

/-- A supervisor that was just spawned. -/
def spawned (core : Core) (connection receiver : ℕ) : SupervisorLoop where
  core := core
  supervisor := ⟨.select, connection, core.control.stopVersion, false, [], []⟩
  dropped := false
  receiver := receiver
  pending := []
  closed := []
  timers := 0

/-- The loop of a supervisor. -/
def loop (options : ConnectionOptions) (core : Core) (connection receiver : ℕ) :
    StopLoop SupervisorLoop SupervisorAction SupervisorInput where
  system := ⟨spawned core connection receiver, next options⟩
  input
    | .input i => some i
    | _ => none
  passes
    | s, .step _ => s.supervisor.pc.waits
    | _, _ => false
  left s := s.supervisor.pc.hasEnded
  unused := unused
  signal := signal
  signalInput
    | .signal i => some i
    | _ => none
  fresh s := s.supervisor.pc = .select

end SupervisorLoop

/-! ## Steps -/

namespace Supervisor

variable {options : ConnectionOptions} {c : Core} {env : Env} {s s' : Supervisor} {e : Effect}

/-- Only the branch of `stop_reconnect` sees the signal, and no step changes it. -/
lemma signal_of_step (h : s.pc ≠ .select ∨ env.stop = false)
    (hstep : s.step options c env = some (e, s')) :
    (e.op.onControl c.control).stopReconnect = c.control.stopReconnect ∧
      (e.op.onControl c.control).stopVersion = c.control.stopVersion ∧
      s'.stopSeen = s.stopSeen := by
  unfold step at hstep
  split at hstep
  case h_1 hpc =>
    have hstop : env.stop = false := h.resolve_left fun hne => hne hpc
    rw [hstop] at hstep
    cases hevent : env.event with
    | none =>
      rw [hevent] at hstep
      cases hstep
      exact ⟨rfl, rfl, rfl⟩
    | some info =>
      rw [hevent] at hstep
      cases hstep
      exact ⟨rfl, rfl, rfl⟩
  all_goals
    repeat' split at hstep
    all_goals cases hstep
    all_goals first
      | exact ⟨rfl, rfl, rfl⟩
      | (refine ⟨?_, ?_, ?_⟩ <;> simp [Op.onControl, Control.invokeClosed, apply_ite])

/-- The branch of `stop_reconnect` sees the signal, and ends the supervisor when it is to stop. -/
lemma select_of_stop (hpc : s.pc = .select) (hstop : env.stop = true)
    (hstep : s.step options c env = some (e, s')) :
    e = .skip c ∧ s' = { s with
      stopSeen := c.control.stopVersion
      pc := if c.control.stopReconnect then .ended else .select } := by
  obtain ⟨pc, connection, stopSeen, aborted, cancelled, finished⟩ := s
  dsimp only at hpc
  subst hpc
  simp only [step, hstop, if_true] at hstep
  split at hstep
  · cases hstep
  · cases hstep
    exact ⟨rfl, rfl⟩

end Supervisor

namespace SupervisorLoop

variable {options : ConnectionOptions} {env : Env} {s s' : SupervisorLoop}

/-- What a step of the supervisor leaves alone. -/
lemma advance_frame (h : s.supervisor.pc ≠ .select ∨ env.stop = false)
    (hstep : s.advance options env = some s') :
    s'.signal = s.signal ∧ s'.pending = s.pending ∧ s'.timers = s.timers := by
  obtain ⟨⟨e, supervisor⟩, hsupervisor, rfl⟩ := Option.map_eq_some_iff.mp hstep
  obtain ⟨hvalue, hversion, hseen⟩ := Supervisor.signal_of_step h hsupervisor
  refine ⟨?_, rfl, rfl⟩
  simp only [signal, Core.applyOp_control, hvalue, hversion, hseen]

/-- The branches of `select!`. -/
lemma select_cases (hpc : s.supervisor.pc = .select) (hstep : s.select options env = some s') :
    (s.signal.seen ≠ s.signal.version ∧ s'.signal = s.signal.see ∧ s'.pending = s.pending ∧
      s'.timers = s.timers ∧
      s'.supervisor.pc = if s.signal.value then .ended else .select) ∨
    (s.signal.dropped = true ∧ s.signal.seen = s.signal.version ∧ s' = s) ∨
    (s'.signal = s.signal ∧ s'.pending.length < s.pending.length ∧ s'.timers = s.timers) ∨
    (s'.signal = s.signal ∧ s'.pending = s.pending ∧ s'.timers = s.timers ∧
      s'.supervisor.pc = .ended) := by
  rw [select] at hstep
  cases hstop : env.stop with
  | true =>
    simp only [hstop, if_true] at hstep
    cases hchanged : s.signal.changed with
    | none => simp [hchanged] at hstep
    | some p =>
      obtain ⟨ok, w⟩ := p
      rw [hchanged] at hstep
      rcases Watch.changed_cases hchanged with ⟨hseen, rfl, rfl⟩ | ⟨hseen, hdropped, rfl, rfl⟩
      · left
        obtain ⟨⟨e, supervisor⟩, hsupervisor, rfl⟩ := Option.map_eq_some_iff.mp hstep
        obtain ⟨rfl, rfl⟩ := Supervisor.select_of_stop hpc hstop hsupervisor
        exact ⟨hseen, rfl, rfl, rfl, rfl⟩
      · right
        left
        exact ⟨hdropped, hseen, (Option.some.inj hstep).symm⟩
  | false =>
    rw [hstop, if_neg Bool.false_ne_true] at hstep
    cases hfind : s.pending.find? fun p => p.1 == s.receiver with
    | some p =>
      right
      right
      left
      obtain ⟨transport, info⟩ := p
      rw [hfind] at hstep
      dsimp only at hstep
      obtain ⟨hsignal, hpending, htimers⟩ := advance_frame (.inr rfl) hstep
      refine ⟨hsignal, ?_, htimers⟩
      have hmem := List.mem_of_find?_eq_some hfind
      have hlength := List.length_eraseP_of_mem hmem (List.find?_some hfind)
      have hpos := List.length_pos_of_mem hmem
      rw [hpending, hlength]
      omega
    | none =>
      right
      right
      right
      rw [hfind] at hstep
      dsimp only at hstep
      split at hstep
      · obtain ⟨hsignal, hpending, htimers⟩ := advance_frame (.inr rfl) hstep
        refine ⟨hsignal, hpending, htimers, ?_⟩
        obtain ⟨⟨e, supervisor⟩, hsupervisor, rfl⟩ := Option.map_eq_some_iff.mp hstep
        simp only [Supervisor.step, hpc] at hsupervisor
        cases hsupervisor
        rfl
      · cases hstep

/-- The signal of the supervisor after what its owner has done. -/
lemma signal_withSignal {i : WatchInput Bool} {w : Watch Bool} (h : s.signal.receive i = some w) :
    (s.withSignal w).signal = w := by
  obtain ⟨-, ⟨b, -, rfl⟩ | ⟨-, rfl⟩⟩ := Watch.receive_cases h <;> rfl

/-- One input is one more that is not used yet. -/
lemma supply_cases {i : SupervisorInput} (h : s.supply i = some s') :
    s'.supervisor.pc = s.supervisor.pc ∧ s'.unused ≤ s.unused + 1 := by
  simp only [unused]
  cases i with
  | signal j =>
    obtain ⟨w, -, rfl⟩ := Option.map_eq_some_iff.mp h
    refine ⟨rfl, ?_⟩
    have hunread := (s.withSignal w).signal.unread_le
    simp only [withSignal] at hunread ⊢
    omega
  | event transport info =>
    cases h
    split
    · exact ⟨rfl, Nat.le_succ _⟩
    · refine ⟨rfl, ?_⟩
      simp only [signal, List.length_append, List.length_singleton]
      omega
  | eventsClosed transport =>
    cases h
    exact ⟨rfl, Nat.le_succ _⟩
  | timer =>
    cases h
    exact ⟨rfl, le_rfl⟩

/-- The signal is changed by its inputs. -/
lemma signal_of_supply {core : Core} {connection receiver : ℕ} {i : SupervisorInput}
    (h : s.supply i = some s') :
    match (loop options core connection receiver).signalInput i with
    | some j => s.signal.receive j = some s'.signal
    | none => s'.signal = s.signal := by
  cases i with
  | signal j =>
    obtain ⟨w, hw, rfl⟩ := Option.map_eq_some_iff.mp h
    exact hw.trans (congrArg some (signal_withSignal hw).symm)
  | event transport info =>
    cases h
    change signal (if transport ∈ s.closed then s else _) = s.signal
    split <;> rfl
  | eventsClosed transport =>
    cases h
    rfl
  | timer =>
    cases h
    rfl

/-- An input comes unless it is one of an owner that is gone. -/
lemma exists_supply {i : SupervisorInput}
    (hthere : ∀ j, i = .signal j → s.signal.dropped = false) : ∃ s', s.supply i = some s' := by
  cases i with
  | signal j =>
    obtain ⟨w, hw⟩ := Watch.exists_receive (hthere j rfl) j
    exact ⟨s.withSignal w, by rw [supply, hw, Option.map_some]⟩
  | event transport info => exact ⟨_, rfl⟩
  | eventsClosed transport => exact ⟨_, rfl⟩
  | timer => exact ⟨_, rfl⟩

/-- A supervisor that has ended takes no step. -/
lemma hasEnded_of_advance (h : s.advance options env = some s') :
    s.supervisor.pc.hasEnded = false := by
  cases hpc : s.supervisor.pc with
  | ended => simp [advance, Supervisor.step, hpc] at h
  | _ => rfl

/-- A step of the supervisor uses an input up where it waits, unless it ends the supervisor or finds
that the owner of the signal is gone. -/
lemma step_cases (h : s.next options (.step env) = some s') :
    s.supervisor.pc.hasEnded = false ∧
      (s'.signal = s.signal ∨ s.signal.seen ≠ s.signal.version ∧ s'.signal = s.signal.see ∧
        (s.signal.value = true → s'.supervisor.pc.hasEnded = true)) ∧
      s'.unused ≤ s.unused ∧ (s.supervisor.pc.waits = true →
        s'.supervisor.pc.hasEnded = true ∨ s'.unused < s.unused ∨
          s.signal.dropped = true ∧ s.signal.seen = s.signal.version) := by
  simp only [next] at h
  split at h
  case h_1 hpc =>
    refine ⟨by rw [hpc]; rfl, ?_⟩
    rcases select_cases hpc h with ⟨hseen, hsignal, hpending, htimers, hpc'⟩ |
      ⟨hdropped, hseen, rfl⟩ | ⟨hsignal, hpending, htimers⟩ | ⟨hsignal, hpending, htimers, hpc'⟩
    · have hunread : s.signal.unread = 1 := if_neg hseen
      have hlt : s'.unused < s.unused := by
        rw [unused, unused, hsignal, hpending, htimers, Watch.unread_see, hunread]
        omega
      refine ⟨.inr ⟨hseen, hsignal, fun hvalue => ?_⟩, hlt.le, fun _ => .inr (.inl hlt)⟩
      rw [hpc', hvalue]
      rfl
    · exact ⟨.inl rfl, le_rfl, fun _ => .inr (.inr ⟨hdropped, hseen⟩)⟩
    · have hlt : s'.unused < s.unused := by
        rw [unused, unused, hsignal, htimers]
        omega
      exact ⟨.inl hsignal, hlt.le, fun _ => .inr (.inl hlt)⟩
    · refine ⟨.inl hsignal, ?_, fun _ => .inl (by rw [hpc']; rfl)⟩
      rw [unused, unused, hsignal, hpending, htimers]
  case h_2 retry hpc =>
    refine ⟨by rw [hpc]; rfl, ?_⟩
    split at h
    · cases h
    · rename_i hzero
      have hne : s.supervisor.pc ≠ .select := by
        rw [hpc]
        simp
      have hframe := advance_frame (s := { s with timers := s.timers - 1 }) (.inl hne) h
      obtain ⟨hsignal, hpending, htimers⟩ := hframe
      have hlt : s'.unused < s.unused := by
        rw [unused, unused, hsignal, hpending, htimers]
        change s.signal.unread + s.pending.length + (s.timers - 1) <
          s.signal.unread + s.pending.length + s.timers
        omega
      exact ⟨.inl hsignal, hlt.le, fun _ => .inr (.inl hlt)⟩
  case h_3 hselect hsleep =>
    obtain ⟨hsignal, hpending, htimers⟩ := advance_frame (.inl hselect) h
    refine ⟨hasEnded_of_advance h, .inl hsignal, ?_, fun hwaits => ?_⟩
    · rw [unused, unused, hsignal, hpending, htimers]
    · exfalso
      cases hpc : s.supervisor.pc with
      | select => exact hselect hpc
      | sleep retry => exact hsleep retry hpc
      | _ =>
        rw [hpc] at hwaits
        cases hwaits

/-- A supervisor sees a change that is not to stop, and goes on. -/
lemma exists_step_of_change (hpc : s.supervisor.pc = .select)
    (hseen : s.signal.seen ≠ s.signal.version) (hvalue : s.signal.value = false) :
    ∃ t, s.next options (.step { stop := true }) = some t ∧ t.supervisor.pc = .select ∧
      t.signal = s.signal.see := by
  have hchanged : s.signal.changed = some (true, s.signal.see) := if_pos hseen
  have hne : ¬ s.supervisor.stopSeen = s.core.control.stopVersion := hseen
  have hfalse : s.core.control.stopReconnect = false := hvalue
  simp only [next, hpc, select, if_true, hchanged, advance, Supervisor.step, if_neg hne, hfalse,
    Option.map_some]
  exact ⟨_, rfl, rfl, by simp [signal, Watch.see, Effect.skip, Op.onControl, hfalse]⟩

/-- A supervisor whose signal has lost its owner passes its loop without getting anywhere. -/
lemma cycle_of_seen {core : Core} {connection receiver : ℕ} (hpc : s.supervisor.pc = .select)
    (hdropped : s.signal.dropped = true) (hseen : s.signal.seen = s.signal.version) :
    let L := loop options core connection receiver
    L.system.runFrom s [.step { stop := true }] = some s ∧ L.inputs [.step { stop := true }] = [] ∧
      0 < L.passages s [.step { stop := true }] := by
  have hchanged : s.signal.changed = some (false, s.signal) := by
    rw [Watch.changed, if_neg (not_not.mpr hseen), if_pos hdropped]
  have hnext : s.next options (.step { stop := true }) = some s := by
    simp only [next, hpc, select, if_true, hchanged]
  refine ⟨?_, rfl, ?_⟩
  · change (s.next options (.step { stop := true })).bind some = some s
    rw [hnext, Option.bind_some]
  · rw [InputLoop.passages_singleton]
    change 0 < s.supervisor.pc.waits.toNat
    rw [hpc]
    exact Nat.one_pos

/-- A supervisor that waits without an owner of its signal, and without a change to stop, comes to
pass its loop without getting anywhere. -/
lemma exists_cycle {core : Core} {connection receiver : ℕ} (hpc : s.supervisor.pc = .select)
    (hdropped : s.signal.dropped = true)
    (hvalue : s.signal.value = false ∨ s.signal.seen = s.signal.version) :
    let L := loop options core connection receiver
    ∃ as t cycle, L.system.runFrom s as = some t ∧ L.inputs as = [] ∧
      L.system.runFrom t cycle = some t ∧ L.inputs cycle = [] ∧ 0 < L.passages t cycle := by
  intro L
  rcases eq_or_ne s.signal.seen s.signal.version with hseen | hseen
  · exact ⟨[], s, [.step { stop := true }], rfl, rfl, cycle_of_seen hpc hdropped hseen⟩
  · have hfalse : s.signal.value = false := hvalue.resolve_right hseen
    obtain ⟨t, hstep, hpc', hsignal⟩ := exists_step_of_change hpc hseen hfalse
    refine ⟨[.step { stop := true }], t, [.step { stop := true }], ?_, rfl,
      cycle_of_seen hpc' (by rw [hsignal]; exact hdropped) (by rw [hsignal]; rfl)⟩
    change (s.next options (.step { stop := true })).bind some = some t
    rw [hstep, Option.bind_some]

/-- **The loop of a supervisor** is one with a stop signal. -/
theorem lawful (options : ConnectionOptions) (core : Core) (connection receiver : ℕ) :
    (loop options core connection receiver).Lawful where
  supply {s s' a} h := by
    cases a with
    | input i => exact (supply_cases h).2
    | others core' =>
      cases h
      exact le_rfl
    | step env => exact (step_cases h).2.2.1
  passes {s a} h := by
    cases a with
    | step env =>
      refine ⟨rfl, ?_⟩
      change s.supervisor.pc.waits = true at h
      change s.supervisor.pc.hasEnded = false
      cases hpc : s.supervisor.pc with
      | ended =>
        rw [hpc] at h
        cases h
      | _ => rfl
    | _ => cases h
  leaves {s s' a} h hleft := by
    change s.supervisor.pc.hasEnded = true at hleft
    cases a with
    | input i =>
      change s'.supervisor.pc.hasEnded = true
      rw [(supply_cases h).1, hleft]
    | others core' =>
      cases h
      exact hleft
    | step env =>
      rw [(step_cases h).1] at hleft
      cases hleft
  init_seen := rfl
  init_dropped := rfl
  init_fresh := rfl
  input {s s' a i} h hi := by
    cases a with
    | input i' =>
      obtain rfl : i' = i := Option.some.inj hi
      exact signal_of_supply h
    | _ => cases hi
  step {s s' a} h hi := by
    cases a with
    | input i => cases hi
    | others core' =>
      cases h
      exact .inl rfl
    | step env => exact (step_cases h).2.1
  passage {s s' a} h hpass := by
    cases a with
    | step env => exact (step_cases h).2.2.2 hpass
    | _ => cases hpass
  supplied {s} i hfresh hthere := by
    obtain ⟨s', hs'⟩ := exists_supply (s := s) (i := i) fun j hj => hthere j (by rw [hj]; rfl)
    exact ⟨.input i, s', rfl, hs', (supply_cases hs').1.trans hfresh⟩
  cycles {s} hfresh hdropped hvalue := exists_cycle hfresh hdropped (hvalue.imp_right And.left)

end SupervisorLoop

end Signalrr.HubConnection
