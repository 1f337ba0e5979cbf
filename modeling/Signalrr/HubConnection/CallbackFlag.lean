import Signalrr.HubConnection.CleanEnd
import Signalrr.HubConnection.StaysClosed

set_option relaxedAutoImplicit false
set_option autoImplicit false

/-!
# The flag of the closed callbacks

`LifecycleCallbacks` in `src/hub_connection/callbacks.rs` has one flag for all sessions: `start`
sets it, and the first `invoke_closed` after that takes it and runs the callbacks. While the flag is
set, a connection that has ended has a task that is about to take it, as long as sessions do not
overlap.

## Main definitions

* `Signalrr.HubConnection.World.invokesClosed`, `World.marks` — a task is about to invoke the closed
  callbacks, and a step sets the flag.
* `Signalrr.HubConnection.World.overlaps` — a `start` marks its session although a task of an
  earlier one is still at work.
* `Signalrr.HubConnection.World.Covered` — the flag is not set, or a task will take it.
* `Signalrr.HubConnection.World.SessionInvariant` — where the flag is covered.

## Main results

* `Signalrr.HubConnection.World.Step.rounds` — the flag and the callbacks after a step.
* `Signalrr.HubConnection.World.SessionInvariant.step` — steps of sessions that do not overlap keep
  the invariant.
* `Signalrr.HubConnection.World.SessionInvariant.flag_of_marks`,
  `World.SessionInvariant.flag_of_idle` — the flag has been taken when the next session is marked,
  and when nothing is at work after the end.
-/

namespace Signalrr.HubConnection

open Hub

/-! ## Places -/

/-- A shutdown will invoke the closed callbacks. -/
def ShutdownPc.willInvoke : ShutdownPc → Bool
  | notify | returned _ => false
  | _ => true

/-- A supervisor is about to invoke the closed callbacks. -/
def SupervisorPc.invokes : SupervisorPc → Bool
  | invokeClosed _ => true
  | _ => false

/-- The supervisor has ended, or is aborted and suspended. -/
def Supervisor.stopped (s : Supervisor) : Bool := s.pc.hasEnded || (s.aborted && !s.pc.mayRun)

/-- A `start` is about to mark its session as started. -/
def StartPc.marks : StartPc → Bool
  | markStarted _ => true
  | _ => false

/-- A `start` has read the state, has not marked its session, and does not shut the connection
down. -/
def StartPc.underWay : StartPc → Bool
  | readState | shutdown _ | abortSupervisor _ | spawn _ | storeSupervisor _ | unlock _
  | returned _ => false
  | _ => true

/-- A `start` has marked its session and has not spawned its supervisor. -/
def StartPc.spawning : StartPc → Bool
  | abortSupervisor _ | spawn _ => true
  | _ => false

/-- A `start` has marked its session. -/
def StartPc.marked : StartPc → Bool
  | abortSupervisor _ | spawn _ | storeSupervisor _ | unlock (.ok ()) | returned (.ok ()) => true
  | _ => false

/-! ## Steps of the tasks -/

/-- Neither the flag nor the rounds of closed callbacks have changed. -/
def Control.SameRounds (c c' : Control) : Prop :=
  c'.connectionStarted = c.connectionStarted ∧ c'.closedCallbacks = c.closedCallbacks

section Tasks

variable {options : ConnectionOptions} {c : Core} {env : Env} {e : Effect} {receivers : Bool}
  {i n : ℕ}

/-- A shutdown invokes the callbacks in one step. -/
lemma ShutdownPc.rounds_of_step {s s' : ShutdownPc} (h : s.step options c env = some (e, s')) :
    (s = invokeClosed ∧ e.op.onControl c.control = c.control.invokeClosed none) ∨
      s ≠ invokeClosed ∧ c.control.SameRounds (e.op.onControl c.control) := by
  cases s with
  | invokeClosed =>
    cases h
    exact .inl ⟨rfl, rfl⟩
  | returned => cases h
  | _ =>
    cases h
    exact .inr ⟨fun hs => (by cases hs), rfl, rfl⟩

/-- `close` invokes the callbacks in its shutdown. -/
lemma ClosePc.rounds_of_step {pc pc' : ClosePc}
    (h : pc.step options c receivers i env = some (e, pc')) :
    (pc.shutdown? = some .invokeClosed ∧ e.op.onControl c.control = c.control.invokeClosed none) ∨
      pc.shutdown? ≠ some .invokeClosed ∧ c.control.SameRounds (e.op.onControl c.control) := by
  cases pc with
  | shutdown s =>
    by_cases hs : ∃ result, s = .returned result
    · obtain ⟨result, rfl⟩ := hs
      cases h
      exact .inr ⟨fun hs => (by cases hs), rfl, rfl⟩
    · obtain ⟨s', hr, -⟩ := step_of_shutdown? h rfl fun result hr => hs ⟨result, hr⟩
      refine (ShutdownPc.rounds_of_step hr).imp (And.imp_left (congrArg some)) ?_
      exact And.imp_left fun hne hs => hne (Option.some.inj hs)
  | sendStop =>
    cases h
    refine .inr ⟨fun hs => (by cases hs), ?_⟩
    simp only [Effect.control, Op.onControl, Control.sendStop]
    split <;> exact ⟨rfl, rfl⟩
  | lock =>
    simp only [step] at h
    split at h <;> cases h
    exact .inr ⟨fun hs => (by cases hs), rfl, rfl⟩
  | waiting | returned => cases h
  | _ =>
    cases h
    exact .inr ⟨fun hs => (by cases hs), rfl, rfl⟩

/-- `start` marks its session in one step, and invokes the callbacks in its shutdown. -/
lemma StartPc.rounds_of_step {pc pc' : StartPc}
    (h : pc.step options c receivers n i env = some (e, pc')) :
    (pc.shutdown? = some .invokeClosed ∧ e.op.onControl c.control = c.control.invokeClosed none) ∨
      (pc.marks = true ∧ e.op.onControl c.control = { c.control with connectionStarted := true }) ∨
      pc.shutdown? ≠ some .invokeClosed ∧ pc.marks = false ∧
        c.control.SameRounds (e.op.onControl c.control) := by
  cases pc with
  | shutdown s =>
    by_cases hs : ∃ result, s = .returned result
    · obtain ⟨result, rfl⟩ := hs
      cases h
      exact .inr (.inr ⟨fun hs => (by cases hs), rfl, rfl, rfl⟩)
    · obtain ⟨s', hr, -⟩ := step_of_shutdown? h rfl fun result hr => hs ⟨result, hr⟩
      rcases ShutdownPc.rounds_of_step hr with ⟨rfl, hc⟩ | ⟨hne, hsame⟩
      · exact .inl ⟨rfl, hc⟩
      · exact .inr (.inr ⟨fun hs => hne (Option.some.inj hs), rfl, hsame⟩)
  | markStarted m =>
    cases h
    exact .inr (.inl ⟨rfl, rfl⟩)
  | sendStop =>
    cases h
    refine .inr (.inr ⟨fun hs => (by cases hs), rfl, ?_⟩)
    simp only [Effect.control, Op.onControl, Control.sendStop]
    split <;> exact ⟨rfl, rfl⟩
  | _ =>
    simp only [step] at h
    repeat' split at h
    all_goals cases h
    all_goals exact .inr (.inr ⟨fun hs => (by cases hs), rfl, rfl, rfl⟩)

/-- A supervisor invokes the callbacks in one step. -/
lemma Supervisor.rounds_of_step {s s' : Supervisor} (h : s.step options c env = some (e, s')) :
    (s.pc.invokes = true ∧ ∃ reason, e.op.onControl c.control = c.control.invokeClosed reason) ∨
      s.pc.invokes = false ∧ c.control.SameRounds (e.op.onControl c.control) := by
  unfold step at h
  split at h
  all_goals
    rename_i hpc
    rw [hpc]
    repeat' split at h
    all_goals cases h
    all_goals first
      | exact .inl ⟨rfl, _, rfl⟩
      | exact .inr ⟨rfl, rfl, rfl⟩

/-- The places before the callbacks are invoked, by their stages. -/
lemma ShutdownPc.willInvoke_eq (s : ShutdownPc) : s.willInvoke = decide (s.stage < 12) := by
  cases s <;> rfl

/-- A shutdown goes on until it has invoked the callbacks or its sink fails. -/
lemma ShutdownPc.willInvoke_of_step {s s' : ShutdownPc} (h : s.step options c env = some (e, s'))
    (hs : s.willInvoke = true) : s'.willInvoke = true ∨ s = invokeClosed ∨
      ∃ rt, s = closeRuntime rt ∧ (c.shutdown options rt env.write env.outcome).2.isOk = false := by
  rw [willInvoke_eq, decide_eq_true_eq] at hs ⊢
  rcases stage_lt_of_step h (by omega) hs with hlt | heq | hsink
  · exact .inl hlt
  · right
    left
    cases s <;> simp [stage] at heq ⊢
  · exact .inr (.inr hsink)

/-- A shutdown gets to the callbacks by setting the state. -/
lemma ShutdownPc.setDisconnected_of_step {s : ShutdownPc}
    (h : s.step options c env = some (e, invokeClosed)) : s = setDisconnected := by
  rcases stage_of_step h with heq | ⟨-, hs⟩ | ⟨rt, rfl, -⟩
  · cases s <;> simp [stage] at heq ⊢
  · cases hs
  · simp only [step, Option.some.injEq, Prod.mk.injEq] at h
    cases hr : (c.shutdown options rt env.write env.outcome).2 <;> simp [hr] at h

/-- A supervisor gets to the callbacks by setting the state. -/
lemma Supervisor.ends_of_step {s s' : Supervisor} (h : s.step options c env = some (e, s'))
    (hs' : s'.pc.invokes = true) : s.pc.ends = true := by
  unfold step at h
  split at h
  all_goals
    rename_i hpc
    rw [hpc]
    repeat' split at h
    all_goals cases h
    all_goals first
      | rfl
      | cases hs'
      | (dsimp only [afterCancel] at hs'; split at hs' <;> cases hs')

/-- A supervisor that has set the state gets to the callbacks. -/
lemma Supervisor.invokes_of_step {s s' : Supervisor} (h : s.step options c env = some (e, s'))
    (hs : s.pc.ends = true) : s'.pc.invokes = true := by
  cases hpc : s.pc with
  | setDisconnected reason | giveUp reason =>
    simp only [step, hpc, Option.some.injEq, Prod.mk.injEq] at h
    obtain ⟨-, rfl⟩ := h
    rfl
  | _ =>
    rw [hpc] at hs
    cases hs

/-- A `start` that is under way is at work. -/
lemma StartPc.idle_of_underWay {pc : StartPc} (h : pc.underWay = true) : pc.idle = false := by
  cases pc <;> first | rfl | cases h

/-- A `start` that is on its way to mark its session has read `Disconnected`. -/
lemma StartPc.underWay_of_step {pc pc' : StartPc}
    (h : pc.step options c receivers n i env = some (e, pc')) (hpc' : pc'.underWay = true) :
    pc.underWay = true ∨ c.control.state = .disconnected := by
  cases pc with
  | readState =>
    cases h
    split at hpc'
    · rename_i hd
      exact .inr hd
    · cases hpc'
  | shutdown s =>
    rcases step_shutdown h with ⟨-, result, rfl⟩ | ⟨s', -, rfl⟩ <;> cases hpc'
  | abortSupervisor | spawn | storeSupervisor | unlock =>
    cases h
    cases hpc'
  | returned => cases h
  | _ => exact .inl rfl

/-- A `start` spawns after it has marked its session. -/
lemma StartPc.spawning_of_step {pc pc' : StartPc}
    (h : pc.step options c receivers n i env = some (e, pc')) (hpc' : pc'.spawning = true) :
    pc.marks = true ∨ pc.spawning = true := by
  cases pc with
  | shutdown s =>
    rcases step_shutdown h with ⟨-, result, rfl⟩ | ⟨s', -, rfl⟩ <;> cases hpc'
  | markStarted => exact .inl rfl
  | abortSupervisor | spawn => exact .inr rfl
  | _ =>
    simp only [step] at h
    repeat' split at h
    all_goals cases h
    all_goals cases hpc'

/-- A `start` returns `Ok` after it has marked its session. -/
lemma StartPc.marked_of_step {pc pc' : StartPc}
    (h : pc.step options c receivers n i env = some (e, pc')) (hpc' : pc'.marked = true) :
    pc.marks = true ∨ pc.marked = true := by
  cases pc with
  | shutdown s =>
    cases s with
    | returned result =>
      cases h
      split at hpc' <;> cases hpc'
    | _ =>
      obtain ⟨s', -, rfl⟩ := step_of_shutdown? h rfl fun result hr => by cases hr
      cases hpc'
  | markStarted => exact .inl rfl
  | abortSupervisor | spawn | storeSupervisor => exact .inr rfl
  | unlock result =>
    cases h
    cases result with
    | ok u => exact .inr rfl
    | error error => cases hpc'
  | _ =>
    simp only [step] at h
    repeat' split at h
    all_goals cases h
    all_goals cases hpc'

end Tasks

namespace World

/-! ## Sessions -/

/-- A task that ends connections. -/
inductive Closer where
  | task (t : Task)
  | supervisor (k : ℕ)
  deriving DecidableEq, Repr

/-- The task that takes the step. -/
def Action.closer? : Action → Option Closer
  | .start i _ => some (.task (.start i))
  | .close i _ => some (.task (.close i))
  | .supervisor k _ => some (.supervisor k)
  | _ => none

/-- The task is about to set the state to `Disconnected`, and then to invoke the closed
callbacks. -/
def setsDisconnected (w : World) : Closer → Bool
  | .task t => match w.shutdownPc t with
    | some .setDisconnected => true
    | _ => false
  | .supervisor k => (w.supervisors[k]?.map fun s => s.pc.ends).getD false

/-- The task is about to invoke the closed callbacks. -/
def invokesClosed (w : World) : Closer → Bool
  | .task t => match w.shutdownPc t with
    | some .invokeClosed => true
    | _ => false
  | .supervisor k => (w.supervisors[k]?.map fun s => s.pc.invokes).getD false

/-- The step marks a session as started. -/
def marks (w : World) : Action → Bool
  | .start i _ => (w.starts[i]?.map StartPc.marks).getD false
  | _ => false

/-- A `start` marks its session although a supervisor of an earlier one may still run, another
`start` is under way, or the connection has already ended. -/
def overlaps (w : World) : Action → Bool
  | .start i env =>
    w.marks (.start i env) && !(w.supervisors.all Supervisor.stopped &&
      (w.starts.eraseIdx i).all StartPc.idle && decide (w.core.control.state ≠ .disconnected))
  | _ => false

/-- The condition on a step: sessions do not overlap. That sinks close is what the property is
stated under. -/
def SessionsApart (options : ConnectionOptions) (w : World) (a : Action) : Prop :=
  w.SinksClose options a ∧ w.overlaps a = false

instance (options : ConnectionOptions) (w : World) (a : Action) :
    Decidable (w.SessionsApart options a) :=
  inferInstanceAs (Decidable (w.SinksClose options a ∧ w.overlaps a = false))

variable {options : ConnectionOptions} {w w' : World} {a : Action}

/-- What the condition says when a session is marked. -/
lemma SessionsApart.marks (h : w.SessionsApart options a) (ha : w.marks a = true) :
    (∀ s ∈ w.supervisors, s.stopped = true) ∧ w.core.control.state ≠ .disconnected ∧
      ∃ i env, a = .start i env ∧
        ∀ (j : ℕ) (pc : StartPc), j ≠ i → w.starts[j]? = some pc → pc.idle = true := by
  cases a with
  | start i env =>
    have hov := h.2
    simp only [overlaps, ha, Bool.true_and, Bool.not_eq_false', Bool.and_eq_true, List.all_eq_true,
      decide_eq_true_eq] at hov
    refine ⟨hov.1.1, hov.2, i, env, rfl, fun j pc hj hpc => hov.1.2 pc ?_⟩
    exact List.mem_eraseIdx_iff_getElem?.mpr ⟨j, hj, hpc⟩
  | _ => cases ha

/-! ## The flag -/

/-- **The rounds after a step**: the step runs the callbacks if the flag is set, or it marks a
session, or it does neither. -/
lemma Step.rounds (h : Step options w a w') :
    (∃ x reason, Action.closer? a = some x ∧ w.invokesClosed x = true ∧ w.marks a = false ∧
        w'.core.control = w.core.control.invokeClosed reason) ∨
      (∀ x, Action.closer? a = some x → w.invokesClosed x = false) ∧
        (w.marks a = true ∧ w'.core.control = { w.core.control with connectionStarted := true } ∨
          w.marks a = false ∧ w.core.control.SameRounds w'.core.control) := by
  cases h with
  | newStart | newClose | supervisorEnds =>
    exact .inr ⟨fun x hx => (by cases hx), .inr ⟨rfl, rfl, rfl⟩⟩
  | core ha hr =>
    have hsame := sameLifecycle_of_next (ne_op_of_coreEnabled ha) hr
    refine .inr ⟨fun x hx => (by cases hx), .inr ⟨rfl, ?_⟩⟩
    rw [hsame.control]
    exact ⟨rfl, rfl⟩
  | @start i env pc pc' e hi hr =>
    have hc : (w.core.applyOp options e.op).control = e.op.onControl w.core.control :=
      Core.applyOp_control options w.core e.op
    have hm : w.marks (.start i env) = pc.marks := by simp [marks, hi]
    have hsh : w.shutdownPc (.start i) = pc.shutdown? := by simp [World.shutdownPc, hi]
    rcases StartPc.rounds_of_step hr with ⟨hpc, hinv⟩ | ⟨hpc, hmark⟩ | ⟨hne, hpc, hsame⟩
    · refine .inl ⟨_, none, rfl, ?_, ?_, hc.trans hinv⟩
      · simp [invokesClosed, hsh, hpc]
      · rw [hm]
        cases pc <;> first | rfl | cases hpc
    · refine .inr ⟨fun x hx => ?_, .inl ⟨hm.trans hpc, hc.trans hmark⟩⟩
      cases hx
      cases pc <;> first | (simp [invokesClosed, hsh, StartPc.shutdown?]; done) | cases hpc
    · refine .inr ⟨fun x hx => ?_, .inr ⟨hm.trans hpc, ?_⟩⟩
      · cases hx
        simp only [invokesClosed, hsh]
      · exact hc ▸ hsame
  | @close i env pc pc' e hi hr =>
    have hc : (w.core.applyOp options e.op).control = e.op.onControl w.core.control :=
      Core.applyOp_control options w.core e.op
    have hsh : w.shutdownPc (.close i) = pc.shutdown? := by simp [World.shutdownPc, hi]
    rcases ClosePc.rounds_of_step hr with ⟨hpc, hinv⟩ | ⟨hne, hsame⟩
    · exact .inl ⟨_, none, rfl, by simp [invokesClosed, hsh, hpc], rfl, hc.trans hinv⟩
    · refine .inr ⟨fun x hx => ?_, .inr ⟨rfl, hc ▸ hsame⟩⟩
      cases hx
      simp only [invokesClosed, hsh]
  | @supervisor k env s s' e hk _ hr =>
    have hc : (w.core.applyOp options e.op).control = e.op.onControl w.core.control :=
      Core.applyOp_control options w.core e.op
    have hinvokes : w.invokesClosed (.supervisor k) = s.pc.invokes := by simp [invokesClosed, hk]
    rcases Supervisor.rounds_of_step hr with ⟨hpc, reason, hinv⟩ | ⟨hpc, hsame⟩
    · exact .inl ⟨_, reason, rfl, hinvokes.trans hpc, rfl, hc.trans hinv⟩
    · refine .inr ⟨fun x hx => ?_, .inr ⟨rfl, hc ▸ hsame⟩⟩
      cases hx
      exact hinvokes.trans hpc

/-! ## Pending rounds -/

/-- A shutdown is under way that will invoke the callbacks. -/
def TaskPending (w : World) : Prop := ∃ t s, w.shutdownPc t = some s ∧ s.willInvoke = true

/-- A supervisor that is not aborted is about to invoke the callbacks. -/
def SupervisorPending (w : World) : Prop :=
  ∃ (k : ℕ) (s : Supervisor), w.supervisors[k]? = some s ∧ s.pc.invokes = true ∧ s.aborted = false

/-- The flag is not set, or a shutdown will take it. -/
def CoveredByTask (w : World) : Prop :=
  w.core.control.connectionStarted = false ∨ w.TaskPending

/-- The flag is not set, or some task will take it. -/
def Covered (w : World) : Prop := w.CoveredByTask ∨ w.SupervisorPending

/-- What steps of sessions that do not overlap preserve. -/
structure SessionInvariant (w : World) : Prop where
  lock : w.LockHeld
  /-- While a `start` spawns its supervisor the others have stopped. -/
  spawning : ∀ (i : ℕ) (pc : StartPc), w.starts[i]? = some pc → pc.spawning = true →
    ∀ s ∈ w.supervisors, s.stopped = true
  /-- A supervisor was aborted by a shutdown, or has stopped. -/
  aborted : ∀ s ∈ w.supervisors, s.aborted = true → s.stopped = true ∨ w.CoveredByTask
  /-- A `start` that is under way has found the connection ended. -/
  underWay : ∀ (i : ℕ) (pc : StartPc), w.starts[i]? = some pc → pc.underWay = true → w.Covered
  disconnected : w.core.control.state = .disconnected → w.Covered

/-- Initially there are no tasks. -/
lemma SessionInvariant.init : SessionInvariant new where
  lock := .init
  spawning := fun i pc hi => by simp [new] at hi
  aborted := fun s hs => by simp [new] at hs
  underWay := fun i pc hi => by simp [new] at hi
  disconnected := fun _ => .inl (.inl rfl)

/-- The flag is set only where a session is marked. -/
lemma flag_of_step (hstep : Step options w a w') (ha : w.marks a = false)
    (hflag : w.core.control.connectionStarted = false) :
    w'.core.control.connectionStarted = false := by
  rcases hstep.rounds with ⟨x, reason, -, -, -, hc⟩ | ⟨-, ⟨hm, -⟩ | ⟨-, hsame⟩⟩
  · rw [hc]
    simp [Control.invokeClosed, hflag]
  · simp [ha] at hm
  · rw [hsame.1, hflag]

/-- The callbacks take the flag. -/
lemma flag_of_invokesClosed {x : Closer} (hstep : Step options w a w')
    (hx : Action.closer? a = some x) (hinv : w.invokesClosed x = true) :
    w'.core.control.connectionStarted = false := by
  rcases hstep.rounds with ⟨y, reason, -, -, -, hc⟩ | ⟨hnone, -⟩
  · rw [hc]
    unfold Control.invokeClosed
    split
    · rfl
    · rename_i hflag
      simpa using hflag
  · simp [hnone x hx] at hinv

/-- The task of a step is one of those that end connections. -/
lemma closer?_of_task? {t : Task} {env : Env} (h : Action.task? a = some (t, env)) :
    Action.closer? a = some (.task t) := by
  cases a <;> cases h <;> rfl

/-- **A shutdown takes the flag**: it goes on until it has. -/
lemma CoveredByTask.step (h : w.CoveredByTask) (hsink : w.SinksClose options a)
    (ha : w.marks a = false) (hstep : Step options w a w') : w'.CoveredByTask := by
  rcases h with hflag | ⟨t, s, ht, hs⟩
  · exact .inl (flag_of_step hstep ha hflag)
  · have hne : ∀ result, s ≠ .returned result := by
      rintro result rfl
      cases hs
    rcases hstep.shutdownPc_next ht hne with hsame | ⟨s', e, env, htask, hr, hs'⟩
    · exact .inr ⟨t, s, hsame, hs⟩
    · rcases ShutdownPc.willInvoke_of_step hr hs with hgo | rfl | ⟨rt, rfl, hfail⟩
      · exact .inr ⟨t, s', hs', hgo⟩
      · refine .inl (flag_of_invokesClosed hstep (closer?_of_task? htask) ?_)
        simp [invokesClosed, ht]
      · rw [hsink.shutdown htask ht] at hfail
        cases hfail

/-- The task that aborts supervisors is in its shutdown, or is a `start` that spawns its own. -/
lemma aborts_cases (h : w.aborts a = true) :
    (∃ t, w.shutdownPc t = some .abortSupervisor) ∨
      ∃ (i : ℕ) (pc : StartPc), w.starts[i]? = some pc ∧ pc.spawning = true := by
  cases a with
  | start i env =>
    cases hi : w.starts[i]? with
    | none => simp [aborts, hi] at h
    | some pc =>
      simp only [aborts, hi, Option.map_some, Option.getD_some] at h
      cases pc with
      | abortSupervisor m => exact .inr ⟨i, _, hi, rfl⟩
      | shutdown s =>
        cases s with
        | abortSupervisor => exact .inl ⟨.start i, by simp [shutdownPc, hi, StartPc.shutdown?]⟩
        | _ => cases h
      | _ => cases h
  | close i env =>
    cases hi : w.closes[i]? with
    | none => simp [aborts, hi] at h
    | some pc =>
      simp only [aborts, hi, Option.map_some, Option.getD_some] at h
      cases pc with
      | shutdown s =>
        cases s with
        | abortSupervisor => exact .inl ⟨.close i, by simp [shutdownPc, hi, ClosePc.shutdown?]⟩
        | _ => cases h
      | _ => cases h
  | _ => cases h

/-- A shutdown at its beginning is pending after any step. -/
lemma taskPending_of_begin {t : Task} (hstep : Step options w a w')
    (ht : w.shutdownPc t = some .abortSupervisor) : w'.TaskPending := by
  have hne : ∀ result, ShutdownPc.abortSupervisor ≠ .returned result := fun _ h => by cases h
  rcases hstep.shutdownPc_next ht hne with hsame | ⟨s', e, env, -, hr, hs'⟩
  · exact ⟨t, _, hsame, rfl⟩
  · cases hr
    exact ⟨t, _, hs', rfl⟩

/-- A supervisor that has stopped is not about to invoke the callbacks. -/
lemma invokes_of_stopped {s : Supervisor} (h : s.stopped = true) : s.pc.invokes = false := by
  cases hpc : s.pc with
  | invokeClosed reason => simp [Supervisor.stopped, hpc, SupervisorPc.hasEnded,
      SupervisorPc.mayRun] at h
  | _ => rfl

/-- A supervisor that has stopped takes no step. -/
lemma not_stopped_of_step {k : ℕ} {s s' : Supervisor} {e : Effect} {env : Env}
    (hs : SupervisorStep options w w' a k s s' e env) : s.stopped = false := by
  by_contra h
  simp only [Supervisor.stopped, Bool.not_eq_false, Bool.or_eq_true, Bool.and_eq_true,
    Bool.not_eq_true'] at h
  rcases h with hend | hsusp
  · have hr := hs.step
    cases hpc : s.pc with
    | ended => simp [Supervisor.step, hpc] at hr
    | _ =>
      rw [hpc] at hend
      cases hend
  · exact hs.running hsusp

/-- **The flag is taken**: a pending round stays pending until the flag is taken.

**Proof sketch.** A supervisor that is about to invoke the callbacks does so, or is aborted. It is
aborted by a shutdown, which will invoke them, since a `start` that spawns its own supervisor finds
the others stopped. -/
lemma Covered.step (h : w.Covered) (hinv : SessionInvariant w) (hsink : w.SinksClose options a)
    (ha : w.marks a = false) (hstep : Step options w a w') : w'.Covered := by
  rcases h with h | ⟨k, s, hk, hs, hsa⟩
  · exact .inl (h.step hsink ha hstep)
  · obtain ⟨s', hk'⟩ := hstep.exists_supervisor hk
    rcases hstep.supervisors hk' with ⟨hsame, -⟩ | ⟨s₀, hs₀, rfl, -, hab⟩ | ⟨s₀, hs₀, hab, -⟩ |
      ⟨s₀, e, env, hst⟩ | ⟨hnone, -⟩
    · exact .inr ⟨k, s, hk'.trans (hsame.symm.trans hk), hs, hsa⟩
    · rcases aborts_cases hab with ⟨t, ht⟩ | ⟨i, pc, hi, hpc⟩
      · exact .inl (.inr (taskPending_of_begin hstep ht))
      · have hstop := hinv.spawning i pc hi hpc s (List.mem_of_getElem? hk)
        simp [invokes_of_stopped hstop] at hs
    · cases hk.symm.trans hs₀
      simp [hsa] at hab
    · cases hk.symm.trans hst.before
      refine .inl (.inl (flag_of_invokesClosed hstep (x := .supervisor k) ?_ ?_))
      · rw [hst.action]
        rfl
      · simp [invokesClosed, hk, hs]
    · rw [hk] at hnone
      cases hnone

/-! ## Steps -/

/-- Supervisors that have all stopped stay so, unless one is spawned. -/
lemma stopped_of_step (hstep : Step options w a w') (h : ∀ s ∈ w.supervisors, s.stopped = true)
    (hspawn : ∀ (i k : ℕ) (m : NewConnection), w.starts[i]? = some (.spawn m) →
      w'.starts[i]? ≠ some (.storeSupervisor k)) :
    ∀ s ∈ w'.supervisors, s.stopped = true := by
  intro s' hs'
  obtain ⟨k, hk⟩ := List.getElem?_of_mem hs'
  rcases hstep.supervisors hk with ⟨hs, -⟩ | ⟨s, hs, rfl, -⟩ | ⟨s, -, -, rfl⟩ | ⟨s, e, env, hst⟩ |
    ⟨-, -, -, i, env, m, -, hi, hi'⟩
  · exact h s' (List.mem_of_getElem? hs)
  · have hstop := h s (List.mem_of_getElem? hs)
    simp only [Supervisor.stopped, Bool.or_eq_true, Bool.and_eq_true] at hstop ⊢
    exact hstop.imp_right fun hsusp => ⟨trivial, hsusp.2⟩
  · rfl
  · have hstop := h s (List.mem_of_getElem? hst.before)
    simp [not_stopped_of_step hst] at hstop
  · exact absurd hi' (hspawn i k m hi)

/-- The supervisors while a `start` spawns its own. -/
lemma SessionInvariant.spawning_step (h : SessionInvariant w) (hok : w.SessionsApart options a)
    (hstep : Step options w a w') {i : ℕ} {pc' : StartPc} (hi : w'.starts[i]? = some pc')
    (hpc' : pc'.spawning = true) : ∀ s ∈ w'.supervisors, s.stopped = true := by
  -- the `start` that spawns holds the lock, so it is this one
  have hspawn : ∀ pc, w.starts[i]? = some pc → pc.locked = true → ∀ (j k : ℕ) (m : NewConnection),
      w.starts[j]? = some (.spawn m) → w'.starts[j]? ≠ some (.storeSupervisor k) := by
    intro pc hpc hl j k m hj hj'
    have hli : w.locked (.start i) = true := by simp [locked, hpc, hl]
    have hlj : w.locked (.start j) = true := by simp [locked, hj, StartPc.locked]
    cases h.lock.eq hli hlj
    cases hi.symm.trans hj'
    cases hpc'
  rcases hstep.starts i with heq | ⟨-, -, hnew⟩ | ⟨pc, pc₁, e, env, hst⟩
  · have hi₀ := heq.symm.trans hi
    have hl : pc'.locked = true := by cases pc' <;> first | rfl | cases hpc'
    exact stopped_of_step hstep (h.spawning i pc' hi₀ hpc') (hspawn pc' hi₀ hl)
  · cases hi.symm.trans hnew
    cases hpc'
  · cases hi.symm.trans hst.after
    rcases StartPc.spawning_of_step hst.step hpc' with hm | hsp
    · have hl : pc.locked = true := by cases pc <;> first | rfl | cases hm
      refine stopped_of_step hstep (hok.marks ?_).1 (hspawn pc hst.before hl)
      simp [marks, hst.action, hst.before, hm]
    · have hl : pc.locked = true := by cases pc <;> first | rfl | cases hsp
      exact stopped_of_step hstep (h.spawning i pc hst.before hsp) (hspawn pc hst.before hl)

/-- Aborted supervisors after a step.

**Proof sketch.** One that is aborted by this step was aborted by a shutdown, since the others have
stopped when a `start` spawns its own. When a session is marked all have stopped. -/
lemma SessionInvariant.aborted_step (h : SessionInvariant w) (hok : w.SessionsApart options a)
    (hstep : Step options w a w') {s' : Supervisor} (hs' : s' ∈ w'.supervisors)
    (ha' : s'.aborted = true) : s'.stopped = true ∨ w'.CoveredByTask := by
  have hcovered : w.CoveredByTask → w.marks a = false → w'.CoveredByTask :=
    fun hc hm => hc.step hok.1 hm hstep
  obtain ⟨k, hk⟩ := List.getElem?_of_mem hs'
  rcases hstep.supervisors hk with ⟨hs, -⟩ | ⟨s, hs, rfl, -, hab⟩ | ⟨s, -, -, rfl⟩ |
    ⟨s, e, env, hst⟩ | ⟨-, -, hnew, -⟩
  · have hmem := List.mem_of_getElem? hs
    cases hm : w.marks a with
    | true => exact .inl ((hok.marks hm).1 s' hmem)
    | false => exact (h.aborted s' hmem ha').imp_right fun hc => hcovered hc hm
  · rcases aborts_cases hab with ⟨t, ht⟩ | ⟨i, pc, hi, hpc⟩
    · exact .inr (.inr (taskPending_of_begin hstep ht))
    · have hstop := h.spawning i pc hi hpc s (List.mem_of_getElem? hs)
      simp only [Supervisor.stopped, Bool.or_eq_true, Bool.and_eq_true] at hstop ⊢
      exact .inl (hstop.imp_right fun hsusp => ⟨trivial, hsusp.2⟩)
  · exact .inl rfl
  · have hsa : s.aborted = true := (Supervisor.step_supervisor hst.step).2 ▸ ha'
    have hm : w.marks a = false := by rw [hst.action]; rfl
    rcases h.aborted s (List.mem_of_getElem? hst.before) hsa with hstop | hc
    · simp [not_stopped_of_step hst] at hstop
    · exact .inr (hcovered hc hm)
  · simp [hnew] at ha'

/-- The starts that are under way after a step. -/
lemma SessionInvariant.underWay_step (h : SessionInvariant w) (hok : w.SessionsApart options a)
    (hstep : Step options w a w') {i : ℕ} {pc' : StartPc} (hi : w'.starts[i]? = some pc')
    (hpc' : pc'.underWay = true) : w'.Covered := by
  rcases hstep.starts i with heq | ⟨-, -, hnew⟩ | ⟨pc, pc₁, e, env, hst⟩
  · have hi₀ := heq.symm.trans hi
    cases hm : w.marks a with
    | false => exact (h.underWay i pc' hi₀ hpc').step h hok.1 hm hstep
    | true =>
      -- the one that marks its session is the only one under way, and it has moved
      obtain ⟨-, -, j, env, rfl, hidle⟩ := hok.marks hm
      by_cases hij : i = j
      · subst hij
        have hmarks : pc'.marks = true := by simpa [marks, hi₀] using hm
        cases hstep with
        | @start _ _ pc pc₁ e hi₁ hr =>
          cases hi₀.symm.trans hi₁
          have hnew := (List.getElem?_set_self (List.getElem?_eq_some_iff.mp hi₁).1).symm.trans hi
          cases pc' <;> cases hmarks
          cases hr
          cases hnew
      · have hid := hidle i pc' hij hi₀
        simp [StartPc.idle_of_underWay hpc'] at hid
  · cases hi.symm.trans hnew
    cases hpc'
  · cases hi.symm.trans hst.after
    have hm : w.marks a = false := by
      by_contra hm
      have hmarks : pc.marks = true := by simpa [marks, hst.action, hst.before] using hm
      cases pc <;> cases hmarks
      cases hst.step
      cases hpc'
    rcases StartPc.underWay_of_step hst.step hpc' with hpc | hd
    · exact (h.underWay i pc hst.before hpc).step h hok.1 hm hstep
    · exact (h.disconnected hd).step h hok.1 hm hstep

/-- Ended connections after a step.

**Proof sketch.** A shutdown that sets the state will invoke the callbacks, and so will a
supervisor, unless it was aborted, by a shutdown that will. A `start` that sets it was under way. -/
lemma SessionInvariant.disconnected_step (h : SessionInvariant w) (hok : w.SessionsApart options a)
    (hstep : Step options w a w') (hd : w'.core.control.state = .disconnected) : w'.Covered := by
  cases hm : w.marks a with
  | true =>
    -- a session is marked only while the connection has not ended
    rcases hstep.rounds with ⟨x, reason, -, -, hm', -⟩ | ⟨-, ⟨-, hc⟩ | ⟨hm', -⟩⟩
    · simp [hm] at hm'
    · rw [hc] at hd
      exact absurd hd (hok.marks hm).2.1
    · simp [hm] at hm'
  | false =>
    have hcovered : w.Covered → w'.Covered := fun hc => hc.step h hok.1 hm hstep
    rcases hstep.disconnected hd with hst | ⟨t, env, -, hsh⟩ | ⟨i, env, pc, rfl, hi, hends⟩ |
      ⟨k, env, s, rfl, hk, hends⟩
    · exact hcovered (h.disconnected hst)
    · exact hcovered (.inl (.inr ⟨t, _, hsh, rfl⟩))
    · refine hcovered (h.underWay i pc hi ?_)
      cases pc <;> first | rfl | cases hends
    · obtain ⟨s₀, s', e, hst⟩ := hstep.supervisorStep
      cases hk.symm.trans hst.before
      cases hsa : s.aborted with
      | true =>
        rcases h.aborted s (List.mem_of_getElem? hk) hsa with hstop | hc
        · simp [not_stopped_of_step hst] at hstop
        · exact hcovered (.inl hc)
      | false =>
        refine .inr ⟨k, s', hst.after, Supervisor.invokes_of_step hst.step hends, ?_⟩
        rw [(Supervisor.step_supervisor hst.step).2, hsa]

/-- **Steps keep the invariant** while sessions do not overlap. -/
theorem SessionInvariant.step (h : SessionInvariant w) (hok : w.SessionsApart options a)
    (hstep : Step options w a w') : SessionInvariant w' where
  lock := h.lock.step hstep
  spawning := fun _ _ hi hpc => h.spawning_step hok hstep hi hpc
  aborted := fun _ hs ha => h.aborted_step hok hstep hs ha
  underWay := fun _ _ hi hpc => h.underWay_step hok hstep hi hpc
  disconnected := h.disconnected_step hok hstep

/-! ## The flag between sessions -/

/-- A task gets to the callbacks by setting the state. -/
lemma Step.invokesClosed (hstep : Step options w a w') {x : Closer}
    (h : w'.invokesClosed x = true) :
    w.invokesClosed x = true ∨ Action.closer? a = some x ∧ w.setsDisconnected x = true := by
  cases x with
  | task t =>
    have ht : w'.shutdownPc t = some .invokeClosed := by
      simp only [World.invokesClosed] at h
      split at h
      · assumption
      · cases h
    rcases hstep.shutdownPc ht with hsame | hbegin | ⟨s, e, env, htask, hs, hr, -⟩
    · exact .inl (by simp [World.invokesClosed, hsame])
    · cases hbegin
    · cases ShutdownPc.setDisconnected_of_step hr
      exact .inr ⟨closer?_of_task? htask, by simp [setsDisconnected, hs]⟩
  | supervisor k =>
    cases hk : w'.supervisors[k]? with
    | none => simp [World.invokesClosed, hk] at h
    | some s' =>
      have hs' : s'.pc.invokes = true := by simpa [World.invokesClosed, hk] using h
      rcases hstep.supervisors hk with ⟨hs, -⟩ | ⟨s, hs, rfl, -⟩ | ⟨s, -, -, rfl⟩ |
        ⟨s, e, env, hst⟩ | ⟨-, hsel, -⟩
      · exact .inl (by simp [World.invokesClosed, hs, hs'])
      · exact .inl (by simpa [World.invokesClosed, hs] using hs')
      · cases hs'
      · refine .inr ⟨by rw [hst.action]; rfl, ?_⟩
        simp [setsDisconnected, hst.before, Supervisor.ends_of_step hst.step hs']
      · rw [hsel] at hs'
        cases hs'

/-- A task that is about to invoke the callbacks has set the state. -/
lemma setsDisconnected_of_invokesClosed {x : Closer} (h : w.invokesClosed x = true) :
    w.setsDisconnected x = false := by
  cases x with
  | task t =>
    simp only [invokesClosed] at h
    split at h
    · rename_i ht
      simp [setsDisconnected, ht]
    · cases h
  | supervisor k =>
    cases hk : w.supervisors[k]? with
    | none => simp [invokesClosed, hk] at h
    | some s =>
      simp only [invokesClosed, hk, Option.map_some, Option.getD_some] at h
      simp only [setsDisconnected, hk, Option.map_some, Option.getD_some]
      cases hpc : s.pc <;> rw [hpc] at h <;> first | rfl | cases h

/-- The `start` that marks a session is the only task that holds the lock. -/
lemma SessionInvariant.not_taskPending (h : SessionInvariant w) (ha : w.marks a = true) {t : Task}
    {s : ShutdownPc} : w.shutdownPc t ≠ some s := by
  intro ht
  cases a with
  | start i env =>
    cases hi : w.starts[i]? with
    | none => simp [marks, hi] at ha
    | some pc =>
      have hpc : pc.marks = true := by simpa [marks, hi] using ha
      have hl : w.locked (.start i) = true := by
        cases pc <;> first | (simp [locked, hi, StartPc.locked]; done) | cases hpc
      cases h.lock.eq (locked_of_shutdownPc ht) hl
      simp only [shutdownPc, hi, Option.bind_some] at ht
      cases pc with
      | markStarted m => cases ht
      | _ => cases hpc
  | _ => cases ha

/-- No task is about to invoke the callbacks when a session is marked. -/
lemma SessionInvariant.not_invokesClosed (h : SessionInvariant w) (hok : w.SessionsApart options a)
    (ha : w.marks a = true) (x : Closer) : w.invokesClosed x = false := by
  by_contra hx
  cases x with
  | task t =>
    simp only [invokesClosed, Bool.not_eq_false] at hx
    split at hx
    · rename_i ht
      exact h.not_taskPending ha ht
    · cases hx
  | supervisor k =>
    cases hk : w.supervisors[k]? with
    | none => simp [invokesClosed, hk] at hx
    | some s =>
      have hstop := (hok.marks ha).1 s (List.mem_of_getElem? hk)
      simp [invokesClosed, hk, invokes_of_stopped hstop] at hx

/-- **The flag is free** when a session is marked. -/
lemma SessionInvariant.flag_of_marks (h : SessionInvariant w) (hok : w.SessionsApart options a)
    (ha : w.marks a = true) : w.core.control.connectionStarted = false := by
  obtain ⟨hstop, -, i, env, rfl, -⟩ := hok.marks ha
  have hcovered : w.Covered := by
    cases hi : w.starts[i]? with
    | none => simp [marks, hi] at ha
    | some pc =>
      have hpc : pc.marks = true := by simpa [marks, hi] using ha
      refine h.underWay i pc hi ?_
      cases pc <;> first | rfl | cases hpc
  rcases hcovered with (hflag | ⟨t, s, ht, -⟩) | ⟨k, s, hk, hs, -⟩
  · exact hflag
  · exact absurd ht (h.not_taskPending ha)
  · simp [invokes_of_stopped (hstop s (List.mem_of_getElem? hk))] at hs

/-- The flag has been taken when the connection has ended and nothing is at work. -/
lemma SessionInvariant.flag_of_idle (h : SessionInvariant w)
    (hd : w.core.control.state = .disconnected) (hidle : w.Idle) :
    w.core.control.connectionStarted = false := by
  rcases h.disconnected hd with (hflag | ⟨t, s, ht, -⟩) | ⟨k, s, hk, hs, -⟩
  · exact hflag
  · cases t with
    | start i =>
      obtain ⟨pc, hi, hpc⟩ := Option.bind_eq_some_iff.mp ht
      have hid := hidle.starts pc (List.mem_of_getElem? hi)
      cases pc with
      | shutdown => cases hid
      | _ => cases hpc
    | close i =>
      obtain ⟨pc, hi, hpc⟩ := Option.bind_eq_some_iff.mp ht
      have hid := hidle.closes pc (List.mem_of_getElem? hi)
      cases pc with
      | shutdown => cases hid
      | _ => cases hpc
  · have hid := hidle.supervisors s (List.mem_of_getElem? hk)
    cases hpc : s.pc with
    | invokeClosed reason =>
      rw [hpc] at hid
      cases hid
    | _ =>
      rw [hpc] at hs
      cases hs

end World

end Signalrr.HubConnection
