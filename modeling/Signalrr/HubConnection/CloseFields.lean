import Signalrr.HubConnection.CallbackFlag

set_option relaxedAutoImplicit false
set_option autoImplicit false

/-!
# What a close has closed

`shutdown_active_connection` in `src/hub_connection/mod.rs` clears the fields of a connection one
after the other. Which tasks fill one of them again, and where, is told place by place: a step that
is not at such a place keeps a field closed.

## Main definitions

* `Signalrr.HubConnection.CloseField` — what a shutdown has to close, each at one of its stages.
* `Signalrr.HubConnection.World.Closed` — a field is closed.
* `Signalrr.HubConnection.World.opens` — the field a step is about to open.

## Main results

* `Signalrr.HubConnection.ShutdownPc.closes_of_step` — what a shutdown closes.
* `Signalrr.HubConnection.World.Step.closed` — steps keep a field closed that they do not open.
-/

namespace Signalrr.HubConnection

open Hub

/-! ## What is to be closed -/

/-- What a shutdown closes, in this order. -/
inductive CloseField where
  | runtime
  | messageBuffer
  | resume
  | connectionId
  | state
  | connectionStarted
  /-- The calls of `close` that wait on `close_notify`. -/
  | waiting
  /-- The value of `stop_reconnect`, which no shutdown touches. -/
  | stopReconnect
  deriving DecidableEq

/-- The stage from which a shutdown has closed a field; it does not come to the last one. -/
def CloseField.stage : CloseField → ℕ
  | runtime => 4
  | messageBuffer => 6
  | resume => 7
  | connectionId => 8
  | state => 11
  | connectionStarted => 12
  | waiting => 13
  | stopReconnect => 14

/-- A field of `Control` is closed. -/
def Control.Closed (c : Control) : CloseField → Prop
  | .resume => c.resume = none
  | .connectionId => c.connectionId = none
  | .state => c.state = .disconnected
  | .connectionStarted => c.connectionStarted = false
  | .stopReconnect => c.stopReconnect = false
  | .runtime | .messageBuffer | .waiting => True

/-- The stage of the shutdown of a `close`. -/
def ClosePc.stage : ClosePc → ℕ
  | shutdown s => s.stage
  | unlock _ => 13
  | _ => 0

/-- A `close` has failed. -/
def ClosePc.failed : ClosePc → Bool
  | shutdown (.returned (.error _)) | unlock (.error _) => true
  | _ => false

/-- The field a `start` is about to open. -/
def StartPc.opens : StartPc → Option CloseField
  | setConnecting | setConnected _ => some .state
  | setConnectionId _ => some .connectionId
  | storeBuffer _ => some .messageBuffer
  | setResume _ => some .resume
  | storeRuntime .. => some .runtime
  | markStarted _ => some .connectionStarted
  | _ => none

/-- The field a `close` is about to open. -/
def ClosePc.opens : ClosePc → Option CloseField
  | setDisconnecting => some .state
  | register => some .waiting
  | sendStop => some .stopReconnect
  | _ => none

/-- The field a supervisor is about to open. -/
def SupervisorPc.opens : SupervisorPc → Option CloseField
  | resumeStore .. | storeRuntime .. => some .runtime
  | storeBuffer _ n => if n.reply.stateful then some .messageBuffer else none
  | setResume _ n => if n.reply.stateful then some .resume else none
  | setConnectionId _ n => if n.reply.connectionId.isSome then some .connectionId else none
  | setReconnecting _ | setConnected _ => some .state
  | _ => none

/-! ## Steps of the tasks -/

section Tasks

variable {options : ConnectionOptions} {c : Core} {env : Env} {e : Effect} {receivers : Bool}
  {i n : ℕ} {f : CloseField}

/-- `stop_reconnect.send` opens no field but its own. -/
lemma Control.sendStop_closed {c : Control} {receivers value : Bool} (h : c.Closed f)
    (hf : f = .stopReconnect → value = false) : (c.sendStop receivers value).Closed f := by
  unfold sendStop
  split
  · cases f <;> first | exact h | exact hf rfl
  · exact h

/-- A shutdown opens no field of `Control`. -/
lemma ShutdownPc.closed_of_step {s s' : ShutdownPc} (h : s.step options c env = some (e, s'))
    (hf : c.control.Closed f) : (e.op.onControl c.control).Closed f := by
  cases s with
  | invokeClosed =>
    cases h
    simp only [Effect.control, Op.onControl, Control.invokeClosed]
    split
    · cases f <;> first | exact hf | rfl
    · exact hf
  | _ =>
    cases h <;> cases f <;> first | exact hf | rfl

/-- **What a shutdown closes**: a field that is behind it is closed before the step, or by it. -/
lemma ShutdownPc.closes_of_step {s s' : ShutdownPc} (h : s.step options c env = some (e, s'))
    (hsink : ∀ rt, s = closeRuntime rt → (c.shutdown options rt env.write env.outcome).2 = .ok ())
    (hs : f.stage ≤ s'.stage) : f.stage ≤ s.stage ∨
      (e.op.onControl c.control).Closed f ∧
        (f = .runtime → (c.applyOp options e.op).runtime = none) ∧
        (f = .messageBuffer → (c.applyOp options e.op).messageBuffer = none) ∧
        (f = .waiting → e.notify = true) := by
  rcases stage_of_step h with heq | ⟨rfl, rfl⟩ | ⟨rt, rfl, hfail⟩
  · by_cases hlt : f.stage ≤ s.stage
    · exact .inl hlt
    · have hf : f.stage = s.stage + 1 := by omega
      right
      cases f <;> cases s <;> simp [CloseField.stage, stage] at hf <;> cases h
      all_goals refine ⟨?_, ?_, ?_, ?_⟩
      all_goals first
        | trivial
        | rfl
        | (intro _; rfl)
        | (intro hne; cases hne)
        | skip
      all_goals
        simp only [Effect.control, Op.onControl, Control.invokeClosed, Control.Closed]
        split <;> simp_all
  · simp only [step, Option.some.injEq, Prod.mk.injEq] at h
    obtain ⟨rfl, -⟩ := h
    cases f with
    | runtime =>
      exact .inr ⟨trivial, fun _ => rfl, fun hf => (by cases hf), fun hf => (by cases hf)⟩
    | _ => simp [CloseField.stage, stage] at hs
  · rw [hsink rt rfl] at hfail
    cases hfail

/-- A `start` opens one field of `Control`, at most. -/
lemma StartPc.closed_of_step {pc pc' : StartPc}
    (h : pc.step options c receivers n i env = some (e, pc')) (hpc : pc.opens ≠ some f)
    (hf : c.control.Closed f) : (e.op.onControl c.control).Closed f := by
  cases pc with
  | shutdown s =>
    rcases step_shutdown h with ⟨rfl, -⟩ | ⟨s', hs, -⟩
    · exact hf
    · exact ShutdownPc.closed_of_step hs hf
  | sendStop =>
    cases h
    exact Control.sendStop_closed hf fun _ => rfl
  | _ =>
    simp only [step] at h
    repeat' split at h
    all_goals cases h
    all_goals cases f <;> first | exact hf | rfl | exact absurd rfl hpc

/-- A `close` opens one field of `Control`, at most. -/
lemma ClosePc.closed_of_step {pc pc' : ClosePc}
    (h : pc.step options c receivers i env = some (e, pc')) (hpc : pc.opens ≠ some f)
    (hf : c.control.Closed f) : (e.op.onControl c.control).Closed f := by
  cases pc with
  | shutdown s =>
    rcases step_shutdown h with ⟨rfl, -⟩ | ⟨s', hs, -⟩
    · exact hf
    · exact ShutdownPc.closed_of_step hs hf
  | sendStop =>
    cases h
    refine Control.sendStop_closed hf ?_
    rintro rfl
    exact absurd rfl hpc
  | _ =>
    simp only [step] at h
    repeat' split at h
    all_goals cases h
    all_goals cases f <;> first | exact hf | rfl | exact absurd rfl hpc

/-- A supervisor opens one field of `Control`, at most. -/
lemma Supervisor.closed_of_step {s s' : Supervisor} (h : s.step options c env = some (e, s'))
    (hpc : s.pc.opens ≠ some f) (hf : c.control.Closed f) :
    (e.op.onControl c.control).Closed f := by
  unfold step at h
  split at h
  all_goals
    rename_i hplace
    rw [hplace] at hpc
    repeat' split at h
    all_goals cases h
    all_goals cases f <;> first
      | exact hf
      | rfl
      | exact absurd rfl hpc
      | simp_all [SupervisorPc.opens, Op.onControl, Control.Closed, Control.invokeClosed, apply_ite]

/-- A `close` comes to `unlock` when its shutdown has returned. -/
lemma ClosePc.returned_of_unlock {s : ShutdownPc} {result : Except Error Unit}
    (h : (shutdown s).step options c receivers i env = some (e, unlock result)) :
    s = .returned result := by
  cases s with
  | returned => cases h; rfl
  | _ => simp [step] at h

/-- Only a new buffer fills the field of the buffer. -/
lemma Core.messageBuffer_applyOp_eq_none {op : Op} (hop : op ≠ .storeBuffer true)
    (h : c.messageBuffer = none) : (c.applyOp options op).messageBuffer = none := by
  cases op with
  | storeRuntime connection transport b writes =>
    cases writes with
    | none => exact h
    | some writes =>
      simp only [applyOp, resend]
      split <;> exact h
  | storeBuffer stateful =>
    cases stateful with
    | true => exact absurd rfl hop
    | false => rfl
  | shutdownRuntime rt write outcome =>
    obtain ⟨buffers, hcore, -⟩ := shutdown_eq options c rt write outcome
    simpa only [applyOp, hcore] using h
  | clearBuffer => rfl
  | _ => exact h

/-- A shutdown stores no buffer. -/
lemma ShutdownPc.op_ne_of_step {s s' : ShutdownPc} (h : s.step options c env = some (e, s')) :
    e.op ≠ .storeBuffer true := by
  cases s <;> cases h <;> simp [Effect.skip, Effect.control]

/-- A `start` stores a buffer at one place. -/
lemma StartPc.op_ne_of_step {pc pc' : StartPc}
    (h : pc.step options c receivers n i env = some (e, pc'))
    (hpc : pc.opens ≠ some .messageBuffer) : e.op ≠ .storeBuffer true := by
  cases pc with
  | shutdown s =>
    rcases step_shutdown h with ⟨rfl, -⟩ | ⟨s', hs, -⟩
    · simp [Effect.skip]
    · exact ShutdownPc.op_ne_of_step hs
  | storeBuffer => exact absurd rfl hpc
  | _ =>
    simp only [step] at h
    repeat' split at h
    all_goals cases h
    all_goals simp [Effect.skip, Effect.control]

/-- A `close` stores no buffer. -/
lemma ClosePc.op_ne_of_step {pc pc' : ClosePc}
    (h : pc.step options c receivers i env = some (e, pc')) : e.op ≠ .storeBuffer true := by
  cases pc with
  | shutdown s =>
    rcases step_shutdown h with ⟨rfl, -⟩ | ⟨s', hs, -⟩
    · simp [Effect.skip]
    · exact ShutdownPc.op_ne_of_step hs
  | _ =>
    simp only [step] at h
    repeat' split at h
    all_goals cases h
    all_goals simp [Effect.skip, Effect.control]

/-- A supervisor stores a buffer at one place. -/
lemma Supervisor.op_ne_of_step {s s' : Supervisor} (h : s.step options c env = some (e, s'))
    (hpc : s.pc.opens ≠ some .messageBuffer) : e.op ≠ .storeBuffer true := by
  unfold step at h
  split at h
  all_goals
    rename_i hplace
    rw [hplace] at hpc
    repeat' split at h
    all_goals cases h
    all_goals simp_all [Effect.skip, Effect.control, SupervisorPc.opens]

end Tasks

namespace World

variable {options : ConnectionOptions} {w w' : World} {a : Action} {f : CloseField}

/-! ## Closed fields -/

/-- Some call of `close` waits to be notified. -/
def SomeWaiting (w : World) : Prop := ∃ j : ℕ, w.closes[j]? = some .waiting

/-- A field is closed. -/
structure Closed (w : World) (f : CloseField) : Prop where
  control : w.core.control.Closed f
  runtime : f = .runtime → w.core.runtime = none
  messageBuffer : f = .messageBuffer → w.core.messageBuffer = none
  waiting : f = .waiting → ¬ w.SomeWaiting

/-- The field a step is about to open. -/
def opens (w : World) : Action → Option CloseField
  | .start i _ => w.starts[i]?.bind StartPc.opens
  | .close i _ => w.closes[i]?.bind ClosePc.opens
  | .supervisor k _ => w.supervisors[k]?.bind fun s => s.pc.opens
  | _ => none

/-- The calls that wait after a step waited before, or one of them has registered. -/
lemma Step.someWaiting (h : Step options w a w') (ha : w.opens a ≠ some .waiting)
    (hw : w'.SomeWaiting) : w.SomeWaiting := by
  obtain ⟨j, hj⟩ := hw
  rcases h.closes j with heq | ⟨-, hnot⟩ | ⟨-, -, hnew⟩ | ⟨pc, pc', e, env, hs⟩
  · exact ⟨j, heq ▸ hj⟩
  · cases hj.symm.trans hnot
  · cases hj.symm.trans hnew
  · cases hj.symm.trans hs.after
    have hstep := hs.step
    cases pc with
    | register =>
      refine absurd ?_ ha
      rw [hs.action]
      simp [opens, hs.before, ClosePc.opens]
    | shutdown s =>
      rcases ClosePc.step_shutdown hstep with ⟨-, result, hpc⟩ | ⟨s', -, hpc⟩ <;> cases hpc
    | _ =>
      simp only [ClosePc.step] at hstep
      repeat' split at hstep
      all_goals cases hstep

/-- **Steps keep a field closed** that they do not open. -/
lemma Step.closed (h : Step options w a w') (ha : w.opens a ≠ some f) (hf : w.Closed f) :
    w'.Closed f := by
  refine ⟨?_, ?_, ?_, ?_⟩
  · rcases h.control with ⟨hc, -⟩ | ⟨i, pc, pc', e, env, hs, hc⟩ | ⟨i, pc, pc', e, env, hs, hc⟩ |
      ⟨k, s, s', e, env, hs, hc⟩
    · exact hc ▸ hf.control
    · rw [hc]
      exact StartPc.closed_of_step hs.step (by simpa [opens, hs.action, hs.before] using ha)
        hf.control
    · rw [hc]
      exact ClosePc.closed_of_step hs.step (by simpa [opens, hs.action, hs.before] using ha)
        hf.control
    · rw [hc]
      exact Supervisor.closed_of_step hs.step (by simpa [opens, hs.action, hs.before] using ha)
        hf.control
  · rintro rfl
    have hnone := hf.runtime rfl
    by_contra hrt
    have hfilled : w'.core.filled .runtime = true := by
      simpa [Core.filled, Control.filled, Option.isSome_iff_ne_none] using hrt
    rcases h.filled hfilled with hold | ⟨i, env, pc, rfl, hi, hpc⟩ | ⟨k, env, s, rfl, hk, hpc⟩
    · simp [Core.filled, Control.filled, hnone] at hold
    · refine ha ?_
      simp only [opens, hi, Option.bind_some]
      cases pc <;> first | rfl | cases hpc
    · refine ha ?_
      simp only [opens, hk, Option.bind_some]
      cases hplace : s.pc <;> rw [hplace] at hpc <;> first
        | rfl
        | simp [SupervisorPc.fills] at hpc
  · rintro rfl
    have hnone := hf.messageBuffer rfl
    cases h with
    | newStart | newClose | supervisorEnds => exact hnone
    | core hen hr =>
      rw [(sameLifecycle_of_next (ne_op_of_coreEnabled hen) hr).messageBuffer]
      exact hnone
    | start hi hr =>
      refine Core.messageBuffer_applyOp_eq_none (StartPc.op_ne_of_step hr ?_) hnone
      simpa [opens, hi] using ha
    | close hi hr => exact Core.messageBuffer_applyOp_eq_none (ClosePc.op_ne_of_step hr) hnone
    | supervisor hk _ hr =>
      refine Core.messageBuffer_applyOp_eq_none (Supervisor.op_ne_of_step hr ?_) hnone
      simpa [opens, hk] using ha
  · rintro rfl hw
    exact hf.waiting rfl (h.someWaiting ha hw)

end World

end Signalrr.HubConnection
