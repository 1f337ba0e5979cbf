import Signalrr.HubConnection.CloseNotify
import Signalrr.HubConnection.Backpressure

set_option relaxedAutoImplicit false
set_option autoImplicit false

/-!
# What is left of an ended connection

`shutdown_active_connection` in `src/hub_connection/mod.rs` clears every field of the connection
before it sets the state to `Disconnected`. The error branch of `start` forgets `resume`; the
supervisor has taken the runtime when the policy gives up, and clears nothing when there is no
policy. A `close` that finds the connection disconnected does nothing, so what such an end has left
stays.

## Main definitions

* `Signalrr.HubConnection.SessionField` — the fields an ended connection must not keep.
* `Signalrr.HubConnection.World.CleanEnd` — they are empty, and no runtime is left.
* `Signalrr.HubConnection.StartPc.forgets`, `SupervisorPc.forgets` — a field is filled that an end
  of the connection does not clear.
* `Signalrr.HubConnection.World.runtimeTaken` — a supervisor has taken the runtime and is at work.
* `Signalrr.HubConnection.World.leavesDirty` — a step ends the connection and leaves a field, or
  fills one that is cleared.
* `Signalrr.HubConnection.World.CleanInvariant` — what the tasks have cleared is empty, and so is
  everything while the connection is disconnected and no `start` is connecting.

## Main results

* `Signalrr.HubConnection.World.CleanInvariant.step` — steps that leave nothing keep the invariant.
* `Signalrr.HubConnection.World.clean_of_disconnected` — a disconnected connection is clean in runs
  of such steps.
* `Signalrr.HubConnection.World.dirty_after_loss` — in general it is not.
-/

namespace Signalrr.HubConnection

open Hub

/-! ## Fields -/

/-- The fields an ended connection must not keep. -/
inductive SessionField where
  | runtime
  | resume
  | connectionId
  | remainingHandshakeData
  | initialMessages
  deriving DecidableEq, Repr

/-- A field of `Control` holds something. -/
def Control.filled (c : Control) : SessionField → Bool
  | .runtime => false
  | .resume => c.resume.isSome
  | .connectionId => c.connectionId.isSome
  | .remainingHandshakeData => c.remainingHandshakeData.isSome
  | .initialMessages => !c.initialMessages.isEmpty

/-- A field holds something. -/
def Core.filled (c : Core) (f : SessionField) : Bool :=
  (decide (f = .runtime) && c.runtime.isSome) || c.control.filled f

/-- No field holds anything. -/
def Core.clean (c : Core) : Bool :=
  !(c.filled .runtime || c.filled .resume || c.filled .connectionId ||
    c.filled .remainingHandshakeData || c.filled .initialMessages)

/-- `clean` is about all fields. -/
lemma Core.clean_iff (c : Core) : c.clean = true ↔ ∀ f, c.filled f = false := by
  constructor
  · intro h f
    simp only [clean, Bool.not_eq_true', Bool.or_eq_false_iff] at h
    cases f with
    | runtime => exact h.1.1.1.1
    | resume => exact h.1.1.1.2
    | connectionId => exact h.1.1.2
    | remainingHandshakeData => exact h.1.2
    | initialMessages => exact h.2
  · intro h
    simp [clean, h]

/-- `invoke_closed` fills no field. -/
@[simp] lemma Control.invokeClosed_filled (c : Control) (reason : Option String)
    (f : SessionField) : (c.invokeClosed reason).filled f = c.filled f := by
  unfold invokeClosed
  split <;> cases f <;> rfl

/-- `stop_reconnect.send` fills no field. -/
@[simp] lemma Control.sendStop_filled (c : Control) (receivers value : Bool)
    (f : SessionField) : (c.sendStop receivers value).filled f = c.filled f := by
  unfold sendStop
  split <;> cases f <;> rfl

/-- An operation fills the runtime, or a field of `Control`. -/
lemma Core.filled_applyOp {options : ConnectionOptions} {c : Core} {op : Op} {f : SessionField}
    (h : (c.applyOp options op).filled f = true) :
    c.filled f = true ∨ (f = .runtime ∧ op.storesRuntime = true) ∨
      (op.onControl c.control).filled f = true := by
  simp only [filled, applyOp_control, Bool.or_eq_true, Bool.and_eq_true, decide_eq_true_eq] at h ⊢
  rcases h with ⟨hf, hrt⟩ | h
  · cases hop : op.storesRuntime with
    | true => exact .inr (.inl ⟨hf, rfl⟩)
    | false =>
      refine .inl (.inl ⟨hf, ?_⟩)
      rcases runtime_applyOp options c hop with hsame | hnone
      · rwa [hsame] at hrt
      · simp [hnone] at hrt
  · exact .inr (.inr h)

/-! ## Places -/

/-- The field a `start` is about to fill. -/
def StartPc.fills : StartPc → Option SessionField
  | setConnectionId _ => some .connectionId
  | setResume _ => some .resume
  | setHandshakeData _ => some .remainingHandshakeData
  | setInitialMessages _ => some .initialMessages
  | storeRuntime .. => some .runtime
  | _ => none

/-- The field a supervisor is about to fill. -/
def SupervisorPc.fills : SupervisorPc → Option SessionField
  | resumeStore .. | storeRuntime .. => some .runtime
  | setConnectionId _ n => if n.reply.connectionId.isSome then some .connectionId else none
  | setResume _ n => if n.reply.stateful then some .resume else none
  | _ => none

/-- A shutdown has cleared the field and has not set the state. -/
def ShutdownPc.cleared : ShutdownPc → SessionField → Bool
  | closeRuntime _, f | clearBuffer, f | clearResume, f => f = .runtime
  | clearConnectionId, f => f = .runtime || f = .resume
  | clearHandshakeData, f => f = .runtime || f = .resume || f = .connectionId
  | clearInitialMessages, f => f ≠ .initialMessages
  | setDisconnected, _ => true
  | _, _ => false

/-- The error branch of a `start` has cleared the field and has not set the state. -/
def StartPc.cleared : StartPc → SessionField → Bool
  | failConnectionId _, f => f = .runtime
  | failHandshakeData _, f => f = .runtime || f = .connectionId
  | failInitialMessages _, f => f = .runtime || f = .connectionId || f = .remainingHandshakeData
  | failState _, f => f ≠ .resume
  | _, _ => false

/-- A supervisor has taken the runtime, and has neither stored a new one nor ended. -/
def SupervisorPc.tookRuntime : SupervisorPc → Bool
  | abortRuntime .. | firstDelay _ | setReconnecting _ | invokeReconnecting _ | recheckClosing _
  | recheckState _ | sleep _ | loopClosing _ | loopStop _ | loopState _ | connect _
  | setConnectionId .. | storeBuffer .. | setResume .. | startRuntime .. | ping .. | storeRuntime ..
  | nextDelay _ | giveUp _ => true
  | _ => false

/-- A supervisor that has taken the runtime can still take a step. -/
def Supervisor.keepsNone (s : Supervisor) : Bool :=
  s.pc.tookRuntime && !(s.aborted && !s.pc.mayRun)

/-- A `start` ends the connection without a shutdown, and a field is filled that it does not clear:
none where it is stopped before it connects, all but `resume` in its error branch. -/
def StartPc.forgets (c : Core) : StartPc → Bool
  | stopped => !c.clean
  | failState _ => c.filled .resume
  | _ => false

/-- A supervisor ends the connection, and a field is filled that it does not clear: none without a
policy or when the server forbids to reconnect, the runtime when the policy gives up. -/
def SupervisorPc.forgets (c : Core) : SupervisorPc → Bool
  | setDisconnected _ => !c.clean
  | giveUp _ => c.filled .resume || c.filled .connectionId || c.filled .remainingHandshakeData ||
      c.filled .initialMessages
  | _ => false

/-- A `start` holds the lock and has not set the state to `Connected` or `Disconnected`. -/
def StartPc.connecting : StartPc → Bool
  | setConnectionId _ | storeBuffer _ | setResume _ | setHandshakeData _ | setInitialMessages _
  | startRuntime _ | ping .. | storeRuntime .. | recheckClosing _ | setConnected _ | failRuntime _
  | failConnectionId _ | failHandshakeData _ | failInitialMessages _ | failState _ => true
  | shutdown s => s.announced
  | _ => false

/-- `start` fills fields only while it is connecting. -/
lemma StartPc.connecting_of_fills {pc : StartPc} {f : SessionField} (h : pc.fills = some f) :
    pc.connecting = true := by
  cases pc <;> first | rfl | cases h

/-- A `start` that is connecting holds the lock. -/
lemma StartPc.locked_of_connecting {pc : StartPc} (h : pc.connecting = true) :
    pc.locked = true := by
  cases pc <;> first | rfl | cases h

/-- A `start` that ends the connection fills no field. -/
lemma StartPc.fills_of_ends {pc : StartPc} (h : pc.ends = true) : pc.fills = none := by
  cases pc <;> first | rfl | cases h

/-- A `start` that shuts the connection down fills no field. -/
lemma StartPc.fills_of_shutdown? {pc : StartPc} {s : ShutdownPc} (h : pc.shutdown? = some s) :
    pc.fills = none := by
  cases pc <;> first | rfl | cases h

/-- The error branch of a `start` belongs to connecting. -/
lemma StartPc.connecting_of_cleared {pc : StartPc} {f : SessionField} (h : pc.cleared f = true) :
    pc.connecting = true := by
  cases pc <;> first | rfl | cases h

/-- The error branch of a `start` fills no field. -/
lemma StartPc.fills_of_cleared {pc : StartPc} {f : SessionField} (h : pc.cleared f = true) :
    pc.fills = none := by
  cases pc <;> first | rfl | cases h

/-- A supervisor that ends the connection fills no field. -/
lemma SupervisorPc.fills_of_ends {pc : SupervisorPc} (h : pc.ends = true) : pc.fills = none := by
  cases pc <;> first | rfl | cases h

/-! ## Steps of the tasks -/

section Tasks

variable {options : ConnectionOptions} {c : Core} {env : Env} {e : Effect} {receivers : Bool}
  {i n : ℕ} {f : SessionField}

/-- A shutdown fills no field. -/
lemma ShutdownPc.filled_of_step {s s' : ShutdownPc} (h : s.step options c env = some (e, s'))
    (hf : (c.applyOp options e.op).filled f = true) : c.filled f = true := by
  rcases Core.filled_applyOp hf with hf | ⟨-, hop⟩ | hf
  · exact hf
  · rw [step_storesRuntime h] at hop
    cases hop
  · suffices c.control.filled f = true by simp [Core.filled, this]
    cases s <;> cases h <;> cases f <;>
      simp_all [Op.onControl, Effect.skip, Effect.control, Control.filled, Control.invokeClosed]
    all_goals split at hf <;> exact hf

/-- What a shutdown has cleared is empty, if nothing else has filled it. -/
lemma ShutdownPc.cleared_of_step {s s' : ShutdownPc} (h : s.step options c env = some (e, s'))
    (hc : ∀ f, s.cleared f = true → c.filled f = false) (hf : s'.cleared f = true) :
    (c.applyOp options e.op).filled f = false := by
  have hkeep : s.cleared f = true → (c.applyOp options e.op).filled f = false := by
    intro hs
    by_contra hne
    have := filled_of_step h (by simpa using hne)
    simp [hc f hs] at this
  cases s with
  | takeRuntime =>
    cases h
    have hf : f = .runtime := by
      split at hf <;> simpa [cleared] using hf
    subst hf
    simp [Core.filled, Core.applyOp, Control.filled]
  | closeRuntime rt =>
    refine hkeep ?_
    cases h
    split at hf
    · cases hf
    · exact hf
  | clearResume | clearConnectionId | clearHandshakeData | clearInitialMessages =>
    cases h
    -- the field was cleared before, or by this step
    cases f <;> first | exact hkeep rfl | rfl | cases hf
  | clearBuffer =>
    cases h
    exact hkeep hf
  | abortSupervisor | dispose | cancelAll | setDisconnected | invokeClosed | notify =>
    cases h
    cases hf
  | returned => cases h

/-- `start` fills the fields in five steps. -/
lemma StartPc.filled_of_step {pc pc' : StartPc}
    (h : pc.step options c receivers n i env = some (e, pc'))
    (hf : (c.applyOp options e.op).filled f = true) : c.filled f = true ∨ pc.fills = some f := by
  cases pc with
  | shutdown s =>
    rcases step_shutdown h with ⟨rfl, -⟩ | ⟨s', hs, -⟩
    · exact .inl hf
    · exact .inl (ShutdownPc.filled_of_step hs hf)
  | sendStop =>
    cases h
    refine .inl ?_
    simpa [Core.filled, Core.applyOp, Effect.control] using hf
  | _ =>
    rcases Core.filled_applyOp hf with hf | ⟨rfl, hop⟩ | hf
    · exact .inl hf
    · obtain ⟨m, r, hpc, -⟩ := step_storesRuntime h hop
      rw [hpc]
      exact .inr rfl
    · simp only [step] at h
      repeat' split at h
      all_goals cases h
      all_goals cases f <;>
        simp_all [Op.onControl, Effect.skip, Effect.control, Control.filled, Core.filled, fills]

/-- What the error branch of a `start` has cleared is empty, if nothing else has filled it. -/
lemma StartPc.cleared_of_step {pc pc' : StartPc}
    (h : pc.step options c receivers n i env = some (e, pc'))
    (hc : ∀ f, pc.cleared f = true → c.filled f = false) (hf : pc'.cleared f = true) :
    (c.applyOp options e.op).filled f = false := by
  have hkeep : pc.cleared f = true → pc.fills = none →
      (c.applyOp options e.op).filled f = false := by
    intro hs hnone
    by_contra hne
    rcases filled_of_step h (by simpa using hne) with hold | hfill
    · simp [hc f hs] at hold
    · rw [hnone] at hfill
      cases hfill
  cases pc with
  | failRuntime =>
    cases h
    obtain rfl : f = .runtime := by simpa [cleared] using hf
    simp [Core.filled, Core.applyOp, Control.filled]
  | failConnectionId | failHandshakeData | failInitialMessages =>
    cases h
    -- the field was cleared before, or by this step
    cases f <;> first | exact hkeep rfl rfl | rfl | cases hf
  | shutdown s =>
    rcases step_shutdown h with ⟨-, result, rfl⟩ | ⟨s', -, rfl⟩ <;> cases hf
  | _ =>
    simp only [step] at h
    repeat' split at h
    all_goals cases h
    all_goals cases hf

/-- `close` fills no field. -/
lemma ClosePc.filled_of_step {pc pc' : ClosePc}
    (h : pc.step options c receivers i env = some (e, pc'))
    (hf : (c.applyOp options e.op).filled f = true) : c.filled f = true := by
  cases pc with
  | shutdown s =>
    rcases step_shutdown h with ⟨rfl, -⟩ | ⟨s', hs, -⟩
    · exact hf
    · exact ShutdownPc.filled_of_step hs hf
  | sendStop =>
    cases h
    simpa [Core.filled, Core.applyOp, Effect.control] using hf
  | _ =>
    rcases Core.filled_applyOp hf with hf | ⟨-, hop⟩ | hf
    · exact hf
    · rw [step_storesRuntime h] at hop
      cases hop
    · simp only [step] at h
      repeat' split at h
      all_goals cases h
      all_goals cases f <;>
        simp_all [Op.onControl, Effect.skip, Effect.control, Control.filled, Core.filled]

/-- A supervisor fills fields at four places. -/
lemma Supervisor.filled_of_step {s s' : Supervisor} (h : s.step options c env = some (e, s'))
    (hf : (c.applyOp options e.op).filled f = true) : c.filled f = true ∨ s.pc.fills = some f := by
  rcases Core.filled_applyOp hf with hf | ⟨rfl, hop⟩ | hf
  · exact .inl hf
  · refine .inr ?_
    have hpc := step_storesRuntime h hop
    cases hs : s.pc <;> rw [hs] at hpc <;> first | rfl | cases hpc
  · unfold step at h
    split at h
    all_goals
      rename_i hpc
      repeat' split at h
      all_goals cases h
      all_goals first
        | (refine .inl ?_; simp_all [Op.onControl, Effect.skip, Core.filled]; done)
        | cases f <;> simp_all [Op.onControl, Effect.control, Control.filled, Core.filled,
            SupervisorPc.fills]

/-- **A supervisor takes the runtime once**: it has taken it before the step, or by it. -/
lemma Supervisor.tookRuntime_of_step {s s' : Supervisor} (h : s.step options c env = some (e, s'))
    (hs' : s'.pc.tookRuntime = true) :
    (c.applyOp options e.op).runtime = none ∨
      s.pc.tookRuntime = true ∧ s.pc.fills ≠ some .runtime := by
  cases hs : s.pc with
  | takeRuntime info =>
    left
    simp only [step, hs] at h
    split at h
    · rename_i hrt
      cases h
      exact hrt
    · cases h
      rfl
  | setConnectionId retry n =>
    refine .inr ⟨rfl, ?_⟩
    simp only [SupervisorPc.fills]
    split <;> simp
  | setResume retry n =>
    refine .inr ⟨rfl, ?_⟩
    simp only [SupervisorPc.fills]
    split <;> simp
  | abortRuntime | firstDelay | setReconnecting | invokeReconnecting | recheckClosing
  | recheckState | sleep | loopClosing | loopStop | loopState | connect | storeBuffer
  | startRuntime | ping | nextDelay | giveUp => exact .inr ⟨rfl, by simp [SupervisorPc.fills]⟩
  | cancelAll info =>
    simp only [step, hs, Option.some.injEq, Prod.mk.injEq] at h
    obtain ⟨-, rfl⟩ := h
    simp only [afterCancel] at hs'
    split at hs' <;> cases hs'
  | _ =>
    simp only [step, hs] at h
    repeat' split at h
    all_goals cases h
    all_goals cases hs'

/-- **The ends of a start**: it goes on connecting until it has set the state, or its shutdown fails
with the sink. -/
lemma StartPc.connecting_of_step {pc pc' : StartPc}
    (h : pc.step options c receivers n i env = some (e, pc')) (hc : pc.connecting = true) :
    pc'.connecting = true ∨ (∃ m, pc = setConnected m) ∨ pc.ends = true ∨
      pc.shutdown? = some .setDisconnected ∨
      ∃ rt, pc = shutdown (.closeRuntime rt) ∧
        (c.shutdown options rt env.write env.outcome).2.isOk = false := by
  cases pc with
  | shutdown s =>
    have hne : ∀ result, s ≠ .returned result := by
      rintro result rfl
      cases hc
    obtain ⟨s', hs, rfl⟩ := step_of_shutdown? h rfl hne
    rcases ShutdownPc.step_announced hs hc with hc' | rfl | ⟨rt, rfl, hsink⟩
    · exact .inl hc'
    · exact .inr (.inr (.inr (.inl rfl)))
    · exact .inr (.inr (.inr (.inr ⟨rt, rfl, hsink⟩)))
  | setConnected m => exact .inr (.inl ⟨m, rfl⟩)
  | failState => exact .inr (.inr (.inl rfl))
  | recheckClosing m =>
    cases h
    refine .inl ?_
    split <;> rfl
  | startRuntime | ping =>
    simp only [step] at h
    split at h <;> cases h <;> exact .inl rfl
  | setConnectionId | storeBuffer | setResume | setHandshakeData | setInitialMessages | storeRuntime
  | failRuntime | failConnectionId | failHandshakeData | failInitialMessages =>
    cases h
    exact .inl rfl
  | _ => cases hc

end Tasks

/-! ## Ended connections -/

/-- The transport of the runtime a shutdown has taken. -/
def ShutdownPc.transport? : ShutdownPc → Option ℕ
  | closeRuntime rt => some rt.transport
  | _ => none

/-- The transport of the runtime a `start` has made or taken. -/
def StartPc.transport? : StartPc → Option ℕ
  | ping n _ | storeRuntime n _ => some n.transport
  | shutdown s => s.transport?
  | _ => none

/-- The transport of the runtime a `close` has taken. -/
def ClosePc.transport? : ClosePc → Option ℕ
  | shutdown s => s.transport?
  | _ => none

/-- The transport of the runtime a supervisor has made. -/
def SupervisorPc.transport? : SupervisorPc → Option ℕ
  | ping _ n _ | storeRuntime _ n _ => some n.transport
  | resumeStore _ _ _ transport => some transport
  | _ => none

namespace World

variable {options : ConnectionOptions} {w w' : World} {a : Action}

/-- The transports whose messages are dispatched: those of the runtimes that have not been dropped,
in the field or in a task. -/
def dispatching (w : World) : List ℕ :=
  (w.core.runtime.map HubRuntime.transport).toList ++ w.starts.filterMap StartPc.transport? ++
    w.closes.filterMap ClosePc.transport? ++
    w.supervisors.filterMap fun s => s.pc.transport?

/-- Nothing is left of the connection. -/
structure CleanEnd (w : World) : Prop where
  runtime : w.core.runtime = none
  resume : w.core.control.resume = none
  connectionId : w.core.control.connectionId = none
  remainingHandshakeData : w.core.control.remainingHandshakeData = none
  initialMessages : w.core.control.initialMessages = []
  dispatching : w.dispatching = []

/-- A `start` is connecting. -/
def connecting (w : World) : Bool := w.starts.any StartPc.connecting

/-- A shutdown or the error branch of a `start` has cleared the field. -/
def cleared (w : World) (f : SessionField) : Bool :=
  w.shutdowns.any (fun s => s.cleared f) || w.starts.any fun pc => pc.cleared f

/-- A supervisor other than `k` has taken the runtime and is at work. -/
def runtimeTaken (w : World) (k : Option ℕ) : Bool :=
  (List.range w.supervisors.length).any fun j =>
    decide (k ≠ some j) && (w.supervisors[j]?.map Supervisor.keepsNone).getD false

/-- The step ends the connection and leaves a field, or fills one that is cleared:

* `start` or a supervisor ends the connection and forgets a field;
* the shutdown of a `start` fails after the connection has ended;
* a supervisor fills a field after the end, or after another task has cleared it;
* a task stores a runtime although a supervisor has taken the one before. -/
def leavesDirty (options : ConnectionOptions) (w : World) (a : Action) : Bool :=
  match a with
  | .start i _ =>
    match w.starts[i]? with
    | none => false
    | some pc =>
      pc.forgets w.core ||
        (w.sinkFails options a && decide (w.core.control.state = .disconnected)) ||
        (decide (pc.fills = some .runtime) && w.runtimeTaken none)
  | .supervisor k _ =>
    match w.supervisors[k]? with
    | none => false
    | some s =>
      (s.pc.forgets w.core && !w.connecting) ||
        match s.pc.fills with
        | none => false
        | some f => (decide (w.core.control.state = .disconnected) && !w.connecting) ||
            w.cleared f || (decide (f = .runtime) && w.runtimeTaken (some k))
  | _ => false

/-- The condition on a step. -/
def LeavesClean (options : ConnectionOptions) (w : World) (a : Action) : Prop :=
  w.leavesDirty options a = false

instance (options : ConnectionOptions) (w : World) (a : Action) :
    Decidable (w.LeavesClean options a) :=
  inferInstanceAs (Decidable (w.leavesDirty options a = false))

/-- What the tasks have cleared is empty, and so is everything while the connection is disconnected
and no `start` is connecting. -/
structure CleanInvariant (w : World) : Prop where
  lock : w.LockHeld
  cleared : ∀ t s f, w.shutdownPc t = some s → s.cleared f = true → w.core.filled f = false
  failed : ∀ (i : ℕ) (pc : StartPc) f, w.starts[i]? = some pc → pc.cleared f = true →
    w.core.filled f = false
  taken : ∀ (k : ℕ) (s : Supervisor), w.supervisors[k]? = some s → s.keepsNone = true →
    w.core.runtime = none
  clean : w.core.control.state = .disconnected → w.connecting = false →
    ∀ f, w.core.filled f = false

/-! ## Steps -/

/-- A field that is filled after a step was filled before, or a `start` or a supervisor fills it. -/
lemma Step.filled {f : SessionField} (h : Step options w a w') (hf : w'.core.filled f = true) :
    w.core.filled f = true ∨
      (∃ i env pc, a = .start i env ∧ w.starts[i]? = some pc ∧ pc.fills = some f) ∨
      ∃ k env s, a = .supervisor k env ∧ w.supervisors[k]? = some s ∧ s.pc.fills = some f := by
  cases h with
  | newStart | newClose | supervisorEnds => exact .inl hf
  | @start i env pc pc' e hi hr =>
    exact (StartPc.filled_of_step hr hf).imp_right fun hpc => .inl ⟨i, env, pc, rfl, hi, hpc⟩
  | close hi hr => exact .inl (ClosePc.filled_of_step hr hf)
  | @supervisor k env s s' e hk _ hr =>
    exact (Supervisor.filled_of_step hr hf).imp_right fun hpc => .inr ⟨k, env, s, rfl, hk, hpc⟩
  | core ha hr =>
    have hsame := sameLifecycle_of_next (ne_op_of_coreEnabled ha) hr
    have hrt := congrArg Option.isSome hsame.runtime
    simp only [Option.isSome_map] at hrt
    refine .inl ?_
    simpa [Core.filled, hsame.control, hrt] using hf

/-- The ways to end a connection. -/
lemma Step.disconnected (h : Step options w a w') (hd : w'.core.control.state = .disconnected) :
    w.core.control.state = .disconnected ∨
      (∃ t env, Action.task? a = some (t, env) ∧ w.shutdownPc t = some .setDisconnected) ∨
      (∃ i env pc, a = .start i env ∧ w.starts[i]? = some pc ∧ pc.ends = true) ∨
      ∃ k env s, a = .supervisor k env ∧ w.supervisors[k]? = some s ∧ s.pc.ends = true := by
  rcases h.control with ⟨hc, -⟩ | ⟨i, pc, pc', e, env, hs, hc⟩ | ⟨i, pc, pc', e, env, hs, hc⟩ |
    ⟨k, s, s', e, env, hs, hc⟩
  · exact .inl (hc ▸ hd)
  · rw [hc] at hd
    rcases StartPc.step_state hs.step hd with hst | hends | hsh
    · exact .inl hst
    · exact .inr (.inr (.inl ⟨i, env, pc, hs.action, hs.before, hends⟩))
    · refine .inr (.inl ⟨.start i, env, by rw [hs.action]; rfl, ?_⟩)
      simp [World.shutdownPc, hs.before, hsh]
  · rw [hc] at hd
    rcases ClosePc.step_state hs.step hd with hst | hsh
    · exact .inl hst
    · refine .inr (.inl ⟨.close i, env, by rw [hs.action]; rfl, ?_⟩)
      simp [World.shutdownPc, hs.before, hsh]
  · rw [hc] at hd
    exact (Supervisor.step_state hs.step hd).imp_right fun hends =>
      .inr (.inr ⟨k, env, s, hs.action, hs.before, hends⟩)

/-- The invariant holds initially. -/
lemma CleanInvariant.init : CleanInvariant new where
  lock := .init
  cleared := by rintro (i | i) s f h <;> simp [shutdownPc, new] at h
  failed := fun i pc f h => by simp [new] at h
  taken := fun k s h => by simp [new] at h
  clean := fun _ _ f => by cases f <;> rfl

/-- A connecting `start` is found. -/
lemma connecting_of_getElem? {i : ℕ} {pc : StartPc} (hi : w.starts[i]? = some pc)
    (hpc : pc.connecting = true) : w.connecting = true :=
  List.any_eq_true.mpr ⟨pc, List.mem_of_getElem? hi, hpc⟩

/-- A supervisor at work that has taken the runtime is found. -/
lemma runtimeTaken_of_getElem? {k : ℕ} {n : Option ℕ} {s : Supervisor}
    (hk : w.supervisors[k]? = some s) (hs : s.keepsNone = true) (hn : n ≠ some k) :
    w.runtimeTaken n = true := by
  refine List.any_eq_true.mpr ⟨k, List.mem_range.mpr (List.getElem?_eq_some_iff.mp hk).1, ?_⟩
  simp [hk, hs, hn]

/-- The condition on the steps of a `start`. -/
lemma LeavesClean.start {i : ℕ} {env : Env} {pc : StartPc}
    (h : w.LeavesClean options (.start i env)) (hi : w.starts[i]? = some pc) :
    pc.forgets w.core = false ∧
      (w.sinkFails options (.start i env) = true → w.core.control.state ≠ .disconnected) ∧
      (pc.fills = some .runtime → w.runtimeTaken none = false) := by
  simp only [LeavesClean, leavesDirty, hi, Bool.or_eq_false_iff, Bool.and_eq_false_iff,
    decide_eq_false_iff_not] at h
  obtain ⟨⟨hforgets, hsink⟩, hrt⟩ := h
  exact ⟨hforgets, fun hs => hsink.resolve_left (by simp [hs]),
    fun hf => hrt.resolve_left (not_not_intro hf)⟩

/-- The condition on the steps of a supervisor. -/
lemma LeavesClean.supervisor {k : ℕ} {env : Env} {s : Supervisor}
    (h : w.LeavesClean options (.supervisor k env)) (hk : w.supervisors[k]? = some s) :
    (w.connecting = false → s.pc.forgets w.core = false) ∧
      ∀ f, s.pc.fills = some f →
        (w.connecting = false → w.core.control.state ≠ .disconnected) ∧ w.cleared f = false ∧
          (f = .runtime → w.runtimeTaken (some k) = false) := by
  simp only [LeavesClean, leavesDirty, hk, Bool.or_eq_false_iff, Bool.and_eq_false_iff,
    Bool.not_eq_false'] at h
  refine ⟨fun hc => h.1.resolve_right (by simp [hc]), fun f hf => ?_⟩
  have hfill := h.2
  simp only [hf, Bool.or_eq_false_iff, Bool.and_eq_false_iff, decide_eq_false_iff_not,
    Bool.not_eq_false'] at hfill
  obtain ⟨⟨hstate, hcleared⟩, hrt⟩ := hfill
  exact ⟨fun hc => hstate.resolve_right (by simp [hc]), hcleared,
    fun hf => hrt.resolve_left (not_not_intro hf)⟩

/-- What a shutdown has cleared stays empty.

**Proof sketch.** The step of the shutdown itself fills nothing. Another `start` that fills a field
would hold the lock; a supervisor does not by the condition. -/
lemma CleanInvariant.cleared_step (h : CleanInvariant w) (hok : w.LeavesClean options a)
    (hstep : Step options w a w') {t : Task} {s : ShutdownPc} {f : SessionField}
    (ht : w'.shutdownPc t = some s) (hs : s.cleared f = true) : w'.core.filled f = false := by
  rcases hstep.shutdownPc ht with hsame | rfl | ⟨s₀, e, env, -, hs₀, hr, hcore⟩
  · by_contra hf
    rcases hstep.filled (by simpa using hf) with hold | ⟨i, env, pc, rfl, hi, hfill⟩ |
      ⟨k, env, sv, rfl, hk, hfill⟩
    · simp [h.cleared t s f hsame hs] at hold
    · have hl : w.locked (.start i) = true := by
        simp [locked, hi, StartPc.locked_of_connecting (StartPc.connecting_of_fills hfill)]
      obtain rfl := h.lock.eq (locked_of_shutdownPc hsame) hl
      simp only [shutdownPc, hi, Option.bind_some] at hsame
      rw [StartPc.fills_of_shutdown? hsame] at hfill
      cases hfill
    · have hcleared := ((hok.supervisor hk).2 f hfill).2.1
      rw [World.cleared, Bool.or_eq_false_iff, List.any_eq_false] at hcleared
      exact hcleared.1 s (mem_shutdowns hsame) hs
  · cases hs
  · rw [hcore]
    exact ShutdownPc.cleared_of_step hr (fun g hg => h.cleared t s₀ g hs₀ hg) hs

/-- What the error branch of a `start` has cleared stays empty.

**Proof sketch.** As for shutdowns: the `start` holds the lock. -/
lemma CleanInvariant.failed_step (h : CleanInvariant w) (hok : w.LeavesClean options a)
    (hstep : Step options w a w') {i : ℕ} {pc' : StartPc} {f : SessionField}
    (hi : w'.starts[i]? = some pc') (hf : pc'.cleared f = true) : w'.core.filled f = false := by
  rcases hstep.starts i with heq | ⟨-, -, hnew⟩ | ⟨pc, pc₁, e, env, hs⟩
  · rw [heq] at hi
    by_contra hne
    rcases hstep.filled (by simpa using hne) with hold | ⟨j, env, pc, rfl, hj, hfill⟩ |
      ⟨k, env, s, rfl, hk, hfill⟩
    · simp [h.failed i pc' f hi hf] at hold
    · have hlj : w.locked (.start j) = true := by
        simp [locked, hj, StartPc.locked_of_connecting (StartPc.connecting_of_fills hfill)]
      have hli : w.locked (.start i) = true := by
        simp [locked, hi, StartPc.locked_of_connecting (StartPc.connecting_of_cleared hf)]
      obtain ⟨⟩ := h.lock.eq hli hlj
      cases hi.symm.trans hj
      rw [StartPc.fills_of_cleared hf] at hfill
      cases hfill
    · have hcleared := ((hok.supervisor hk).2 f hfill).2.1
      rw [World.cleared, Bool.or_eq_false_iff, List.any_eq_false] at hcleared
      exact List.any_eq_false.mp hcleared.2 pc' (List.mem_of_getElem? hi) hf
  · cases hi.symm.trans hnew
    cases hf
  · cases hi.symm.trans hs.after
    rw [hs.core]
    exact StartPc.cleared_of_step hs.step (fun g hg => h.failed i pc g hs.before hg) hf

/-- No runtime is stored behind a supervisor that has taken it.

**Proof sketch.** The supervisor stores a new one by the step that ends this; nobody else does by
the condition. -/
lemma CleanInvariant.taken_step (h : CleanInvariant w) (hok : w.LeavesClean options a)
    (hstep : Step options w a w') {k : ℕ} {s' : Supervisor} (hk : w'.supervisors[k]? = some s')
    (hs' : s'.keepsNone = true) : w'.core.runtime = none := by
  by_contra hrt
  have hfilled : w'.core.filled .runtime = true := by
    simpa [Core.filled, Control.filled, Option.isSome_iff_ne_none] using hrt
  have hold : w.core.filled .runtime = true → w.core.runtime ≠ none := by
    intro hf hnone
    simp [Core.filled, Control.filled, hnone] at hf
  by_cases hown : ∃ env, a = .supervisor k env
  · obtain ⟨env, rfl⟩ := hown
    obtain ⟨s, s₁, e, hs⟩ := hstep.supervisorStep
    cases hk.symm.trans hs.after
    have htook : s'.pc.tookRuntime = true := (Bool.and_eq_true_iff.mp hs').1
    rcases Supervisor.tookRuntime_of_step hs.step htook with hnone | ⟨htook₀, hne⟩
    · exact hrt (hs.core ▸ hnone)
    · have hkeeps : s.keepsNone = true := by
        have hrunning := hs.running
        simp only [Supervisor.keepsNone, htook₀, Bool.true_and]
        simpa [imp_iff_not_or] using hrunning
      rcases hstep.filled hfilled with hf | ⟨i, env', pc, ha, -⟩ | ⟨k', env', s₂, ha, hk', hfill⟩
      · exact hold hf (h.taken k s hs.before hkeeps)
      · cases ha
      · cases ha
        cases hs.before.symm.trans hk'
        exact hne hfill
  · have htaken : ∃ s, w.supervisors[k]? = some s ∧ s.keepsNone = true := by
      rcases hstep.supervisors hk with ⟨hsame, -⟩ | ⟨s, hs, rfl, -⟩ | ⟨s, -, -, rfl⟩ |
        ⟨s, e, env, hs⟩ | ⟨-, hnew, -⟩
      · exact ⟨s', hsame, hs'⟩
      · refine ⟨s, hs, ?_⟩
        simp only [Supervisor.keepsNone, Bool.true_and, Bool.not_not, Bool.and_eq_true] at hs' ⊢
        exact ⟨hs'.1, by simp [hs'.2]⟩
      · cases hs'
      · exact absurd ⟨env, hs.action⟩ hown
      · simp [Supervisor.keepsNone, hnew, SupervisorPc.tookRuntime] at hs'
    obtain ⟨s, hs, hkeeps⟩ := htaken
    rcases hstep.filled hfilled with hf | ⟨i, env, pc, rfl, hi, hfill⟩ |
      ⟨k', env, s₂, rfl, hk', hfill⟩
    · exact hold hf (h.taken k s hs hkeeps)
    · have hnot := (hok.start hi).2.2 hfill
      simp [runtimeTaken_of_getElem? hs hkeeps (n := none) (by simp)] at hnot
    · have hnot := ((hok.supervisor hk').2 _ hfill).2.2 rfl
      have hne : some k' ≠ some k := by
        rintro ⟨⟩
        exact hown ⟨env, rfl⟩
      simp [runtimeTaken_of_getElem? hs hkeeps hne] at hnot

/-- A `start` that ends the connection leaves all fields empty, when it forgets none. -/
lemma CleanInvariant.clean_of_start_ends (h : CleanInvariant w) {i : ℕ} {pc : StartPc}
    (hi : w.starts[i]? = some pc) (hends : pc.ends = true) (hforgets : pc.forgets w.core = false)
    (f : SessionField) : w.core.filled f = false := by
  cases pc with
  | stopped =>
    simp only [StartPc.forgets, Bool.not_eq_false'] at hforgets
    exact w.core.clean_iff.mp hforgets f
  | failState =>
    cases f with
    | resume => exact hforgets
    | _ => exact h.failed i _ _ hi rfl
  | _ => cases hends

/-- A supervisor that ends the connection leaves all fields empty, when it forgets none. -/
lemma CleanInvariant.clean_of_supervisor_ends (h : CleanInvariant w) {k : ℕ} {s : Supervisor}
    (hk : w.supervisors[k]? = some s) (hends : s.pc.ends = true)
    (hforgets : s.pc.forgets w.core = false) (f : SessionField) : w.core.filled f = false := by
  cases hs : s.pc with
  | setDisconnected reason =>
    simp only [hs, SupervisorPc.forgets, Bool.not_eq_false'] at hforgets
    exact w.core.clean_iff.mp hforgets f
  | giveUp reason =>
    simp only [hs, SupervisorPc.forgets, Bool.or_eq_false_iff] at hforgets
    obtain ⟨⟨⟨hresume, hid⟩, hdata⟩, hmessages⟩ := hforgets
    have hkeeps : s.keepsNone = true := by
      simp [Supervisor.keepsNone, hs, SupervisorPc.tookRuntime, SupervisorPc.mayRun]
    cases f with
    | runtime => simp [Core.filled, Control.filled, h.taken k s hk hkeeps]
    | resume => exact hresume
    | connectionId => exact hid
    | remainingHandshakeData => exact hdata
    | initialMessages => exact hmessages
  | _ =>
    rw [hs] at hends
    cases hends

/-- Fields that are all empty are all empty after the step of a `start` that fills none. -/
lemma clean_of_start {i : ℕ} {env : Env} {pc : StartPc} (hstep : Step options w (.start i env) w')
    (hi : w.starts[i]? = some pc) (hpc : pc.fills = none) (hclean : ∀ f, w.core.filled f = false)
    (f : SessionField) : w'.core.filled f = false := by
  by_contra hf
  rcases hstep.filled (by simpa using hf) with hold | ⟨i', env', pc', ha, hi', hfill⟩ |
    ⟨k, env', s, ha, -⟩
  · simp [hclean f] at hold
  · cases ha
    cases hi.symm.trans hi'
    rw [hpc] at hfill
    cases hfill
  · cases ha

/-- The fields after a step of a `start` that was connecting, when no `start` is any more.

**Proof sketch.** It has set the state: to `Connected`, which is not the case here, at the end of
the error branch, where the condition speaks, or at the end of a shutdown, which has cleared
everything. Or its shutdown has failed, and the connection had not ended. -/
lemma CleanInvariant.clean_start {i : ℕ} {env : Env} {pc pc' : StartPc} {e : Effect}
    (h : CleanInvariant w) (hok : w.LeavesClean options a) (hstep : Step options w a w')
    (hs : StartStep options w w' a i pc pc' e env) (hpc : pc.connecting = true)
    (hd : w'.core.control.state = .disconnected) (hconn : w'.connecting = false)
    (f : SessionField) :
    w'.core.filled f = false := by
  cases hs.action
  obtain ⟨hforgets, hsinks, -⟩ := hok.start hs.before
  rcases StartPc.connecting_of_step hs.step hpc with
    hpc' | ⟨m, rfl⟩ | hends | hsh | ⟨rt, rfl, hsink⟩
  · simp [connecting_of_getElem? hs.after hpc'] at hconn
  · cases hs.step
    rw [hs.core] at hd
    cases hd
  · exact clean_of_start hstep hs.before (StartPc.fills_of_ends hends)
      (h.clean_of_start_ends hs.before hends hforgets) f
  · refine clean_of_start hstep hs.before (StartPc.fills_of_shutdown? hsh) (fun g => ?_) f
    exact h.cleared (.start i) .setDisconnected g (by simp [shutdownPc, hs.before, hsh]) rfl
  · have hfails : w.sinkFails options (.start i env) = true := by
      simp [sinkFails, Action.task?, shutdownPc, hs.before, StartPc.shutdown?, hsink]
    have hstate : w'.core.control.state = w.core.control.state := by
      rw [hs.core, Core.applyOp_control]
      cases hs.step
      rfl
    exact absurd (hstate ▸ hd) (hsinks hfails)

/-- **Steps keep the invariant** under the condition.

**Proof sketch.** While a `start` is connecting nothing is to show, and when it stops `clean_start`
applies. Otherwise the fields are empty before the step, in each of the ways to end a connection,
and no task fills one. -/
theorem CleanInvariant.step (h : CleanInvariant w) (hok : w.LeavesClean options a)
    (hstep : Step options w a w') : CleanInvariant w' := by
  refine ⟨h.lock.step hstep, fun t s f ht hs => h.cleared_step hok hstep ht hs,
    fun i pc f hi hf => h.failed_step hok hstep hi hf,
    fun k s hk hs => h.taken_step hok hstep hk hs, fun hd hconn f => ?_⟩
  cases hc : w.connecting with
  | true =>
    obtain ⟨pc, hmem, hpc⟩ := List.any_eq_true.mp hc
    obtain ⟨i, hi⟩ := List.getElem?_of_mem hmem
    rcases hstep.starts i with heq | ⟨-, hnone, -⟩ | ⟨pc₀, pc', e, env, hs⟩
    · simp [connecting_of_getElem? (heq.trans hi) hpc] at hconn
    · rw [hi] at hnone
      cases hnone
    · cases hi.symm.trans hs.before
      exact h.clean_start hok hstep hs hpc hd hconn f
  | false =>
    have hclean : ∀ g, w.core.filled g = false := by
      rcases hstep.disconnected hd with hst | ⟨t, env, -, hsh⟩ | ⟨i, env, pc, rfl, hi, hends⟩ |
        ⟨k, env, s, rfl, hk, hends⟩
      · exact h.clean hst hc
      · exact fun g => h.cleared t _ g hsh rfl
      · exact h.clean_of_start_ends hi hends (hok.start hi).1
      · exact h.clean_of_supervisor_ends hk hends ((hok.supervisor hk).1 hc)
    by_contra hf
    rcases hstep.filled (by simpa using hf) with hold | ⟨i, env, pc, rfl, hi, hfill⟩ |
      ⟨k, env, s, rfl, hk, hfill⟩
    · simp [hclean f] at hold
    · simp [connecting_of_getElem? hi (StartPc.connecting_of_fills hfill)] at hc
    · have hstate := ((hok.supervisor hk).2 f hfill).1 hc
      rcases hstep.disconnected hd with hst | ⟨t, env', ha, -⟩ | ⟨i, env', pc, ha, -⟩ |
        ⟨k', env', s', ha, hk', hends⟩
      · exact hstate hst
      · cases ha
      · cases ha
      · cases ha
        cases hk.symm.trans hk'
        rw [SupervisorPc.fills_of_ends hends] at hfill
        cases hfill

/-! ## Runs -/

/-- No `start` is connecting while nothing is at work. -/
lemma Idle.connecting (h : Idle w) : w.connecting = false := by
  refine List.any_eq_false.mpr fun pc hpc => ?_
  have hidle := h.starts pc hpc
  cases pc <;> simp_all [StartPc.idle, StartPc.connecting]

/-- No task has a runtime while nothing is at work. -/
lemma Idle.dispatching (h : Idle w) :
    w.dispatching = (w.core.runtime.map HubRuntime.transport).toList := by
  have hstarts : w.starts.filterMap StartPc.transport? = [] := by
    refine List.filterMap_eq_nil_iff.mpr fun pc hpc => ?_
    have hidle := h.starts pc hpc
    cases pc <;> first | rfl | cases hidle
  have hcloses : w.closes.filterMap ClosePc.transport? = [] := by
    refine List.filterMap_eq_nil_iff.mpr fun pc hpc => ?_
    have hidle := h.closes pc hpc
    cases pc <;> first | rfl | cases hidle
  have hsupervisors : (w.supervisors.filterMap fun s => s.pc.transport?) = [] := by
    refine List.filterMap_eq_nil_iff.mpr fun s hs => ?_
    have hidle := h.supervisors s hs
    cases hpc : s.pc <;> rw [hpc] at hidle <;> first | rfl | cases hidle
  simp [World.dispatching, hstarts, hcloses, hsupervisors]

/-- Empty fields are a clean end when nothing is at work. -/
lemma Idle.cleanEnd (h : Idle w) (hclean : ∀ f, w.core.filled f = false) : CleanEnd w := by
  have hrt : w.core.runtime = none := by
    have := hclean .runtime
    simpa [Core.filled, Control.filled] using this
  refine ⟨hrt, ?_, ?_, ?_, ?_, ?_⟩
  · have := hclean .resume
    simpa [Core.filled, Control.filled] using this
  · have := hclean .connectionId
    simpa [Core.filled, Control.filled] using this
  · have := hclean .remainingHandshakeData
    simpa [Core.filled, Control.filled] using this
  · have := hclean .initialMessages
    simpa [Core.filled, Control.filled] using this
  · rw [h.dispatching, hrt]
    rfl

/-- The server answers with a connection id and first messages, and the first ping is not written.
-/
def unpinged : Env where
  connected := .ok ⟨some "connection", false, some (.text "\x7b\x7d"), [.ping]⟩
  outcome := .error (.webSocket "broken pipe")

/-- `start` fails. -/
def failStart : List Action := .newStart :: List.replicate 21 (.start 0 unpinged)

/-- A connection without an id is established and lost, and the policy gives up at once. -/
def exhaustPolicy : List Action :=
  .newStart :: List.replicate 23 (.start 1 {}) ++ supervisorRun 11 .lost

/-- A stateful connection is established and closed. -/
def closeStateful : List Action :=
  .newStart :: List.replicate 23 (.start 2 .resumable) ++
    .newClose :: List.replicate 20 (.close 0 {})

/-- What a run is looked at for: whether everything is idle, the state, and whether the fields are
empty. -/
def endSummary (w : World) : (Bool × Bool × Bool) × HubConnectionState × Bool :=
  (w.summary.1, w.core.control.state, w.core.clean)

/-- A connection without a reconnect policy is lost. -/
def loseStateful : List Action := startRun .resumable ++ supervisorRun 7 .lost

end World

end Signalrr.HubConnection
