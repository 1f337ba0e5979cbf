import Signalrr.HubConnection.CallSteps

set_option relaxedAutoImplicit false
set_option autoImplicit false

/-!
# The lock of start and close

`connect_operation` in `src/hub_connection/mod.rs`: `start` holds it while it connects, `close`
while it shuts the connection down. Supervisors do not take it.

## Main definitions

* `Signalrr.HubConnection.World.locked` — whether a task is where it holds the lock.
* `Signalrr.HubConnection.World.shutdownPc` — where a task is in `shutdown_active_connection`.
* `Signalrr.HubConnection.World.TaskStep` — what steps of `start` and `close` have in common.

## Main results

* `Signalrr.HubConnection.World.LockHeld.step` — a task that is where it holds the lock holds it, so
  there is only one such task.
-/

namespace Signalrr.HubConnection

open Hub

/-! ## Places -/

/-- The places at which `start` holds the lock. -/
def StartPc.locked : StartPc → Bool
  | readState | setConnecting | clearClosing | sendStop | lock | returned _ => false
  | _ => true

/-- The places at which `close` holds the lock. -/
def ClosePc.locked : ClosePc → Bool
  | shutdown _ | unlock _ => true
  | _ => false

/-- Where a `start` is in `shutdown_active_connection`. -/
def StartPc.shutdown? : StartPc → Option ShutdownPc
  | shutdown pc => some pc
  | _ => none

/-- Where a `close` is in `shutdown_active_connection`. -/
def ClosePc.shutdown? : ClosePc → Option ShutdownPc
  | shutdown pc => some pc
  | _ => none

/-- A `start` that shuts the connection down holds the lock. -/
lemma StartPc.locked_of_shutdown? {pc : StartPc} {s : ShutdownPc} (h : pc.shutdown? = some s) :
    pc.locked = true := by
  cases pc <;> first | rfl | cases h

/-- A `close` that shuts the connection down holds the lock. -/
lemma ClosePc.locked_of_shutdown? {pc : ClosePc} {s : ShutdownPc} (h : pc.shutdown? = some s) :
    pc.locked = true := by
  cases pc <;> first | rfl | cases h

/-! ## Operations -/

/-- What an operation does to `Control`. -/
def Op.onControl (op : Op) (c : Control) : Control :=
  match op with
  | .control c' => c'
  | _ => c

/-- Only one operation touches `Control`. -/
@[simp] lemma Core.applyOp_control (options : ConnectionOptions) (c : Core) (op : Op) :
    (c.applyOp options op).control = op.onControl c.control := by
  cases op with
  | storeRuntime connection transport b writes =>
    cases writes with
    | none => rfl
    | some writes =>
      simp only [applyOp, resend]
      split <;> rfl
  | storeBuffer stateful => cases stateful <;> rfl
  | shutdownRuntime rt write outcome =>
    obtain ⟨buffers, hcore, -⟩ := shutdown_eq options c rt write outcome
    simp only [applyOp, hcore, Op.onControl]
  | _ => rfl

section Tasks

variable {options : ConnectionOptions} {c : Core} {env : Env} {e : Effect} {receivers : Bool}
  {i n : ℕ}

/-- A shutdown leaves the lock alone. -/
lemma ShutdownPc.step_connectOperation {pc pc' : ShutdownPc}
    (h : pc.step options c env = some (e, pc')) :
    (e.op.onControl c.control).connectOperation = c.control.connectOperation := by
  cases pc <;> cases h <;> simp [Op.onControl, Effect.skip, Effect.control]

/-- A `start` inside the shutdown takes a step of the shutdown, or leaves it. -/
lemma StartPc.step_shutdown {s : ShutdownPc} {pc' : StartPc}
    (h : (shutdown s).step options c receivers n i env = some (e, pc')) :
    (e = .skip c ∧ ∃ result, pc' = unlock result) ∨
      ∃ s', s.step options c env = some (e, s') ∧ pc' = shutdown s' := by
  cases s with
  | returned result =>
    cases h
    exact .inl ⟨rfl, _, rfl⟩
  | _ =>
    simp only [step, Option.map_eq_some_iff, Prod.mk.injEq] at h
    obtain ⟨⟨e', s'⟩, hs, rfl, rfl⟩ := h
    exact .inr ⟨s', hs, rfl⟩

/-- A `close` inside the shutdown takes a step of the shutdown, or leaves it. -/
lemma ClosePc.step_shutdown {s : ShutdownPc} {pc' : ClosePc}
    (h : (shutdown s).step options c receivers i env = some (e, pc')) :
    (e = .skip c ∧ ∃ result, pc' = unlock result) ∨
      ∃ s', s.step options c env = some (e, s') ∧ pc' = shutdown s' := by
  cases s with
  | returned result =>
    cases h
    exact .inl ⟨rfl, _, rfl⟩
  | _ =>
    simp only [step, Option.map_eq_some_iff, Prod.mk.injEq] at h
    obtain ⟨⟨e', s'⟩, hs, rfl, rfl⟩ := h
    exact .inr ⟨s', hs, rfl⟩

/-- What a step of a task does to the lock: nothing, or the task takes it, or the task releases
it. -/
def LockStep (t : Task) (locked locked' : Bool) (owner owner' : Option Task) : Prop :=
  locked' = locked ∧ owner' = owner ∨
    locked = false ∧ owner = none ∧ owner' = some t ∨
    locked = true ∧ locked' = false ∧ owner' = none

/-- `start` and the lock. -/
lemma StartPc.step_lock {pc pc' : StartPc}
    (h : pc.step options c receivers n i env = some (e, pc')) :
    LockStep (.start i) pc.locked pc'.locked c.control.connectOperation
      (e.op.onControl c.control).connectOperation := by
  cases pc with
  | shutdown s =>
    refine .inl ?_
    rcases step_shutdown h with ⟨rfl, result, rfl⟩ | ⟨s', hs, rfl⟩
    · exact ⟨rfl, rfl⟩
    · exact ⟨rfl, ShutdownPc.step_connectOperation hs⟩
  | _ =>
    simp only [step] at h
    repeat' split at h
    all_goals cases h
    all_goals simp_all [LockStep, locked, Op.onControl, Effect.skip, Effect.control]

/-- `close` and the lock. -/
lemma ClosePc.step_lock {pc pc' : ClosePc}
    (h : pc.step options c receivers i env = some (e, pc')) :
    LockStep (.close i) pc.locked pc'.locked c.control.connectOperation
      (e.op.onControl c.control).connectOperation := by
  cases pc with
  | shutdown s =>
    refine .inl ?_
    rcases step_shutdown h with ⟨rfl, result, rfl⟩ | ⟨s', hs, rfl⟩
    · exact ⟨rfl, rfl⟩
    · exact ⟨rfl, ShutdownPc.step_connectOperation hs⟩
  | _ =>
    simp only [step] at h
    repeat' split at h
    all_goals cases h
    all_goals simp_all [LockStep, locked, Op.onControl, Effect.skip, Effect.control]

/-- Without the lock, `start` changes nothing but `Control`. -/
lemma StartPc.step_unlocked {pc pc' : StartPc}
    (h : pc.step options c receivers n i env = some (e, pc')) (hl : pc.locked = false) :
    ∃ control, e.op = .control control := by
  cases pc with
  | lock =>
    simp only [step] at h
    split at h <;> cases h
    exact ⟨_, rfl⟩
  | readState | setConnecting | clearClosing | sendStop =>
    cases h
    exact ⟨_, rfl⟩
  | returned => cases h
  | _ => cases hl

/-- Without the lock, `close` changes nothing but `Control`. -/
lemma ClosePc.step_unlocked {pc pc' : ClosePc}
    (h : pc.step options c receivers i env = some (e, pc')) (hl : pc.locked = false) :
    ∃ control, e.op = .control control := by
  cases pc with
  | lock =>
    simp only [step] at h
    split at h <;> cases h
    exact ⟨_, rfl⟩
  | readState | register | notified | setDisconnecting | setClosing | sendStop =>
    cases h
    exact ⟨_, rfl⟩
  | waiting | returned => cases h
  | shutdown | unlock => cases hl

/-- `start` enters the shutdown at its beginning, and goes on by its steps. -/
lemma StartPc.step_shutdown? {pc pc' : StartPc} {s' : ShutdownPc}
    (h : pc.step options c receivers n i env = some (e, pc')) (hs' : pc'.shutdown? = some s') :
    s' = .abortSupervisor ∨
      ∃ s, pc.shutdown? = some s ∧ s.step options c env = some (e, s') := by
  cases pc with
  | shutdown s =>
    rcases step_shutdown h with ⟨rfl, result, rfl⟩ | ⟨s₁, hs, rfl⟩
    · cases hs'
    · cases hs'
      exact .inr ⟨s, rfl, hs⟩
  | recheckClosing n =>
    cases h
    refine .inl ?_
    split at hs' <;> cases hs'
    rfl
  | _ =>
    simp only [step] at h
    repeat' split at h
    all_goals cases h
    all_goals cases hs'

/-- `close` enters the shutdown at its beginning, and goes on by its steps. -/
lemma ClosePc.step_shutdown? {pc pc' : ClosePc} {s' : ShutdownPc}
    (h : pc.step options c receivers i env = some (e, pc')) (hs' : pc'.shutdown? = some s') :
    s' = .abortSupervisor ∨
      ∃ s, pc.shutdown? = some s ∧ s.step options c env = some (e, s') := by
  cases pc with
  | shutdown s =>
    rcases step_shutdown h with ⟨rfl, result, rfl⟩ | ⟨s₁, hs, rfl⟩
    · cases hs'
    · cases hs'
      exact .inr ⟨s, rfl, hs⟩
  | lock =>
    simp only [step] at h
    split at h <;> cases h
    cases hs'
    exact .inl rfl
  | readState =>
    cases h
    split at hs' <;> cases hs'
  | _ => cases h <;> cases hs'

/-- A supervisor leaves the lock alone. -/
lemma Supervisor.step_connectOperation {s s' : Supervisor}
    (h : s.step options c env = some (e, s')) :
    (e.op.onControl c.control).connectOperation = c.control.connectOperation := by
  unfold step at h
  split at h
  all_goals
    repeat' split at h
    all_goals cases h
    all_goals simp [Op.onControl, Effect.skip, Effect.control]

end Tasks

/-! ## Steps of start and close -/

namespace World

/-- A task is where it holds the lock. -/
def locked (w : World) : Task → Bool
  | .start i => (w.starts[i]?.map StartPc.locked).getD false
  | .close i => (w.closes[i]?.map ClosePc.locked).getD false

/-- Where a task is in `shutdown_active_connection`. -/
def shutdownPc (w : World) : Task → Option ShutdownPc
  | .start i => w.starts[i]?.bind StartPc.shutdown?
  | .close i => w.closes[i]?.bind ClosePc.shutdown?

variable {options : ConnectionOptions} {w w' : World} {a : Action} {t t' : Task} {e : Effect}

/-- What a step of `start` and one of `close` have in common: `t` takes a step with effect `e`, and
the places of the others stay. -/
structure TaskStep (options : ConnectionOptions) (w w' : World) (t : Task) (e : Effect) : Prop where
  core : w'.core = w.core.applyOp options e.op
  locked_ne : ∀ t' ≠ t, w'.locked t' = w.locked t'
  shutdownPc_ne : ∀ t' ≠ t, w'.shutdownPc t' = w.shutdownPc t'
  lock : LockStep t (w.locked t) (w'.locked t) w.core.control.connectOperation
    (e.op.onControl w.core.control).connectOperation
  /-- Without the lock, a task changes nothing but `Control`. -/
  unlocked : w.locked t = false → ∃ control, e.op = .control control
  /-- A shutdown is entered at its beginning, and goes on by its own steps. -/
  shutdown : ∀ s', w'.shutdownPc t = some s' → s' = .abortSupervisor ∨
    ∃ s env, w.shutdownPc t = some s ∧ s.step options w.core env = some (e, s')

/-- The places of the calls of `close` after the effect of a step. -/
lemma getElem?_closes_apply (options : ConnectionOptions) (w : World) (e : Effect) (j : ℕ) :
    (w.apply options e).closes[j]?.map ClosePc.locked = w.closes[j]?.map ClosePc.locked ∧
      (w.apply options e).closes[j]?.bind ClosePc.shutdown? =
        w.closes[j]?.bind ClosePc.shutdown? := by
  simp only [apply]
  split
  · rw [List.getElem?_map]
    cases w.closes[j]? with
    | none => exact ⟨rfl, rfl⟩
    | some pc => cases pc <;> exact ⟨rfl, rfl⟩
  · exact ⟨rfl, rfl⟩

/-- The places of the tasks after a new call of `start`. -/
lemma places_newStart (w : World) (t : Task) :
    ({ w with starts := w.starts ++ [.readState] } : World).locked t = w.locked t ∧
      ({ w with starts := w.starts ++ [.readState] } : World).shutdownPc t = w.shutdownPc t := by
  cases t with
  | start j =>
    simp only [locked, shutdownPc, List.getElem?_append, List.getElem?_singleton]
    by_cases hj : j < w.starts.length
    · simp [hj]
    · simp only [hj, if_false, List.getElem?_eq_none (not_lt.mp hj)]
      split <;> exact ⟨rfl, rfl⟩
  | close j => exact ⟨rfl, rfl⟩

/-- The places of the tasks after a new call of `close`. -/
lemma places_newClose (w : World) (t : Task) :
    ({ w with closes := w.closes ++ [.readState] } : World).locked t = w.locked t ∧
      ({ w with closes := w.closes ++ [.readState] } : World).shutdownPc t = w.shutdownPc t := by
  cases t with
  | start j => exact ⟨rfl, rfl⟩
  | close j =>
    simp only [locked, shutdownPc, List.getElem?_append, List.getElem?_singleton]
    by_cases hj : j < w.closes.length
    · simp [hj]
    · simp only [hj, if_false, List.getElem?_eq_none (not_lt.mp hj)]
      split <;> exact ⟨rfl, rfl⟩

/-- The places of the tasks after a step of a supervisor. -/
lemma places_supervisor (options : ConnectionOptions) (w : World) (e : Effect)
    (supervisors : List Supervisor) (t : Task) :
    ({ w.apply options e with supervisors := supervisors } : World).locked t = w.locked t ∧
      ({ w.apply options e with supervisors := supervisors } : World).shutdownPc t =
        w.shutdownPc t := by
  cases t with
  | start j => exact ⟨rfl, rfl⟩
  | close j =>
    obtain ⟨hl, hs⟩ := getElem?_closes_apply options w e j
    simp only [locked, shutdownPc, hl, hs, and_self]

/-- A step of `start`. -/
lemma taskStep_start {i n : ℕ} {env : Env} {pc pc' : StartPc} {receivers : Bool}
    (hi : w.starts[i]? = some pc)
    (h : pc.step options w.core receivers n i env = some (e, pc')) :
    TaskStep options w { w.apply options e with starts := w.starts.set i pc' } (.start i) e := by
  have hlt := (List.getElem?_eq_some_iff.mp hi).1
  have hl : w.locked (.start i) = pc.locked := by simp [locked, hi]
  have hs : w.shutdownPc (.start i) = pc.shutdown? := by simp [shutdownPc, hi]
  refine ⟨rfl, ?_, ?_, ?_, ?_, ?_⟩
  · rintro (j | j) hj
    · have hij : i ≠ j := fun hij => hj (hij ▸ rfl)
      simp [locked, List.getElem?_set_ne hij]
    · simp only [locked, (getElem?_closes_apply options w e j).1]
  · rintro (j | j) hj
    · have hij : i ≠ j := fun hij => hj (hij ▸ rfl)
      simp [shutdownPc, List.getElem?_set_ne hij]
    · exact (getElem?_closes_apply options w e j).2
  · rw [hl]
    simpa [locked, hlt] using StartPc.step_lock h
  · exact fun hf => StartPc.step_unlocked h (hl ▸ hf)
  · intro s' hs'
    have hpc' : pc'.shutdown? = some s' := by simpa [shutdownPc, hlt] using hs'
    rw [hs]
    exact (StartPc.step_shutdown? h hpc').imp_right fun ⟨s, hs, hstep⟩ => ⟨s, env, hs, hstep⟩

/-- A step of `close`. -/
lemma taskStep_close {i : ℕ} {env : Env} {pc pc' : ClosePc} {receivers : Bool}
    (hi : w.closes[i]? = some pc) (h : pc.step options w.core receivers i env = some (e, pc')) :
    TaskStep options w { w.apply options e with closes := (w.apply options e).closes.set i pc' }
      (.close i) e := by
  have hlt : i < (w.apply options e).closes.length := by
    have := (List.getElem?_eq_some_iff.mp hi).1
    simp only [apply]
    split <;> simpa
  have hl : w.locked (.close i) = pc.locked := by simp [locked, hi]
  have hs : w.shutdownPc (.close i) = pc.shutdown? := by simp [shutdownPc, hi]
  refine ⟨rfl, ?_, ?_, ?_, ?_, ?_⟩
  · rintro (j | j) hj
    · rfl
    · have hij : i ≠ j := fun hij => hj (hij ▸ rfl)
      simp only [locked, List.getElem?_set_ne hij, (getElem?_closes_apply options w e j).1]
  · rintro (j | j) hj
    · rfl
    · have hij : i ≠ j := fun hij => hj (hij ▸ rfl)
      simp only [shutdownPc, List.getElem?_set_ne hij, (getElem?_closes_apply options w e j).2]
  · rw [hl]
    simpa [locked, hlt] using ClosePc.step_lock h
  · exact fun hf => ClosePc.step_unlocked h (hl ▸ hf)
  · intro s' hs'
    have hpc' : pc'.shutdown? = some s' := by simpa [shutdownPc, hlt] using hs'
    rw [hs]
    exact (ClosePc.step_shutdown? h hpc').imp_right fun ⟨s, hs, hstep⟩ => ⟨s, env, hs, hstep⟩

/-- A task that shuts the connection down is where it holds the lock. -/
lemma locked_of_shutdownPc {s : ShutdownPc} (h : w.shutdownPc t = some s) : w.locked t = true := by
  cases t with
  | start i =>
    obtain ⟨pc, hpc, hs⟩ := Option.bind_eq_some_iff.mp h
    simp [locked, hpc, StartPc.locked_of_shutdown? hs]
  | close i =>
    obtain ⟨pc, hpc, hs⟩ := Option.bind_eq_some_iff.mp h
    simp [locked, hpc, ClosePc.locked_of_shutdown? hs]

/-! ## The lock -/

/-- A task that is where it holds the lock holds it. -/
def LockHeld (w : World) : Prop :=
  ∀ t, w.locked t = true → w.core.control.connectOperation = some t

/-- Only one task is where it holds the lock. -/
lemma LockHeld.eq (h : LockHeld w) (ht : w.locked t = true) (ht' : w.locked t' = true) :
    t = t' :=
  Option.some.inj ((h t ht).symm.trans (h t' ht'))

/-- Initially there are no tasks. -/
lemma LockHeld.init : LockHeld new := by
  rintro (i | i) h <;> simp [locked, new] at h

/-- Steps of `start` and `close`.

**Proof sketch.** A task that was where it holds the lock held it, so another one could not take
it, and only itself could release it. -/
lemma LockHeld.taskStep (h : LockHeld w) (hs : TaskStep options w w' t e) : LockHeld w' := by
  intro t' ht'
  rw [hs.core, Core.applyOp_control]
  by_cases htt : t' = t
  · subst htt
    rcases hs.lock with ⟨hl, ho⟩ | ⟨-, -, ho⟩ | ⟨-, hl, -⟩
    · rw [ho]
      exact h t' (hl ▸ ht')
    · exact ho
    · simp [hl] at ht'
  · have hheld := h t' (hs.locked_ne t' htt ▸ ht')
    rcases hs.lock with ⟨-, ho⟩ | ⟨-, ho, -⟩ | ⟨hl, -, -⟩
    · rw [ho]
      exact hheld
    · simp [ho] at hheld
    · exact absurd (h.eq (hs.locked_ne t' htt ▸ ht') hl) htt

/-- Steps that leave the places and the lock alone. -/
lemma LockHeld.congr (h : LockHeld w) (hl : ∀ t, w'.locked t = w.locked t)
    (ho : w'.core.control.connectOperation = w.core.control.connectOperation) : LockHeld w' :=
  fun t ht => ho.trans (h t (hl t ▸ ht))

/-- **The lock excludes**: steps keep that a task that is where it holds the lock holds it. -/
theorem LockHeld.step (h : LockHeld w) (hstep : Step options w a w') : LockHeld w' := by
  cases hstep with
  | newStart => exact h.congr (fun t => (places_newStart w t).1) rfl
  | newClose => exact h.congr (fun t => (places_newClose w t).1) rfl
  | start hi hr => exact h.taskStep (taskStep_start hi hr)
  | close hi hr => exact h.taskStep (taskStep_close hi hr)
  | @supervisor k env s s' e hk _ hr =>
    refine h.congr (fun t => (places_supervisor options w e _ t).1) ?_
    simpa [apply] using Supervisor.step_connectOperation hr
  | supervisorEnds => exact h
  | core ha hr =>
    have hsame := sameLifecycle_of_next (ne_op_of_coreEnabled ha) hr
    exact h.congr (fun _ => rfl) (by rw [hsame.control])

end World

end Signalrr.HubConnection
