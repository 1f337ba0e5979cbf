import Signalrr.HubConnection.ConnectOperation

set_option relaxedAutoImplicit false
set_option autoImplicit false

/-!
# What a step does to one task

Every step of a hub connection seen from one call of `start`, one call of `close`, one supervisor,
and from the fields of `Control`. Invariants about tasks are proved from these.

## Main definitions

* `Signalrr.HubConnection.World.StartStep`, `CloseStep`, `SupervisorStep` — a step of call `i` of
  `start`, of call `i` of `close`, of supervisor `k`.
* `Signalrr.HubConnection.ShutdownPc.stage` — the position of a place in
  `shutdown_active_connection`.
* `Signalrr.HubConnection.World.SinksClose` — closing the sink of a transport succeeds.

## Main results

* `Signalrr.HubConnection.World.Step.starts`, `Step.closes`, `Step.supervisors` — where a task is
  after a step.
* `Signalrr.HubConnection.World.Step.shutdownPc` — where the shutdown of a task is after a step.
* `Signalrr.HubConnection.World.Step.control` — the fields of `Control` after a step.
* `Signalrr.HubConnection.World.Step.handle` — the handle of the supervisor after a step.
-/

namespace Signalrr.HubConnection

open Hub

/-! ## Shutdowns -/

/-- The position of a place in the shutdown. -/
def ShutdownPc.stage : ShutdownPc → ℕ
  | abortSupervisor => 0
  | dispose => 1
  | cancelAll => 2
  | takeRuntime => 3
  | closeRuntime _ => 4
  | clearBuffer => 5
  | clearResume => 6
  | clearConnectionId => 7
  | clearHandshakeData => 8
  | clearInitialMessages => 9
  | setDisconnected => 10
  | invokeClosed => 11
  | notify => 12
  | returned _ => 13

section Shutdowns

variable {options : ConnectionOptions} {c : Core} {env : Env} {e : Effect} {receivers : Bool}
  {i n : ℕ} {s s' : ShutdownPc}

/-- A shutdown takes its places in turn. It has no runtime to close, or the sink of the runtime
fails. -/
lemma ShutdownPc.stage_of_step (h : s.step options c env = some (e, s')) :
    s'.stage = s.stage + 1 ∨ s = takeRuntime ∧ s' = clearBuffer ∨
      ∃ rt, s = closeRuntime rt ∧ (c.shutdown options rt env.write env.outcome).2.isOk = false := by
  cases s with
  | takeRuntime =>
    cases h
    split
    · exact .inr (.inl ⟨rfl, rfl⟩)
    · exact .inl rfl
  | closeRuntime rt =>
    cases h
    cases hr : (c.shutdown options rt env.write env.outcome).2 with
    | ok u => exact .inl rfl
    | error error => exact .inr (.inr ⟨rt, rfl, by rw [hr]; rfl⟩)
  | returned => cases h
  | _ =>
    cases h
    exact .inl rfl

/-- **A shutdown goes on**: it stays before stage `n` until it is right before it, or its sink
fails. -/
lemma ShutdownPc.stage_lt_of_step (h : s.step options c env = some (e, s')) (hn : 5 < n)
    (hs : s.stage < n) : s'.stage < n ∨ s.stage + 1 = n ∨
      ∃ rt, s = closeRuntime rt ∧ (c.shutdown options rt env.write env.outcome).2.isOk = false := by
  rcases stage_of_step h with heq | ⟨-, rfl⟩ | hsink
  · rw [heq]
    omega
  · exact .inl hn
  · exact .inr (.inr hsink)

/-- A `start` in a shutdown that has not returned takes a step of it. -/
lemma StartPc.step_of_shutdown? {pc pc' : StartPc}
    (h : pc.step options c receivers n i env = some (e, pc')) (hpc : pc.shutdown? = some s)
    (hs : ∀ result, s ≠ .returned result) :
    ∃ s', s.step options c env = some (e, s') ∧ pc' = shutdown s' := by
  cases pc with
  | shutdown s₀ =>
    cases hpc
    cases s with
    | returned result => exact absurd rfl (hs result)
    | _ =>
      simp only [step, Option.map_eq_some_iff, Prod.mk.injEq] at h
      obtain ⟨⟨e', s'⟩, hr, rfl, rfl⟩ := h
      exact ⟨s', hr, rfl⟩
  | _ => cases hpc

/-- A `close` in a shutdown that has not returned takes a step of it. -/
lemma ClosePc.step_of_shutdown? {pc pc' : ClosePc}
    (h : pc.step options c receivers i env = some (e, pc')) (hpc : pc.shutdown? = some s)
    (hs : ∀ result, s ≠ .returned result) :
    ∃ s', s.step options c env = some (e, s') ∧ pc' = shutdown s' := by
  cases pc with
  | shutdown s₀ =>
    cases hpc
    cases s with
    | returned result => exact absurd rfl (hs result)
    | _ =>
      simp only [step, Option.map_eq_some_iff, Prod.mk.injEq] at h
      obtain ⟨⟨e', s'⟩, hr, rfl, rfl⟩ := h
      exact ⟨s', hr, rfl⟩
  | _ => cases hpc

end Shutdowns

namespace World

variable {options : ConnectionOptions} {w w' : World} {a : Action}

/-! ## Steps of single tasks -/

/-- The task that takes a step, when it is a `start` or a `close`, with what it gets from
outside. -/
def Action.task? : Action → Option (Task × Env)
  | .start i env => some (.start i, env)
  | .close i env => some (.close i, env)
  | _ => none

/-- A step of call `i` of `start`, from `pc` to `pc'` with effect `e`. -/
structure StartStep (options : ConnectionOptions) (w w' : World) (a : Action) (i : ℕ)
    (pc pc' : StartPc) (e : Effect) (env : Env) : Prop where
  action : a = .start i env
  before : w.starts[i]? = some pc
  step : pc.step options w.core w.receivers w.supervisors.length i env = some (e, pc')
  after : w'.starts[i]? = some pc'
  core : w'.core = w.core.applyOp options e.op

/-- A step of call `i` of `close`, from `pc` to `pc'` with effect `e`. -/
structure CloseStep (options : ConnectionOptions) (w w' : World) (a : Action) (i : ℕ)
    (pc pc' : ClosePc) (e : Effect) (env : Env) : Prop where
  action : a = .close i env
  before : w.closes[i]? = some pc
  step : pc.step options w.core w.receivers i env = some (e, pc')
  after : w'.closes[i]? = some pc'
  core : w'.core = w.core.applyOp options e.op

/-- A step of supervisor `k`, from `s` to `s'` with effect `e`. -/
structure SupervisorStep (options : ConnectionOptions) (w w' : World) (a : Action) (k : ℕ)
    (s s' : Supervisor) (e : Effect) (env : Env) : Prop where
  action : a = .supervisor k env
  before : w.supervisors[k]? = some s
  running : ¬ (s.aborted = true ∧ s.pc.mayRun = false)
  step : s.step options w.core env = some (e, s')
  after : w'.supervisors[k]? = some s'
  core : w'.core = w.core.applyOp options e.op

/-- A new entry does not move the others. -/
lemma getElem?_concat_of_ne {α : Type} {l : List α} {i : ℕ} (x : α) (hi : i ≠ l.length) :
    (l ++ [x])[i]? = l[i]? := by
  rcases Nat.lt_or_gt_of_ne hi with hlt | hgt
  · exact List.getElem?_append_left hlt
  · rw [List.getElem?_eq_none hgt.le, List.getElem?_eq_none]
    rw [List.length_append, List.length_singleton]
    omega

/-- An entry of a list in which one entry was replaced. -/
lemma getElem?_set_cases {α : Type} {l : List α} {i j : ℕ} {x y : α}
    (h : (l.set i x)[j]? = some y) : (j = i ∧ y = x) ∨ (j ≠ i ∧ l[j]? = some y) := by
  rw [List.getElem?_set] at h
  split at h
  · rename_i hij
    split at h
    · exact .inl ⟨hij.symm, (Option.some.inj h).symm⟩
    · cases h
  · rename_i hij
    exact .inr ⟨Ne.symm hij, h⟩

/-- The effect of a step on the calls of `close`. -/
lemma getElem?_closes_apply_eq (options : ConnectionOptions) (w : World) (e : Effect) (j : ℕ) :
    (w.apply options e).closes[j]? = w.closes[j]? ∨
      e.notify = true ∧ w.closes[j]? = some .waiting ∧
        (w.apply options e).closes[j]? = some .notified := by
  simp only [apply]
  split
  · rename_i hn
    rw [List.getElem?_map]
    cases w.closes[j]? with
    | none => exact .inl rfl
    | some pc =>
      cases pc with
      | waiting => exact .inr ⟨hn, rfl, rfl⟩
      | _ => exact .inl rfl
  · exact .inl rfl

/-- The length of the list of calls of `close` does not change. -/
lemma length_closes_apply (options : ConnectionOptions) (w : World) (e : Effect) :
    (w.apply options e).closes.length = w.closes.length := by
  simp only [apply]
  split
  · exact List.length_map _
  · rfl

/-- The effect of a step on the supervisors: one may be aborted. -/
lemma getElem?_supervisors_apply {k : ℕ} {s : Supervisor} (options : ConnectionOptions) (e : Effect)
    (h : w.supervisors[k]? = some s) :
    (w.apply options e).supervisors[k]? =
      some (if e.abort = some k then { s with aborted := true } else s) := by
  have hk := (List.getElem?_eq_some_iff.mp h).1
  simp only [apply]
  cases e.abort with
  | none =>
    dsimp only
    rw [List.getElem?_append_left hk, if_neg (by simp)]
    exact h
  | some n =>
    dsimp only
    rw [List.getElem?_append_left (by rwa [List.length_modify]), List.getElem?_modify, h]
    by_cases hn : n = k
    · simp [hn]
    · simp [hn]

namespace Step

/-- **Call `i` of `start` after a step**: it has not moved, it is new, or the step is its own. -/
lemma starts (h : Step options w a w') (i : ℕ) :
    w'.starts[i]? = w.starts[i]? ∨
      (a = .newStart ∧ w.starts[i]? = none ∧ w'.starts[i]? = some .readState) ∨
      ∃ pc pc' e env, StartStep options w w' a i pc pc' e env := by
  cases h with
  | newStart =>
    by_cases hi : i = w.starts.length
    · subst hi
      exact .inr (.inl ⟨rfl, by simp, by simp⟩)
    · exact .inl (getElem?_concat_of_ne _ hi)
  | @start i' env pc pc' e hi h =>
    by_cases hii : i' = i
    · subst hii
      refine .inr (.inr ⟨pc, pc', e, env, rfl, hi, h, ?_, rfl⟩)
      exact List.getElem?_set_self (List.getElem?_eq_some_iff.mp hi).1
    · left
      exact List.getElem?_set_ne hii
  | newClose | close | supervisor | supervisorEnds | core => exact .inl rfl

/-- **Call `j` of `close` after a step**: it has not moved, it was notified, it is new, or the step
is its own. -/
lemma closes (h : Step options w a w') (j : ℕ) :
    w'.closes[j]? = w.closes[j]? ∨
      (w.closes[j]? = some .waiting ∧ w'.closes[j]? = some .notified) ∨
      (a = .newClose ∧ w.closes[j]? = none ∧ w'.closes[j]? = some .readState) ∨
      ∃ pc pc' e env, CloseStep options w w' a j pc pc' e env := by
  cases h with
  | newStart | core | supervisorEnds => exact .inl rfl
  | newClose =>
    by_cases hj : j = w.closes.length
    · subst hj
      exact .inr (.inr (.inl ⟨rfl, by simp, by simp⟩))
    · exact .inl (getElem?_concat_of_ne _ hj)
  | @start i env pc pc' e hi h =>
    rcases getElem?_closes_apply_eq options w e j with heq | ⟨-, hw, hn⟩
    · exact .inl heq
    · exact .inr (.inl ⟨hw, hn⟩)
  | @close i env pc pc' e hi h =>
    by_cases hij : i = j
    · subst hij
      refine .inr (.inr (.inr ⟨pc, pc', e, env, rfl, hi, h, ?_, rfl⟩))
      refine List.getElem?_set_self ?_
      rw [length_closes_apply]
      exact (List.getElem?_eq_some_iff.mp hi).1
    · rcases getElem?_closes_apply_eq options w e j with heq | ⟨-, hw, hn⟩
      · exact .inl ((List.getElem?_set_ne hij).trans heq)
      · exact .inr (.inl ⟨hw, (List.getElem?_set_ne hij).trans hn⟩)
  | @supervisor k env s s' e hk _ h =>
    rcases getElem?_closes_apply_eq options w e j with heq | ⟨-, hw, hn⟩
    · exact .inl heq
    · exact .inr (.inl ⟨hw, hn⟩)

/-- **The shutdown of a task after a step**: it has not moved, it begins, or the step is its own. -/
lemma shutdownPc (h : Step options w a w') {t : Task} {s' : ShutdownPc}
    (ht : w'.shutdownPc t = some s') :
    w.shutdownPc t = some s' ∨ s' = .abortSupervisor ∨
      ∃ s e env, Action.task? a = some (t, env) ∧ w.shutdownPc t = some s ∧
        s.step options w.core env = some (e, s') ∧ w'.core = w.core.applyOp options e.op := by
  cases t with
  | start i =>
    obtain ⟨pc₁, hpc₁, hs'⟩ := Option.bind_eq_some_iff.mp ht
    rcases h.starts i with heq | ⟨-, -, hnew⟩ | ⟨pc, pc', e, env, hs⟩
    · exact .inl (by simp [World.shutdownPc, ← heq, hpc₁, hs'])
    · cases hpc₁.symm.trans hnew
      cases hs'
    · cases hpc₁.symm.trans hs.after
      rcases StartPc.step_shutdown? hs.step hs' with hnew | ⟨s, hs₀, hstep⟩
      · exact .inr (.inl hnew)
      refine .inr (.inr ?_)
      exact ⟨s, e, env, by rw [hs.action]; rfl, by simp [World.shutdownPc, hs.before, hs₀], hstep,
        hs.core⟩
  | close i =>
    obtain ⟨pc₁, hpc₁, hs'⟩ := Option.bind_eq_some_iff.mp ht
    rcases h.closes i with heq | ⟨-, hnot⟩ | ⟨-, -, hnew⟩ | ⟨pc, pc', e, env, hs⟩
    · exact .inl (by simp [World.shutdownPc, ← heq, hpc₁, hs'])
    · cases hpc₁.symm.trans hnot
      cases hs'
    · cases hpc₁.symm.trans hnew
      cases hs'
    · cases hpc₁.symm.trans hs.after
      rcases ClosePc.step_shutdown? hs.step hs' with hnew | ⟨s, hs₀, hstep⟩
      · exact .inr (.inl hnew)
      refine .inr (.inr ?_)
      exact ⟨s, e, env, by rw [hs.action]; rfl, by simp [World.shutdownPc, hs.before, hs₀], hstep,
        hs.core⟩

/-- A shutdown that has not returned goes on: it has not moved, or the step is its own. -/
lemma shutdownPc_next (h : Step options w a w') {t : Task} {s : ShutdownPc}
    (ht : w.shutdownPc t = some s) (hs : ∀ result, s ≠ .returned result) :
    w'.shutdownPc t = some s ∨
      ∃ s' e env, Action.task? a = some (t, env) ∧ s.step options w.core env = some (e, s') ∧
        w'.shutdownPc t = some s' := by
  cases t with
  | start i =>
    obtain ⟨pc₀, hpc₀, hs₀⟩ := Option.bind_eq_some_iff.mp ht
    rcases h.starts i with heq | ⟨-, hnone, -⟩ | ⟨pc, pc', e, env, hst⟩
    · exact .inl (by simp [World.shutdownPc, heq, hpc₀, hs₀])
    · rw [hpc₀] at hnone
      cases hnone
    · cases hpc₀.symm.trans hst.before
      obtain ⟨s', hr, rfl⟩ := StartPc.step_of_shutdown? hst.step hs₀ hs
      refine .inr ⟨s', e, env, by rw [hst.action]; rfl, hr, ?_⟩
      simp [World.shutdownPc, hst.after, StartPc.shutdown?]
  | close i =>
    obtain ⟨pc₀, hpc₀, hs₀⟩ := Option.bind_eq_some_iff.mp ht
    rcases h.closes i with heq | ⟨hw, -⟩ | ⟨-, hnone, -⟩ | ⟨pc, pc', e, env, hst⟩
    · exact .inl (by simp [World.shutdownPc, heq, hpc₀, hs₀])
    · cases hpc₀.symm.trans hw
      cases hs₀
    · rw [hpc₀] at hnone
      cases hnone
    · cases hpc₀.symm.trans hst.before
      obtain ⟨s', hr, rfl⟩ := ClosePc.step_of_shutdown? hst.step hs₀ hs
      refine .inr ⟨s', e, env, by rw [hst.action]; rfl, hr, ?_⟩
      simp [World.shutdownPc, hst.after, ClosePc.shutdown?]

/-- A step of a supervisor. -/
lemma supervisorStep {k : ℕ} {env : Env} (h : Step options w (.supervisor k env) w') :
    ∃ s s' e, SupervisorStep options w w' (.supervisor k env) k s s' e env := by
  cases h with
  | @supervisor _ _ s s' e hk hrun h =>
    refine ⟨s, s', e, rfl, hk, hrun, h, List.getElem?_set_self ?_, rfl⟩
    have := getElem?_supervisors_apply options e hk
    exact (List.getElem?_eq_some_iff.mp this).1

/-- **The fields of `Control` after a step**: they are as before, or the step is one of a task. -/
lemma control (h : Step options w a w') :
    (w'.core.control = w.core.control ∧ Action.task? a = none) ∨
      (∃ i pc pc' e env, StartStep options w w' a i pc pc' e env ∧
        w'.core.control = e.op.onControl w.core.control) ∨
      (∃ i pc pc' e env, CloseStep options w w' a i pc pc' e env ∧
        w'.core.control = e.op.onControl w.core.control) ∨
      ∃ k s s' e env, SupervisorStep options w w' a k s s' e env ∧
        w'.core.control = e.op.onControl w.core.control := by
  cases h with
  | newStart | newClose | supervisorEnds => exact .inl ⟨rfl, rfl⟩
  | core ha hr => exact .inl ⟨(sameLifecycle_of_next (ne_op_of_coreEnabled ha) hr).control, rfl⟩
  | @start i env pc pc' e hi h =>
    refine .inr (.inl ⟨i, pc, pc', e, env, ⟨rfl, hi, h, ?_, rfl⟩, ?_⟩)
    · exact List.getElem?_set_self (List.getElem?_eq_some_iff.mp hi).1
    · exact Core.applyOp_control options w.core e.op
  | @close i env pc pc' e hi h =>
    refine .inr (.inr (.inl ⟨i, pc, pc', e, env, ⟨rfl, hi, h, ?_, rfl⟩, ?_⟩))
    · refine List.getElem?_set_self ?_
      rw [length_closes_apply]
      exact (List.getElem?_eq_some_iff.mp hi).1
    · exact Core.applyOp_control options w.core e.op
  | supervisor hk hrun h =>
    obtain ⟨s, s', e, hs⟩ := supervisorStep (.supervisor hk hrun h)
    refine .inr (.inr (.inr ⟨_, s, s', e, _, hs, ?_⟩))
    rw [hs.core]
    exact Core.applyOp_control options w.core e.op

end Step

/-! ## Supervisors -/

end World

/-- A `start` is about to abort the supervisor whose handle is stored. -/
def StartPc.aborts : StartPc → Bool
  | abortSupervisor _ | shutdown .abortSupervisor => true
  | _ => false

/-- A `close` is about to abort the supervisor whose handle is stored. -/
def ClosePc.aborts : ClosePc → Bool
  | shutdown .abortSupervisor => true
  | _ => false

/-- What the effect of a step does to the supervisors, when it aborts and spawns none. -/
structure Effect.KeepsSupervisors (e : Effect) (c : Core) : Prop where
  abort : e.abort = none
  spawn : e.spawn = none
  supervisor : (e.op.onControl c.control).supervisor = c.control.supervisor

/-- What the effect of a step does to the supervisors, when it takes the handle and aborts. -/
structure Effect.TakesSupervisor (e : Effect) (c : Core) : Prop where
  abort : e.abort = c.control.supervisor
  spawn : e.spawn = none
  supervisor : (e.op.onControl c.control).supervisor = none

section Tasks

variable {options : ConnectionOptions} {c : Core} {env : Env} {e : Effect} {receivers : Bool}
  {i n : ℕ}

/-- A shutdown and the supervisors. -/
lemma ShutdownPc.step_supervisor {s s' : ShutdownPc} (h : s.step options c env = some (e, s')) :
    e.KeepsSupervisors c ∧ s ≠ abortSupervisor ∨
      e.TakesSupervisor c ∧ s = abortSupervisor := by
  cases s with
  | abortSupervisor =>
    cases h
    exact .inr ⟨⟨rfl, rfl, rfl⟩, rfl⟩
  | invokeClosed =>
    cases h
    exact .inl ⟨⟨rfl, rfl, Control.invokeClosed_supervisor _ _⟩, fun hs => (by cases hs)⟩
  | returned => cases h
  | _ =>
    cases h
    exact .inl ⟨⟨rfl, rfl, rfl⟩, fun hs => (by cases hs)⟩

/-- `close` and the supervisors. -/
lemma ClosePc.step_supervisor {pc pc' : ClosePc}
    (h : pc.step options c receivers i env = some (e, pc')) :
    e.KeepsSupervisors c ∧ pc.aborts = false ∨ e.TakesSupervisor c ∧ pc.aborts = true := by
  cases pc with
  | shutdown s =>
    rcases step_shutdown h with ⟨rfl, result, rfl⟩ | ⟨s', hs, rfl⟩
    · cases s with
      | abortSupervisor => simp [step, ShutdownPc.step] at h
      | _ => exact .inl ⟨⟨rfl, rfl, rfl⟩, rfl⟩
    · rcases ShutdownPc.step_supervisor hs with ⟨hk, hne⟩ | ⟨ht, rfl⟩
      · refine .inl ⟨hk, ?_⟩
        cases s <;> first | rfl | exact absurd rfl hne
      · exact .inr ⟨ht, rfl⟩
  | lock =>
    simp only [step] at h
    split at h <;> cases h
    exact .inl ⟨⟨rfl, rfl, rfl⟩, rfl⟩
  | sendStop =>
    cases h
    exact .inl ⟨⟨rfl, rfl, Control.sendStop_supervisor _ _ _⟩, rfl⟩
  | waiting | returned => cases h
  | _ =>
    cases h
    exact .inl ⟨⟨rfl, rfl, rfl⟩, rfl⟩

/-- `start` and the supervisors. -/
lemma StartPc.step_supervisor {pc pc' : StartPc}
    (h : pc.step options c receivers n i env = some (e, pc')) :
    (e.KeepsSupervisors c ∧ pc.aborts = false ∧ (∀ m, pc ≠ spawn m) ∧ ∀ k, pc ≠ storeSupervisor k) ∨
      e.TakesSupervisor c ∧ pc.aborts = true ∨
      (∃ m, pc = spawn m ∧ pc' = storeSupervisor n ∧ e.abort = none ∧
        e.spawn = some m.connection ∧
        (e.op.onControl c.control).supervisor = c.control.supervisor) ∨
      ∃ k, pc = storeSupervisor k ∧ pc' = unlock (.ok ()) ∧ e.abort = none ∧ e.spawn = none ∧
        (e.op.onControl c.control).supervisor = some k := by
  cases pc with
  | shutdown s =>
    rcases step_shutdown h with ⟨rfl, result, rfl⟩ | ⟨s', hs, rfl⟩
    · cases s with
      | abortSupervisor => simp [step, ShutdownPc.step] at h
      | _ =>
        exact .inl ⟨⟨rfl, rfl, rfl⟩, rfl, fun m hm => (by cases hm), fun k hk => (by cases hk)⟩
    · rcases ShutdownPc.step_supervisor hs with ⟨hk, hne⟩ | ⟨ht, rfl⟩
      · refine .inl ⟨hk, ?_, fun m hm => (by cases hm), fun k hk => (by cases hk)⟩
        cases s <;> first | rfl | exact absurd rfl hne
      · exact .inr (.inl ⟨ht, rfl⟩)
  | abortSupervisor m =>
    cases h
    exact .inr (.inl ⟨⟨rfl, rfl, rfl⟩, rfl⟩)
  | spawn m =>
    cases h
    exact .inr (.inr (.inl ⟨m, rfl, rfl, rfl, rfl, rfl⟩))
  | storeSupervisor k =>
    cases h
    exact .inr (.inr (.inr ⟨k, rfl, rfl, rfl, rfl, rfl⟩))
  | sendStop =>
    cases h
    exact .inl ⟨⟨rfl, rfl, Control.sendStop_supervisor _ _ _⟩, rfl, fun m hm => (by cases hm),
      fun k hk => (by cases hk)⟩
  | _ =>
    simp only [step] at h
    repeat' split at h
    all_goals cases h
    all_goals
      exact .inl ⟨⟨rfl, rfl, rfl⟩, rfl, fun m hm => (by cases hm), fun k hk => (by cases hk)⟩

/-- A supervisor aborts and spawns none. -/
lemma Supervisor.step_supervisor {s s' : Supervisor} (h : s.step options c env = some (e, s')) :
    e.KeepsSupervisors c ∧ s'.aborted = s.aborted := by
  unfold step at h
  split at h
  all_goals
    repeat' split at h
    all_goals cases h
    all_goals refine ⟨⟨rfl, rfl, ?_⟩, rfl⟩
    all_goals simp [Op.onControl, Effect.skip, Effect.control]

end Tasks

namespace World

variable {options : ConnectionOptions} {w w' : World} {a : Action}

/-- The supervisors after an effect that aborts and spawns none. -/
lemma supervisors_apply_of_keeps {e : Effect} (h : e.KeepsSupervisors w.core) :
    (w.apply options e).supervisors = w.supervisors := by
  simp [apply, h.abort, h.spawn]

/-- The step aborts the supervisor whose handle is stored. -/
def aborts (w : World) : Action → Bool
  | .start i _ => (w.starts[i]?.map StartPc.aborts).getD false
  | .close i _ => (w.closes[i]?.map ClosePc.aborts).getD false
  | _ => false

/-- The supervisors after an effect that takes the handle and aborts. -/
lemma getElem?_supervisors_of_takes {e : Effect} {k : ℕ} {s' : Supervisor}
    (h : e.TakesSupervisor w.core) (hk : (w.apply options e).supervisors[k]? = some s') :
    (w.supervisors[k]? = some s' ∧ w.core.control.supervisor ≠ some k) ∨
      ∃ s, w.supervisors[k]? = some s ∧ s' = { s with aborted := true } ∧
        w.core.control.supervisor = some k := by
  have hlt : k < w.supervisors.length := by
    have := (List.getElem?_eq_some_iff.mp hk).1
    simp only [apply, h.spawn, List.append_nil] at this
    cases hab : e.abort with
    | none => simpa [hab] using this
    | some n => simpa [hab] using this
  obtain ⟨s, hs⟩ : ∃ s, w.supervisors[k]? = some s := ⟨_, List.getElem?_eq_getElem hlt⟩
  rw [getElem?_supervisors_apply options e hs, Option.some.injEq] at hk
  split at hk
  · rename_i hab
    exact .inr ⟨s, hs, hk.symm, h.abort.symm.trans hab⟩
  · rename_i hab
    exact .inl ⟨hs.trans (congrArg some hk), fun hsup => hab (h.abort.trans hsup)⟩

/-- **Supervisor `k` after a step**: it has not moved, it was aborted, its abort took effect, the
step is its own, or it is new. -/
lemma Step.supervisors (h : Step options w a w') {k : ℕ} {s' : Supervisor}
    (hk : w'.supervisors[k]? = some s') :
    (w.supervisors[k]? = some s' ∧ (w.aborts a = true → w.core.control.supervisor ≠ some k)) ∨
      (∃ s, w.supervisors[k]? = some s ∧ s' = { s with aborted := true } ∧
        w.core.control.supervisor = some k ∧ w.aborts a = true) ∨
      (∃ s, w.supervisors[k]? = some s ∧ s.aborted = true ∧ s' = { s with pc := .ended }) ∨
      (∃ s e env, SupervisorStep options w w' a k s s' e env) ∨
      (w.supervisors[k]? = none ∧ s'.pc = .select ∧ s'.aborted = false ∧
        ∃ i env m, a = .start i env ∧ w.starts[i]? = some (.spawn m) ∧
          w'.starts[i]? = some (.storeSupervisor k)) := by
  cases h with
  | newStart | newClose | core => exact .inl ⟨hk, fun h => by cases h⟩
  | @start i env pc pc' e hi hr =>
    have hk : (w.apply options e).supervisors[k]? = some s' := hk
    have haborts : w.aborts (.start i env) = pc.aborts := by simp [aborts, hi]
    rcases StartPc.step_supervisor hr with ⟨hkeep, hab, -⟩ | ⟨htake, hab⟩ |
      ⟨m, rfl, rfl, hab, hsp, -⟩ | ⟨n, rfl, -, hab, hsp, -⟩
    · rw [supervisors_apply_of_keeps hkeep] at hk
      exact .inl ⟨hk, fun h => by simp [haborts, hab] at h⟩
    · rcases getElem?_supervisors_of_takes htake hk with ⟨hk, hne⟩ | ⟨s, hs, rfl, hsup⟩
      · exact .inl ⟨hk, fun _ => hne⟩
      · exact .inr (.inl ⟨s, hs, rfl, hsup, haborts.trans hab⟩)
    · simp only [apply, hab, hsp] at hk
      by_cases hlt : k < w.supervisors.length
      · rw [List.getElem?_append_left hlt] at hk
        exact .inl ⟨hk, fun h => by simp [haborts, StartPc.aborts] at h⟩
      · rw [List.getElem?_append_right (not_lt.mp hlt)] at hk
        have hk0 := (List.getElem?_eq_some_iff.mp hk).1
        simp only [List.length_singleton] at hk0
        have hkl : k = w.supervisors.length := by omega
        subst hkl
        simp only [Nat.sub_self, List.getElem?_cons_zero, Option.some.injEq] at hk
        subst hk
        exact .inr (.inr (.inr (.inr ⟨List.getElem?_eq_none le_rfl, rfl, rfl, i, env, m, rfl, hi,
          List.getElem?_set_self (List.getElem?_eq_some_iff.mp hi).1⟩)))
    · rw [show (w.apply options e).supervisors = w.supervisors by simp [apply, hab, hsp]] at hk
      exact .inl ⟨hk, fun h => by simp [haborts, StartPc.aborts] at h⟩
  | @close i env pc pc' e hi hr =>
    have hk : (w.apply options e).supervisors[k]? = some s' := hk
    have haborts : w.aborts (.close i env) = pc.aborts := by simp [aborts, hi]
    rcases ClosePc.step_supervisor hr with ⟨hkeep, hab⟩ | ⟨htake, hab⟩
    · rw [supervisors_apply_of_keeps hkeep] at hk
      exact .inl ⟨hk, fun h => by simp [haborts, hab] at h⟩
    · rcases getElem?_supervisors_of_takes htake hk with ⟨hk, hne⟩ | ⟨s, hs, rfl, hsup⟩
      · exact .inl ⟨hk, fun _ => hne⟩
      · exact .inr (.inl ⟨s, hs, rfl, hsup, haborts.trans hab⟩)
  | @supervisor n env s s₁ e hn hrun hr =>
    have hkeep := (Supervisor.step_supervisor hr).1
    have hk : ((w.apply options e).supervisors.set n s₁)[k]? = some s' := hk
    rw [supervisors_apply_of_keeps hkeep] at hk
    by_cases hnk : n = k
    · subst hnk
      rw [List.getElem?_set_self (List.getElem?_eq_some_iff.mp hn).1] at hk
      cases hk
      refine .inr (.inr (.inr (.inl ⟨s, e, env, rfl, hn, hrun, hr, ?_, rfl⟩)))
      show ((w.apply options e).supervisors.set n s')[n]? = some s'
      rw [supervisors_apply_of_keeps hkeep]
      exact List.getElem?_set_self (List.getElem?_eq_some_iff.mp hn).1
    · rw [List.getElem?_set_ne hnk] at hk
      exact .inl ⟨hk, fun h => by cases h⟩
  | @supervisorEnds n s hn ha =>
    have hk : (w.supervisors.set n { s with pc := .ended })[k]? = some s' := hk
    by_cases hnk : n = k
    · subst hnk
      rw [List.getElem?_set_self (List.getElem?_eq_some_iff.mp hn).1] at hk
      cases hk
      exact .inr (.inr (.inl ⟨s, hn, ha, rfl⟩))
    · rw [List.getElem?_set_ne hnk] at hk
      exact .inl ⟨hk, fun h => by cases h⟩

/-- Supervisors stay in the list. -/
lemma Step.exists_supervisor (h : Step options w a w') {k : ℕ} {s : Supervisor}
    (hk : w.supervisors[k]? = some s) : ∃ s', w'.supervisors[k]? = some s' := by
  have hset : ∀ (l : List Supervisor) (n : ℕ) (s₁ : Supervisor), k < l.length →
      ∃ s', (l.set n s₁)[k]? = some s' := by
    intro l n s₁ hlt
    exact ⟨_, List.getElem?_eq_getElem (by rwa [List.length_set])⟩
  cases h with
  | newStart | newClose | core => exact ⟨s, hk⟩
  | @start _ _ _ _ e | @close _ _ _ _ e => exact ⟨_, getElem?_supervisors_apply options e hk⟩
  | @supervisor n env s₀ s₁ e hn _ _ =>
    exact hset _ n s₁ (List.getElem?_eq_some_iff.mp (getElem?_supervisors_apply options e hk)).1
  | @supervisorEnds n s₀ hn _ => exact hset _ n _ (List.getElem?_eq_some_iff.mp hk).1

/-- **The stored handle after a step**: it is as before, it was taken by an abort, or a `start` has
stored the one of its supervisor. -/
lemma Step.handle (h : Step options w a w') :
    (w'.core.control.supervisor = w.core.control.supervisor ∧ w.aborts a = false) ∨
      (w'.core.control.supervisor = none ∧ w.aborts a = true) ∨
      ∃ i env k, a = .start i env ∧ w.starts[i]? = some (.storeSupervisor k) ∧
        w'.starts[i]? = some (.unlock (.ok ())) ∧ w'.core.control.supervisor = some k := by
  rcases h.control with ⟨hc, ha⟩ | ⟨i, pc, pc', e, env, hs, hc⟩ | ⟨i, pc, pc', e, env, hs, hc⟩ |
    ⟨k, s, s', e, env, hs, hc⟩
  · refine .inl ⟨by rw [hc], ?_⟩
    cases a <;> first | rfl | cases ha
  · rw [hc]
    have haborts : w.aborts a = pc.aborts := by simp [hs.action, aborts, hs.before]
    rcases StartPc.step_supervisor hs.step with ⟨hkeep, hab, -⟩ | ⟨htake, hab⟩ |
      ⟨m, rfl, -, -, -, hsup⟩ | ⟨k, rfl, rfl, -, -, hsup⟩
    · exact .inl ⟨hkeep.supervisor, haborts.trans hab⟩
    · exact .inr (.inl ⟨htake.supervisor, haborts.trans hab⟩)
    · exact .inl ⟨hsup, haborts⟩
    · exact .inr (.inr ⟨i, env, k, hs.action, hs.before, hs.after, hsup⟩)
  · rw [hc]
    have haborts : w.aborts a = pc.aborts := by simp [hs.action, aborts, hs.before]
    rcases ClosePc.step_supervisor hs.step with ⟨hkeep, hab⟩ | ⟨htake, hab⟩
    · exact .inl ⟨hkeep.supervisor, haborts.trans hab⟩
    · exact .inr (.inl ⟨htake.supervisor, haborts.trans hab⟩)
  · rw [hc]
    refine .inl ⟨(Supervisor.step_supervisor hs.step).1.supervisor, ?_⟩
    rw [hs.action]
    rfl

/-! ## Sinks -/

/-- A shutdown closes its runtime, and the sink of the transport does not close. -/
def sinkFails (options : ConnectionOptions) (w : World) (a : Action) : Bool :=
  match Action.task? a with
  | none => false
  | some (t, env) =>
    match w.shutdownPc t with
    | some (.closeRuntime rt) => !(w.core.shutdown options rt env.write env.outcome).2.isOk
    | _ => false

/-- Closing the transport succeeds. -/
def SinksClose (options : ConnectionOptions) (w : World) (a : Action) : Prop :=
  w.sinkFails options a = false

instance (options : ConnectionOptions) (w : World) (a : Action) :
    Decidable (w.SinksClose options a) :=
  inferInstanceAs (Decidable (w.sinkFails options a = false))

/-- A shutdown whose sink closes goes on. -/
lemma SinksClose.shutdown {t : Task} {env : Env} {rt : HubRuntime} (h : w.SinksClose options a)
    (ha : Action.task? a = some (t, env)) (hs : w.shutdownPc t = some (.closeRuntime rt)) :
    (w.core.shutdown options rt env.write env.outcome).2 = .ok () := by
  simp only [SinksClose, sinkFails, ha, hs, Bool.not_eq_false'] at h
  cases hr : (w.core.shutdown options rt env.write env.outcome).2 with
  | ok u => rfl
  | error error =>
    rw [hr] at h
    cases h

end World

end Signalrr.HubConnection
