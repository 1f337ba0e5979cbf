import Signalrr.HubConnection.StartRace

set_option relaxedAutoImplicit false
set_option autoImplicit false

/-!
# Supervisors after a close

`shutdown_active_connection` in `src/hub_connection/mod.rs` aborts the supervisor and does not wait
for it. An aborted task goes on until it is suspended, so a supervisor that has just reconnected
still stores its runtime and sets the state to `Connected` when `close` has returned.

## Main definitions

* `Signalrr.HubConnection.SupervisorPc.reopens` — a supervisor is about to bring the connection
  back.
* `Signalrr.HubConnection.SupervisorPc.quiet` — an aborted supervisor is suspended or ends before it
  does so.
* `Signalrr.HubConnection.World.Supervised` — at most one supervisor is not aborted, and its handle
  is stored.
* `Signalrr.HubConnection.World.unsettled` — a `close` returns while a supervisor is not quiet, or
  while a `start` may still connect.

## Main results

* `Signalrr.HubConnection.World.Supervised.step` — steps keep the handle of the live supervisor.
* `Signalrr.HubConnection.World.stays_closed_of_meets` — no supervisor brings the connection back
  when no `close` returns unsettled.
* `Signalrr.HubConnection.World.reopened_after_close` — in general one may.
-/

namespace Signalrr.HubConnection

open Hub

/-! ## Places -/

/-- A supervisor is about to set the state to a value other than `Disconnected`, to store a runtime,
or to run the reconnecting or the reconnected callbacks. -/
def SupervisorPc.reopens : SupervisorPc → Bool
  | resumeStore .. | setReconnecting _ | invokeReconnecting _ | storeRuntime .. | setConnected _
  | invokeReconnected _ => true
  | _ => false

/-- The loss of a connection is final: there is no policy, or the server does not allow to
reconnect. -/
def ConnectionOptions.givesUp (options : ConnectionOptions) (info : TransportCloseInfo) : Bool :=
  options.reconnectPolicy.isNone || info.allowReconnect = some false

/-- An aborted supervisor is suspended or ends before it brings the connection back. -/
def SupervisorPc.quiet (options : ConnectionOptions) (closing : Bool) : SupervisorPc → Bool
  | select | resumeDisconnect .. | resumeAbort .. | reopen .. | setDisconnected _ | giveUp _
  | invokeClosed _ | recheckClosing _ | recheckState _ | sleep _ | loopClosing _ | loopStop _
  | loopState _ | connect _ | nextDelay _ | ended => true
  | checkClosing info => closing || options.givesUp info
  | readResume info | readBuffer info _ | cancelAll info => options.givesUp info
  | _ => false

/-- The supervisor has ended. -/
def SupervisorPc.hasEnded : SupervisorPc → Bool
  | ended => true
  | _ => false

/-- A `start` will not spawn a supervisor: it has returned or is about to, or it will find
`closing`. -/
def StartPc.refused (closing : Bool) : StartPc → Bool
  | stopped | shutdown _ | failRuntime _ | failConnectionId _ | failHandshakeData _
  | failInitialMessages _ | failState _ | unlock _ | returned _ => true
  | readState | setConnecting | clearClosing | setConnected _ | markStarted _ | abortSupervisor _
  | spawn _ | storeSupervisor _ => false
  | _ => closing

/-- A `start` has taken the handle of the old supervisor and not stored the one of the new one. -/
def StartPc.replacing : StartPc → Bool
  | spawn _ | storeSupervisor _ => true
  | _ => false

/-- A `close` has taken the handle of the supervisor. -/
def ClosePc.tookSupervisor : ClosePc → Bool
  | shutdown .abortSupervisor => false
  | shutdown _ | unlock _ => true
  | _ => false

/-! ## Steps of the tasks -/

section Tasks

variable {options : ConnectionOptions} {c : Core} {env : Env} {e : Effect} {receivers : Bool}
  {i n : ℕ}

/-- What a supervisor leaves alone while it does not bring the connection back. -/
structure Effect.KeepsClosed (e : Effect) (c : Core) : Prop where
  state : (e.op.onControl c.control).state = c.control.state ∨
    (e.op.onControl c.control).state = .disconnected
  runtime : e.op.storesRuntime = false
  reconnecting : (e.op.onControl c.control).reconnectingCallbacks = c.control.reconnectingCallbacks
  reconnected : (e.op.onControl c.control).reconnectedCallbacks = c.control.reconnectedCallbacks

/-- `invoke_closed` runs no other callbacks. -/
lemma Control.invokeClosed_callbacks (c : Control) (reason : Option String) :
    (c.invokeClosed reason).reconnectingCallbacks = c.reconnectingCallbacks ∧
      (c.invokeClosed reason).reconnectedCallbacks = c.reconnectedCallbacks := by
  unfold invokeClosed
  split <;> exact ⟨rfl, rfl⟩

/-- The places are all. -/
lemma Supervisor.keepsClosed_of_step {s s' : Supervisor} (h : s.step options c env = some (e, s'))
    (hr : s.pc.reopens = false) : e.KeepsClosed c := by
  unfold step at h
  split at h
  all_goals
    rename_i hpc
    repeat' split at h
    all_goals cases h
    all_goals first
      | (simp only [hpc, SupervisorPc.reopens, Bool.true_eq_false] at hr; done)
      | exact ⟨.inl rfl, rfl, rfl, rfl⟩
      | exact ⟨.inr rfl, rfl, rfl, rfl⟩
      | exact ⟨.inl (Control.invokeClosed_state _ _), rfl, (Control.invokeClosed_callbacks _ _).1,
          (Control.invokeClosed_callbacks _ _).2⟩

/-- A supervisor leaves `closing` alone. -/
lemma Supervisor.step_closing {s s' : Supervisor} (h : s.step options c env = some (e, s')) :
    (e.op.onControl c.control).closing = c.control.closing := by
  unfold step at h
  split at h
  all_goals
    repeat' split at h
    all_goals cases h
    all_goals simp [Op.onControl, Effect.skip, Effect.control]

/-- **Quiet supervisors**: an aborted supervisor that is quiet does not bring the connection back,
and stays quiet.

**Proof sketch.** Where it is suspended it takes no step. From the other places it gets only to such
places or to its end: `closing` turns it back where it is read. -/
lemma Supervisor.quiet_of_step {s s' : Supervisor} (h : s.step options c env = some (e, s'))
    (hrun : s.pc.mayRun = true) (hq : s.pc.quiet options c.control.closing = true) :
    s.pc.reopens = false ∧ s'.pc.quiet options c.control.closing = true := by
  unfold step at h
  split at h
  all_goals
    rename_i hpc
    rw [hpc] at hrun hq
    simp only [SupervisorPc.mayRun, SupervisorPc.quiet, Bool.false_eq_true] at hrun hq
  case h_2 info =>
    cases h
    refine ⟨by rw [hpc]; rfl, ?_⟩
    cases hcl : c.control.closing with
    | true => rfl
    | false => simpa [hcl, SupervisorPc.quiet] using hq
  case h_4 info target =>
    cases h
    refine ⟨by rw [hpc]; rfl, ?_⟩
    dsimp only
    split
    · rfl
    · exact hq
  case h_10 info =>
    cases h
    refine ⟨by rw [hpc]; rfl, ?_⟩
    rw [show afterCancel options info = .setDisconnected info.error from if_pos hq]
    rfl
  all_goals
    repeat' split at h
    all_goals cases h
    all_goals refine ⟨by rw [hpc]; rfl, ?_⟩
    all_goals first | rfl | exact hq

/-- **Refused starts**: a `start` that is refused spawns no supervisor, does not clear `closing`,
and stays refused. -/
lemma StartPc.refused_of_step {pc pc' : StartPc}
    (h : pc.step options c receivers n i env = some (e, pc'))
    (hr : pc.refused c.control.closing = true) :
    pc'.refused c.control.closing = true ∧
      (e.op.onControl c.control).closing = c.control.closing := by
  cases pc with
  | shutdown s =>
    rcases step_shutdown h with ⟨rfl, result, rfl⟩ | ⟨s', hs, rfl⟩
    · exact ⟨rfl, rfl⟩
    · refine ⟨rfl, ?_⟩
      cases s <;> cases hs <;> simp [Op.onControl, Effect.skip, Effect.control]
  | recheckClosing m =>
    have hcl : c.control.closing = true := hr
    cases h
    rw [if_pos hcl]
    exact ⟨rfl, rfl⟩
  | sendStop =>
    cases h
    exact ⟨hr, Control.sendStop_closing _ _ _⟩
  | readState | setConnecting | clearClosing | setConnected | markStarted | abortSupervisor | spawn
  | storeSupervisor => cases hr
  | _ =>
    simp only [step] at h
    repeat' split at h
    all_goals cases h
    all_goals first | exact ⟨rfl, rfl⟩ | exact ⟨hr, rfl⟩

/-- `start` takes the handle, spawns and stores the new handle in three steps. -/
lemma StartPc.replacing_of_step {pc pc' : StartPc}
    (h : pc.step options c receivers n i env = some (e, pc')) (hr : pc'.replacing = true) :
    pc.aborts = true ∨ ∃ m, pc = spawn m := by
  cases pc with
  | shutdown s =>
    rcases step_shutdown h with ⟨-, result, rfl⟩ | ⟨s', -, rfl⟩ <;> cases hr
  | abortSupervisor => exact .inl rfl
  | spawn m => exact .inr ⟨m, rfl⟩
  | _ =>
    simp only [step] at h
    repeat' split at h
    all_goals cases h
    all_goals cases hr

/-- `close` takes the handle in one step. -/
lemma ClosePc.tookSupervisor_of_step {pc pc' : ClosePc}
    (h : pc.step options c receivers i env = some (e, pc')) (ht : pc'.tookSupervisor = true) :
    pc.aborts = true ∨ pc.tookSupervisor = true := by
  cases pc with
  | shutdown s =>
    cases s with
    | abortSupervisor => exact .inl rfl
    | _ => exact .inr rfl
  | unlock => exact .inr rfl
  | lock =>
    simp only [step] at h
    split at h <;> cases h
    cases ht
  | readState =>
    cases h
    split at ht <;> cases ht
  | _ => cases h <;> cases ht

/-- `close` does not clear `closing`. -/
lemma ClosePc.closing_of_step {pc pc' : ClosePc}
    (h : pc.step options c receivers i env = some (e, pc')) (hcl : c.control.closing = true) :
    (e.op.onControl c.control).closing = true := by
  cases pc with
  | shutdown s =>
    rcases step_shutdown h with ⟨rfl, -⟩ | ⟨s', hs, -⟩
    · exact hcl
    · cases s <;> cases hs <;> simp [Op.onControl, Effect.skip, Effect.control, hcl]
  | lock =>
    simp only [step] at h
    split at h <;> cases h
    exact hcl
  | setClosing =>
    cases h
    rfl
  | _ => cases h <;> simp [Op.onControl, Effect.skip, Effect.control, hcl]

/-- `closing` makes more places quiet. -/
lemma SupervisorPc.quiet_mono {pc : SupervisorPc} {closing closing' : Bool}
    (hcl : closing = true → closing' = true) (h : pc.quiet options closing = true) :
    pc.quiet options closing' = true := by
  cases pc with
  | checkClosing info =>
    rcases Bool.or_eq_true_iff.mp h with h | h
    · exact Bool.or_eq_true_iff.mpr (.inl (hcl h))
    · exact Bool.or_eq_true_iff.mpr (.inr h)
  | _ => exact h

/-- `closing` refuses more calls. -/
lemma StartPc.refused_mono {pc : StartPc} {closing closing' : Bool}
    (hcl : closing = true → closing' = true) (h : pc.refused closing = true) :
    pc.refused closing' = true := by
  cases pc <;> first | exact h | exact hcl h

end Tasks

namespace World

variable {options : ConnectionOptions} {w w' : World} {a : Action}

/-! ## The live supervisor -/

/-- At most one supervisor is not aborted: its handle is stored, or the `start` that has spawned it
is about to store it. -/
structure Supervised (w : World) : Prop where
  lock : w.LockHeld
  live : ∀ (k : ℕ) (s : Supervisor), w.supervisors[k]? = some s → s.aborted = false →
    w.core.control.supervisor = some k ∨ ∃ i : ℕ, w.starts[i]? = some (.storeSupervisor k)
  replacing : ∀ (i : ℕ) (pc : StartPc), w.starts[i]? = some pc → pc.replacing = true →
    w.core.control.supervisor = none
  taken : ∀ (j : ℕ) (pc : ClosePc), w.closes[j]? = some pc → pc.tookSupervisor = true →
    w.core.control.supervisor = none

/-- Initially there are no tasks. -/
lemma Supervised.init : Supervised new where
  lock := .init
  live := fun k s hk => by simp [new] at hk
  replacing := fun i pc hi => by simp [new] at hi
  taken := fun j pc hj => by simp [new] at hj

/-- A `start` that replaces the supervisor holds the lock. -/
lemma locked_of_replacing {i : ℕ} {pc : StartPc} (hi : w.starts[i]? = some pc)
    (hr : pc.replacing = true) : w.locked (.start i) = true := by
  have hl : pc.locked = true := by cases pc <;> first | rfl | cases hr
  simp [locked, hi, hl]

/-- A `close` that has taken the handle holds the lock. -/
lemma locked_of_tookSupervisor {j : ℕ} {pc : ClosePc} (hj : w.closes[j]? = some pc)
    (ht : pc.tookSupervisor = true) : w.locked (.close j) = true := by
  have hl : pc.locked = true := by cases pc <;> first | rfl | cases ht
  simp [locked, hj, hl]

/-- The live supervisor after a step.

**Proof sketch.** A supervisor that is not aborted was spawned by this step, or it was live before.
In the second case its handle stays where it is, unless the step aborts it or is the one that stores
it. -/
lemma Supervised.live_step (h : Supervised w) (hstep : Step options w a w') {k : ℕ}
    {s' : Supervisor} (hk : w'.supervisors[k]? = some s') (ha : s'.aborted = false) :
    w'.core.control.supervisor = some k ∨ ∃ i : ℕ, w'.starts[i]? = some (.storeSupervisor k) := by
  have hlive : ∀ s, w.supervisors[k]? = some s → s.aborted = false →
      (w.aborts a = true → w.core.control.supervisor ≠ some k) →
      w'.core.control.supervisor = some k ∨ ∃ i : ℕ, w'.starts[i]? = some (.storeSupervisor k) := by
    intro s hs hsa hne
    rcases h.live k s hs hsa with hsup | ⟨i, hi⟩
    · rcases hstep.handle with ⟨heq, -⟩ | ⟨-, hab⟩ | ⟨i, env, k', -, hi, -, -⟩
      · exact .inl (heq.trans hsup)
      · exact absurd hsup (hne hab)
      · rw [h.replacing i _ hi rfl] at hsup
        cases hsup
    · rcases hstep.starts i with heq | ⟨-, hnone, -⟩ | ⟨pc, pc', e, env, hst⟩
      · exact .inr ⟨i, heq.trans hi⟩
      · rw [hi] at hnone
        cases hnone
      · cases hst.before.symm.trans hi
        refine .inl ?_
        rw [hst.core, Core.applyOp_control]
        cases hst.step
        rfl
  rcases hstep.supervisors hk with ⟨hs, hne⟩ | ⟨s, -, rfl, -⟩ | ⟨s, -, hsa, rfl⟩ |
    ⟨s, e, env, hst⟩ | ⟨-, -, -, i, env, m, -, -, hi⟩
  · exact hlive s' hs ha hne
  · cases ha
  · exact absurd ha (by simp [hsa])
  · refine hlive s hst.before ?_ fun hab => ?_
    · rw [← (Supervisor.step_supervisor hst.step).2, ha]
    · rw [hst.action] at hab
      cases hab
  · exact .inr ⟨i, hi⟩

/-- **Steps keep the handle of the live supervisor.** -/
theorem Supervised.step (h : Supervised w) (hstep : Step options w a w') : Supervised w' := by
  refine ⟨h.lock.step hstep, fun k s' => h.live_step hstep, fun i pc' hi hr => ?_,
    fun j pc' hj ht => ?_⟩
  · rcases hstep.starts i with heq | ⟨-, -, hnew⟩ | ⟨pc, pc₁, e, env, hst⟩
    · have hi₀ := heq.symm.trans hi
      rcases hstep.handle with ⟨hsame, -⟩ | ⟨hnone, -⟩ | ⟨i', env, k, -, hi', hi₁, -⟩
      · rw [hsame, h.replacing i pc' hi₀ hr]
      · exact hnone
      · -- both calls hold the lock, so they are the same, which has moved on
        have := h.lock.eq (locked_of_replacing hi₀ hr) (locked_of_replacing hi' rfl)
        cases this
        cases hi.symm.trans hi₁
        cases hr
    · cases hi.symm.trans hnew
      cases hr
    · cases hi.symm.trans hst.after
      rcases hstep.handle with ⟨hsame, hab⟩ | ⟨hnone, -⟩ | ⟨i', env', k, ha, -, hi₁, -⟩
      · rw [hsame]
        rcases StartPc.replacing_of_step hst.step hr with hpc | ⟨m, rfl⟩
        · simp [hst.action, aborts, hst.before, hpc] at hab
        · exact h.replacing i _ hst.before rfl
      · exact hnone
      · cases hst.action.symm.trans ha
        cases hi.symm.trans hi₁
        cases hr
  · have hstart : ∀ (i : ℕ) (pc : ClosePc), w.closes[j]? = some pc → pc.tookSupervisor = true →
        ∀ k, w.starts[i]? ≠ some (.storeSupervisor k) := by
      intro i pc hpc htook k hi
      have := h.lock.eq (locked_of_tookSupervisor hpc htook) (locked_of_replacing hi rfl)
      cases this
    rcases hstep.closes j with heq | ⟨-, hnot⟩ | ⟨-, -, hnew⟩ | ⟨pc, pc₁, e, env, hst⟩
    · have hj₀ := heq.symm.trans hj
      rcases hstep.handle with ⟨hsame, -⟩ | ⟨hnone, -⟩ | ⟨i, env, k, -, hi, -, -⟩
      · rw [hsame, h.taken j pc' hj₀ ht]
      · exact hnone
      · exact absurd hi (hstart i pc' hj₀ ht k)
    · cases hj.symm.trans hnot
      cases ht
    · cases hj.symm.trans hnew
      cases ht
    · cases hj.symm.trans hst.after
      rcases hstep.handle with ⟨hsame, hab⟩ | ⟨hnone, -⟩ | ⟨i, env', k, ha, -, -, -⟩
      · rw [hsame]
        rcases ClosePc.tookSupervisor_of_step hst.step ht with hpc | htook
        · simp [hst.action, aborts, hst.before, hpc] at hab
        · exact h.taken j pc hst.before htook
      · exact hnone
      · cases hst.action.symm.trans ha

/-- Every supervisor is aborted when a `close` has shut the connection down. -/
lemma Supervised.aborted {j k : ℕ} {result : Except Error Unit} {s : Supervisor} (h : Supervised w)
    (hj : w.closes[j]? = some (.unlock result)) (hk : w.supervisors[k]? = some s) :
    s.aborted = true := by
  by_contra ha
  rcases h.live k s hk (by simpa using ha) with hsup | ⟨i, hi⟩
  · rw [h.taken j _ hj rfl] at hsup
    cases hsup
  · have := h.lock.eq (locked_of_tookSupervisor hj rfl) (locked_of_replacing hi rfl)
    cases this

/-! ## Settled connections -/

/-- No supervisor will bring the connection back, and no `start` will spawn one. -/
structure Settled (options : ConnectionOptions) (w : World) : Prop where
  starts : ∀ (i : ℕ) (pc : StartPc), w.starts[i]? = some pc →
    pc.refused w.core.control.closing = true
  supervisors : ∀ (k : ℕ) (s : Supervisor), w.supervisors[k]? = some s → s.pc = .ended ∨
    s.aborted = true ∧ s.pc.quiet options w.core.control.closing = true

/-- A supervisor that takes a step while the connection is settled is aborted and quiet. -/
lemma Settled.supervisor {k : ℕ} {s s' : Supervisor} {e : Effect} {env : Env}
    (h : Settled options w) (hs : SupervisorStep options w w' a k s s' e env) :
    s.aborted = true ∧ s.pc.reopens = false ∧
      s'.pc.quiet options w.core.control.closing = true := by
  rcases h.supervisors k s hs.before with hend | ⟨hab, hq⟩
  · have := hs.step
    simp [Supervisor.step, hend] at this
  · have hrun : s.pc.mayRun = true := by
      have := hs.running
      simpa [hab] using this
    obtain ⟨hr, hq'⟩ := Supervisor.quiet_of_step hs.step hrun hq
    exact ⟨hab, hr, hq'⟩

/-- `closing` is not cleared while the connection is settled. -/
lemma Settled.closing (h : Settled options w) (hstep : Step options w a w') :
    w.core.control.closing = true → w'.core.control.closing = true := by
  intro hcl
  rcases hstep.control with ⟨hc, -⟩ | ⟨i, pc, pc', e, env, hs, hc⟩ | ⟨i, pc, pc', e, env, hs, hc⟩ |
    ⟨k, s, s', e, env, hs, hc⟩
  · rw [hc, hcl]
  · rw [hc, (StartPc.refused_of_step hs.step (h.starts i pc hs.before)).2, hcl]
  · rw [hc]
    exact ClosePc.closing_of_step hs.step hcl
  · rw [hc, Supervisor.step_closing hs.step, hcl]

/-- **Steps keep a connection settled** until `start` is called. -/
theorem Settled.step (h : Settled options w) (ha : a ≠ .newStart) (hstep : Step options w a w') :
    Settled options w' := by
  have hcl := h.closing hstep
  refine ⟨fun i pc' hi => ?_, fun k s' hk => ?_⟩
  · rcases hstep.starts i with heq | ⟨hnew, -⟩ | ⟨pc, pc₁, e, env, hs⟩
    · exact StartPc.refused_mono hcl (h.starts i pc' (heq.symm.trans hi))
    · exact absurd hnew ha
    · cases hi.symm.trans hs.after
      exact StartPc.refused_mono hcl (StartPc.refused_of_step hs.step (h.starts i pc hs.before)).1
  · rcases hstep.supervisors hk with ⟨hs, -⟩ | ⟨s, hs, rfl, -⟩ | ⟨s, -, -, rfl⟩ |
      ⟨s, e, env, hs⟩ | ⟨-, -, -, i, env, m, -, hi, -⟩
    · exact (h.supervisors k s' hs).imp_right (And.imp_right (SupervisorPc.quiet_mono hcl))
    · refine (h.supervisors k s hs).imp_right fun hq => ⟨rfl, ?_⟩
      exact SupervisorPc.quiet_mono hcl hq.2
    · exact .inl rfl
    · obtain ⟨hab, -, hq⟩ := h.supervisor hs
      refine .inr ⟨?_, SupervisorPc.quiet_mono hcl hq⟩
      rw [(Supervisor.step_supervisor hs.step).2, hab]
    · cases h.starts i _ hi

/-! ## Runs -/

/-- The step of supervisor `k` does not bring the connection back: it is not taken where the
supervisor does so, and it leaves alone what the application sees of it. -/
structure KeepsClosed (v v' : World) (k : ℕ) : Prop where
  place : ∀ s ∈ v.supervisors[k]?, s.pc.reopens = false
  state : v'.core.control.state = v.core.control.state ∨ v'.core.control.state = .disconnected
  runtime : v'.core.runtime = v.core.runtime ∨ v'.core.runtime = none
  reconnecting : v'.core.control.reconnectingCallbacks = v.core.control.reconnectingCallbacks
  reconnected : v'.core.control.reconnectedCallbacks = v.core.control.reconnectedCallbacks

/-- Call `j` of `close` has read a state other than `Disconnected` and its next step returns `Ok`:
it has shut the connection down, or was notified. -/
def ReturnsOk (w : World) (j : ℕ) : Prop :=
  w.closes[j]? = some (.unlock (.ok ())) ∨ w.closes[j]? = some .notified

/-- No call of `start` is in a position to connect, and no aborted supervisor to bring the
connection back. -/
def calm (options : ConnectionOptions) (w : World) : Bool :=
  w.starts.all (fun pc => pc.refused w.core.control.closing) &&
    w.supervisors.all fun s => !s.aborted || s.pc.quiet options w.core.control.closing

/-- A `close` returns although a supervisor may bring the connection back: an aborted one that goes
on, one that a `start` in progress will spawn, or, when the `close` has only waited for another one,
the supervisor of a later `start`. -/
def unsettled (options : ConnectionOptions) (w : World) : Action → Bool
  | .close j _ =>
    match w.closes[j]? with
    | some (.unlock (.ok ())) => !w.calm options
    | some .notified =>
      !(w.calm options && w.supervisors.all fun s => s.aborted || s.pc.hasEnded)
    | _ => false
  | _ => false

/-- The condition on a step. -/
def ReturnsSettled (options : ConnectionOptions) (w : World) (a : Action) : Prop :=
  w.unsettled options a = false

instance (options : ConnectionOptions) (w : World) (a : Action) :
    Decidable (w.ReturnsSettled options a) :=
  inferInstanceAs (Decidable (w.unsettled options a = false))

/-- A calm connection is settled when no supervisor is live. -/
lemma settled_of_calm (h : w.calm options = true)
    (hlive : ∀ (k : ℕ) (s : Supervisor), w.supervisors[k]? = some s →
      s.aborted = true ∨ s.pc = .ended) : Settled options w := by
  simp only [calm, Bool.and_eq_true, List.all_eq_true] at h
  refine ⟨fun i pc hi => h.1 pc (List.mem_of_getElem? hi), fun k s hk => ?_⟩
  rcases hlive k s hk with hab | hend
  · have := h.2 s (List.mem_of_getElem? hk)
    exact .inr ⟨hab, by simpa [hab] using this⟩
  · exact .inl hend

/-- A connection is settled when a `close` returns as the condition demands. -/
lemma Supervised.settled {j : ℕ} {env : Env} (h : Supervised w) (hret : w.ReturnsOk j)
    (hok : w.ReturnsSettled options (.close j env)) : Settled options w := by
  rcases hret with hj | hj
  · simp only [ReturnsSettled, unsettled, hj, Bool.not_eq_false'] at hok
    exact settled_of_calm hok fun k s hk => .inl (h.aborted hj hk)
  · simp only [ReturnsSettled, unsettled, hj, Bool.not_eq_false', Bool.and_eq_true,
      List.all_eq_true, Bool.or_eq_true] at hok
    refine settled_of_calm hok.1 fun k s hk => (hok.2 s (List.mem_of_getElem? hk)).imp_right ?_
    intro hend
    cases hpc : s.pc <;> first | rfl | (rw [hpc] at hend; cases hend)

/-- `ReturnsOk`, as a function. -/
def returnsOk (w : World) (j : ℕ) : Bool :=
  match w.closes[j]? with
  | some (.unlock (.ok ())) | some .notified => true
  | _ => false

/-- The function computes `ReturnsOk`. -/
lemma ReturnsOk.of_eval {j : ℕ} (h : w.returnsOk j = true) : w.ReturnsOk j := by
  unfold returnsOk at h
  split at h
  · rename_i hj
    exact .inl hj
  · rename_i hj
    exact .inr hj
  · cases h

/-- The connection is lost, and `close` runs while the supervisor is about to read `closing`. -/
def closeAtLoss : List Action :=
  startRun {} ++ .supervisor 0 .lost :: .newClose :: List.replicate 19 (.close 0 {})

/-- A reconnect attempt has just succeeded when `close` runs. -/
def closeAtReconnect : List Action :=
  startRun {} ++ supervisorRun 23 .lost ++ .newClose :: List.replicate 18 (.close 0 {})

end World

end Signalrr.HubConnection
