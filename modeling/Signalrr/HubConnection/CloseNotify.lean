import Signalrr.HubConnection.TaskSteps

set_option relaxedAutoImplicit false
set_option autoImplicit false

/-!
# Closes that wait for each other

`close` in `src/hub_connection/mod.rs`: a call that reads `Disconnecting` waits on `close_notify`
for the one that shuts the connection down, and `notify_waiters` at the end of a shutdown wakes the
calls that are registered at that moment.

## Main definitions

* `Signalrr.HubConnection.World.willNotify` — a task is on its way to `notify_waiters`.
* `Signalrr.HubConnection.World.Served` — for every waiting `close` there is such a task.
* `Signalrr.HubConnection.World.notifiesTooEarly` — `notify_waiters` is called while a `close` has
  read `Disconnecting` and is not registered, and no other task is on its way.

## Main results

* `Signalrr.HubConnection.World.willNotify_of_step` — a task on its way stays on it until it
  notifies.
* `Signalrr.HubConnection.World.served_of_meets` — nobody waits in vain in runs without such calls.
* `Signalrr.HubConnection.World.close_waits_forever` — in general somebody does.
-/

namespace Signalrr.HubConnection

open Hub

/-! ## Places -/

/-- The shutdown has not set the state to `Disconnected` yet. -/
def ShutdownPc.announced : ShutdownPc → Bool
  | invokeClosed | notify | returned _ => false
  | _ => true

/-- The shutdown has not notified yet. -/
def ShutdownPc.willNotify : ShutdownPc → Bool
  | returned _ => false
  | _ => true

/-- The `close` has set the state to `Disconnecting`, and not to `Disconnected` yet. -/
def ClosePc.announced : ClosePc → Bool
  | setClosing | sendStop | lock => true
  | shutdown pc => pc.announced
  | _ => false

/-- The `close` is on its way to `notify_waiters`. -/
def ClosePc.willNotify : ClosePc → Bool
  | setDisconnecting | setClosing | sendStop | lock => true
  | shutdown pc => pc.willNotify
  | _ => false

/-- The `start` is on its way to `notify_waiters`. -/
def StartPc.willNotify : StartPc → Bool
  | shutdown pc => pc.willNotify
  | _ => false

/-- The `close` has read `Disconnecting` and is not registered yet. -/
def ClosePc.registering : ClosePc → Bool
  | register => true
  | _ => false

/-- A `close` that has announced the end is on its way. -/
lemma ClosePc.willNotify_of_announced {pc : ClosePc} (h : pc.announced = true) :
    pc.willNotify = true := by
  cases pc with
  | shutdown s => cases s <;> first | rfl | cases h
  | _ => first | rfl | cases h

section Tasks

variable {options : ConnectionOptions} {c : Core} {env : Env} {e : Effect} {receivers : Bool}
  {i n : ℕ}

/-- The places before `notify_waiters`, by their stages. -/
lemma ShutdownPc.willNotify_eq (s : ShutdownPc) : s.willNotify = decide (s.stage < 13) := by
  cases s <;> rfl

/-- The places before the state is set, by their stages. -/
lemma ShutdownPc.announced_eq (s : ShutdownPc) : s.announced = decide (s.stage < 11) := by
  cases s <;> rfl

/-- A shutdown whose sink closes goes on until it notifies. -/
lemma ShutdownPc.step_willNotify {s s' : ShutdownPc} (h : s.step options c env = some (e, s'))
    (hsink : ∀ rt, s = closeRuntime rt → (c.shutdown options rt env.write env.outcome).2 = .ok ())
    (hs : s.willNotify = true) : s'.willNotify = true ∨ s = notify := by
  rw [willNotify_eq, decide_eq_true_eq] at hs ⊢
  rcases stage_lt_of_step h (by omega) hs with hlt | heq | ⟨rt, hrt, hfail⟩
  · exact .inl hlt
  · right
    cases s <;> simp [stage] at heq ⊢
  · rw [hsink rt hrt] at hfail
    cases hfail

/-- A shutdown goes on until it sets the state or its sink fails. -/
lemma ShutdownPc.step_announced {s s' : ShutdownPc} (h : s.step options c env = some (e, s'))
    (hs : s.announced = true) : s'.announced = true ∨ s = setDisconnected ∨
      ∃ rt, s = closeRuntime rt ∧ (c.shutdown options rt env.write env.outcome).2.isOk = false := by
  rw [announced_eq, decide_eq_true_eq] at hs ⊢
  rcases stage_lt_of_step h (by omega) hs with hlt | heq | hsink
  · exact .inl hlt
  · right
    left
    cases s <;> simp [stage] at heq ⊢
  · exact .inr (.inr hsink)

/-- `notify_waiters` is called at one place. -/
lemma ShutdownPc.step_notify {s s' : ShutdownPc} (h : s.step options c env = some (e, s')) :
    e.notify = true ↔ s = notify := by
  cases s <;> cases h <;> simp [Effect.skip, Effect.control]

/-- A shutdown does not set the state to `Disconnecting`. -/
lemma ShutdownPc.step_disconnecting {s s' : ShutdownPc} (h : s.step options c env = some (e, s'))
    (hd : (e.op.onControl c.control).state = .disconnecting) :
    c.control.state = .disconnecting ∧ s ≠ setDisconnected := by
  cases s <;> cases h <;>
    simp_all [Op.onControl, Effect.skip, Effect.control, Control.invokeClosed]
  split at hd <;> exact hd

/-- `start` calls `notify_waiters` at the end of a shutdown. -/
lemma StartPc.step_notify {pc pc' : StartPc}
    (h : pc.step options c receivers n i env = some (e, pc')) :
    e.notify = true ↔ pc.shutdown? = some .notify := by
  cases pc with
  | shutdown s =>
    rcases step_shutdown h with ⟨rfl, result, rfl⟩ | ⟨s', hs, rfl⟩
    · cases s with
      | notify =>
        simp [step, ShutdownPc.step, Effect.skip] at h
      | _ => simp [Effect.skip, shutdown?]
    · simpa [shutdown?] using ShutdownPc.step_notify hs
  | _ =>
    simp only [step] at h
    repeat' split at h
    all_goals cases h
    all_goals simp [Effect.skip, Effect.control, shutdown?]

/-- `close` calls `notify_waiters` at the end of its shutdown. -/
lemma ClosePc.step_notify {pc pc' : ClosePc}
    (h : pc.step options c receivers i env = some (e, pc')) :
    e.notify = true ↔ pc.shutdown? = some .notify := by
  cases pc with
  | shutdown s =>
    rcases step_shutdown h with ⟨rfl, result, rfl⟩ | ⟨s', hs, rfl⟩
    · cases s with
      | notify =>
        simp [step, ShutdownPc.step, Effect.skip] at h
      | _ => simp [Effect.skip, shutdown?]
    · simpa [shutdown?] using ShutdownPc.step_notify hs
  | _ =>
    simp only [step] at h
    repeat' split at h
    all_goals cases h
    all_goals simp [Effect.skip, Effect.control, shutdown?]

/-- A `close` on its way stays on it until it notifies. -/
lemma ClosePc.step_willNotify {pc pc' : ClosePc}
    (h : pc.step options c receivers i env = some (e, pc'))
    (hsink : ∀ rt, pc.shutdown? = some (.closeRuntime rt) →
      (c.shutdown options rt env.write env.outcome).2 = .ok ())
    (hpc : pc.willNotify = true) : pc'.willNotify = true ∨ pc.shutdown? = some .notify := by
  cases pc with
  | shutdown s =>
    have hne : ∀ result, s ≠ .returned result := by
      rintro result rfl
      cases hpc
    obtain ⟨s', hstep, rfl⟩ := step_of_shutdown? h rfl hne
    have hsink' : ∀ rt, s = .closeRuntime rt →
        (c.shutdown options rt env.write env.outcome).2 = .ok () :=
      fun rt hrt => hsink rt (congrArg some hrt)
    exact (ShutdownPc.step_willNotify hstep hsink' hpc).imp_right (congrArg some)
  | lock =>
    simp only [step] at h
    split at h <;> cases h
    exact .inl rfl
  | setDisconnecting | setClosing | sendStop =>
    cases h
    exact .inl rfl
  | _ => cases hpc

/-- A `start` on its way stays on it until it notifies. -/
lemma StartPc.step_willNotify {pc pc' : StartPc}
    (h : pc.step options c receivers n i env = some (e, pc'))
    (hsink : ∀ rt, pc.shutdown? = some (.closeRuntime rt) →
      (c.shutdown options rt env.write env.outcome).2 = .ok ())
    (hpc : pc.willNotify = true) : pc'.willNotify = true ∨ pc.shutdown? = some .notify := by
  cases pc with
  | shutdown s =>
    have hne : ∀ result, s ≠ .returned result := by
      rintro result rfl
      cases hpc
    obtain ⟨s', hstep, rfl⟩ := step_of_shutdown? h rfl hne
    have hsink' : ∀ rt, s = .closeRuntime rt →
        (c.shutdown options rt env.write env.outcome).2 = .ok () :=
      fun rt hrt => hsink rt (congrArg some hrt)
    exact (ShutdownPc.step_willNotify hstep hsink' hpc).imp_right (congrArg some)
  | _ => cases hpc

/-- A `close` that has announced the end goes on until it sets the state to `Disconnected`. -/
lemma ClosePc.step_announced {pc pc' : ClosePc}
    (h : pc.step options c receivers i env = some (e, pc'))
    (hsink : ∀ rt, pc.shutdown? = some (.closeRuntime rt) →
      (c.shutdown options rt env.write env.outcome).2 = .ok ())
    (hpc : pc.announced = true) :
    pc'.announced = true ∨ pc.shutdown? = some .setDisconnected := by
  cases pc with
  | shutdown s =>
    have hne : ∀ result, s ≠ .returned result := by
      rintro result rfl
      cases hpc
    obtain ⟨s', hstep, rfl⟩ := step_of_shutdown? h rfl hne
    rcases ShutdownPc.step_announced hstep hpc with hs' | rfl | ⟨rt, rfl, hfail⟩
    · exact .inl hs'
    · exact .inr rfl
    · rw [hsink rt rfl] at hfail
      cases hfail
  | lock =>
    simp only [step] at h
    split at h <;> cases h
    exact .inl rfl
  | setClosing | sendStop =>
    cases h
    exact .inl rfl
  | _ => cases hpc

/-- The state becomes `Disconnecting` at one place of `close`, and a shutdown ends it. -/
lemma ClosePc.step_disconnecting {pc pc' : ClosePc}
    (h : pc.step options c receivers i env = some (e, pc'))
    (hd : (e.op.onControl c.control).state = .disconnecting) :
    c.control.state = .disconnecting ∧ pc.shutdown? ≠ some .setDisconnected ∨
      pc'.announced = true := by
  cases pc with
  | shutdown s =>
    rcases step_shutdown h with ⟨rfl, result, rfl⟩ | ⟨s', hstep, rfl⟩
    · refine .inl ⟨hd, fun hs => ?_⟩
      cases s with
      | setDisconnected => simp [step, ShutdownPc.step] at h
      | _ => cases hs
    · obtain ⟨hst, hne⟩ := ShutdownPc.step_disconnecting hstep hd
      exact .inl ⟨hst, fun hs => hne (Option.some.inj hs)⟩
  | setDisconnecting =>
    cases h
    exact .inr rfl
  | lock =>
    simp only [step] at h
    split at h <;> cases h
    exact .inl ⟨hd, fun hs => (by cases hs)⟩
  | sendStop =>
    cases h
    refine .inl ⟨?_, fun hs => (by cases hs)⟩
    simp only [Effect.control, Op.onControl, Control.sendStop] at hd
    split at hd <;> exact hd
  | waiting | returned => cases h
  | _ =>
    cases h
    exact .inl ⟨hd, fun hs => (by cases hs)⟩

/-- `start` does not set the state to `Disconnecting`. -/
lemma StartPc.step_disconnecting {pc pc' : StartPc}
    (h : pc.step options c receivers n i env = some (e, pc'))
    (hd : (e.op.onControl c.control).state = .disconnecting) :
    c.control.state = .disconnecting := by
  cases pc with
  | shutdown s =>
    rcases step_shutdown h with ⟨rfl, -⟩ | ⟨s', hs, -⟩
    · exact hd
    · exact (ShutdownPc.step_disconnecting hs hd).1
  | sendStop =>
    cases h
    simp only [Effect.control, Op.onControl, Control.sendStop] at hd
    split at hd <;> exact hd
  | _ =>
    simp only [step] at h
    repeat' split at h
    all_goals cases h
    all_goals first | exact hd | cases hd

/-- A supervisor does not set the state to `Disconnecting`. -/
lemma Supervisor.step_disconnecting {s s' : Supervisor} (h : s.step options c env = some (e, s'))
    (hd : (e.op.onControl c.control).state = .disconnecting) :
    c.control.state = .disconnecting := by
  unfold step at h
  split at h
  all_goals
    repeat' split at h
    all_goals cases h
    all_goals simp_all [Op.onControl, Effect.skip, Effect.control, Control.invokeClosed]
  split at hd <;> exact hd

end Tasks

/-! ## Waiting -/

namespace World

/-- A task is on its way to `notify_waiters`. -/
def willNotify (w : World) : Task → Bool
  | .start i => (w.starts[i]?.map StartPc.willNotify).getD false
  | .close i => (w.closes[i]?.map ClosePc.willNotify).getD false

/-- The tasks that are on their way to `notify_waiters`. -/
def notifiers (w : World) : List Task :=
  ((List.range w.starts.length).map Task.start ++
    (List.range w.closes.length).map Task.close).filter
    w.willNotify

/-- For every `close` that waits on `close_notify` there is another task that has not notified yet
and will. -/
def Served (w : World) : Prop :=
  ∀ j : ℕ, w.closes[j]? = some .waiting → ∃ t, t ≠ .close j ∧ w.willNotify t = true

/-- `notify_waiters` is called while a `close` has read `Disconnecting` and is not registered, and
no other task is on its way to call it again. -/
def notifiesTooEarly (w : World) (a : Action) : Bool :=
  match Action.task? a with
  | none => false
  | some (t, _) =>
    match w.shutdownPc t with
    | some .notify => w.closes.any ClosePc.registering && w.notifiers.all fun t' => t' == t
    | _ => false

/-- The condition on a step. -/
def NotifiesInTime (w : World) (a : Action) : Prop := w.notifiesTooEarly a = false

instance (w : World) (a : Action) : Decidable (w.NotifiesInTime a) :=
  inferInstanceAs (Decidable (w.notifiesTooEarly a = false))

variable {options : ConnectionOptions} {w w' : World} {a : Action} {t : Task}

/-- **A task on its way stays on it** until it calls `notify_waiters`. -/
lemma willNotify_of_step (hstep : Step options w a w') (hsink : w.SinksClose options a)
    (h : w.willNotify t = true) :
    w'.willNotify t = true ∨
      w.shutdownPc t = some .notify ∧ ∃ env, Action.task? a = some (t, env) := by
  cases t with
  | start i =>
    rcases hstep.starts i with heq | ⟨-, hnone, -⟩ | ⟨pc, pc', e, env, hs⟩
    · left
      rw [willNotify, heq]
      exact h
    · simp [willNotify, hnone] at h
    · have ha : Action.task? a = some (.start i, env) := by rw [hs.action]; rfl
      have hpc : pc.willNotify = true := by simpa [willNotify, hs.before] using h
      have hshut : w.shutdownPc (.start i) = pc.shutdown? := by simp [shutdownPc, hs.before]
      have hsink' : ∀ rt, pc.shutdown? = some (.closeRuntime rt) →
          (w.core.shutdown options rt env.write env.outcome).2 = .ok () :=
        fun rt hrt => hsink.shutdown ha (hshut.trans hrt)
      refine (StartPc.step_willNotify hs.step hsink' hpc).imp (fun hpc' => ?_) fun hn => ?_
      · simp [willNotify, hs.after, hpc']
      · exact ⟨hshut.trans hn, env, ha⟩
  | close i =>
    rcases hstep.closes i with heq | ⟨hw, -⟩ | ⟨-, hnone, -⟩ | ⟨pc, pc', e, env, hs⟩
    · left
      rw [willNotify, heq]
      exact h
    · simp [willNotify, hw, ClosePc.willNotify] at h
    · simp [willNotify, hnone] at h
    · have ha : Action.task? a = some (.close i, env) := by rw [hs.action]; rfl
      have hpc : pc.willNotify = true := by simpa [willNotify, hs.before] using h
      have hshut : w.shutdownPc (.close i) = pc.shutdown? := by simp [shutdownPc, hs.before]
      have hsink' : ∀ rt, pc.shutdown? = some (.closeRuntime rt) →
          (w.core.shutdown options rt env.write env.outcome).2 = .ok () :=
        fun rt hrt => hsink.shutdown ha (hshut.trans hrt)
      refine (ClosePc.step_willNotify hs.step hsink' hpc).imp (fun hpc' => ?_) fun hn => ?_
      · simp [willNotify, hs.after, hpc']
      · exact ⟨hshut.trans hn, env, ha⟩

/-- A task that notifies leaves nobody waiting. -/
lemma not_waiting_of_notify {env : Env} (hstep : Step options w a w')
    (ha : Action.task? a = some (t, env)) (hs : w.shutdownPc t = some .notify) (j : ℕ)
    (hj : w.closes[j]? = some .waiting) : w'.closes[j]? = some .notified := by
  have happly : ∀ e : Effect, e.notify = true →
      (w.apply options e).closes[j]? = some .notified := by
    intro e he
    simp [apply, he, hj]
  cases hstep with
  | @start i env' pc pc' e hi h =>
    cases ha
    refine happly e ((StartPc.step_notify h).mpr ?_)
    simpa [shutdownPc, hi] using hs
  | @close i env' pc pc' e hi h =>
    cases ha
    have hpc : pc.shutdown? = some .notify := by simpa [shutdownPc, hi] using hs
    have hij : i ≠ j := by
      rintro rfl
      cases hi.symm.trans hj
      cases hpc
    show ((w.apply options e).closes.set i pc')[j]? = some .notified
    rw [List.getElem?_set_ne hij]
    exact happly e ((ClosePc.step_notify h).mpr hpc)
  | _ => cases ha

/-- What the steps preserve: while the state is `Disconnecting` some `close` will set it to
`Disconnected`, and while a `close` has read it and was not notified, some task will notify. -/
structure NotifyInvariant (w : World) : Prop where
  announced : w.core.control.state = .disconnecting →
    ∃ (j : ℕ) (pc : ClosePc), w.closes[j]? = some pc ∧ pc.announced = true
  served : ∀ (j : ℕ) (pc : ClosePc), w.closes[j]? = some pc → pc = .register ∨ pc = .waiting →
    ∃ t, w.willNotify t = true

/-- Nobody is on its way initially, and nobody waits. -/
lemma NotifyInvariant.init : NotifyInvariant new where
  announced := fun h => by cases h
  served := fun j pc h => by simp [new] at h

/-- A step keeps that the state is `Disconnecting` only while somebody will end it. -/
lemma NotifyInvariant.announced_step (h : NotifyInvariant w) (hsink : w.SinksClose options a)
    (hstep : Step options w a w') (hd : w'.core.control.state = .disconnecting) :
    ∃ (j : ℕ) (pc : ClosePc), w'.closes[j]? = some pc ∧ pc.announced = true := by
  -- a `close` that has announced the end stays where it is, unless the step is its own
  have hkeep : w.core.control.state = .disconnecting →
      (∀ j pc pc' e env, CloseStep options w w' a j pc pc' e env →
        pc.shutdown? ≠ some .setDisconnected) →
      ∃ (j : ℕ) (pc : ClosePc), w'.closes[j]? = some pc ∧ pc.announced = true := by
    intro hst hown
    obtain ⟨j, pc, hj, hpc⟩ := h.announced hst
    rcases hstep.closes j with heq | ⟨hw, -⟩ | ⟨-, hnone, -⟩ | ⟨pc₀, pc', e, env, hs⟩
    · exact ⟨j, pc, heq.trans hj, hpc⟩
    · cases hj.symm.trans hw
      cases hpc
    · cases hj.symm.trans hnone
    · obtain rfl := Option.some.inj (hj.symm.trans hs.before)
      have ha : Action.task? a = some (.close j, env) := by rw [hs.action]; rfl
      have hsink' : ∀ rt, pc.shutdown? = some (.closeRuntime rt) →
          (w.core.shutdown options rt env.write env.outcome).2 = .ok () :=
        fun rt hrt => hsink.shutdown ha (by simp [shutdownPc, hj, hrt])
      rcases ClosePc.step_announced hs.step hsink' hpc with hpc' | hset
      · exact ⟨j, pc', hs.after, hpc'⟩
      · exact absurd hset (hown j pc pc' e env hs)
  rcases hstep.control with ⟨heq, hnone⟩ | ⟨i, pc, pc', e, env, hs, heq⟩ |
    ⟨i, pc, pc', e, env, hs, heq⟩ | ⟨k, s, s', e, env, hs, heq⟩
  · rw [heq] at hd
    refine hkeep hd ?_
    intro j pc pc' e env hc
    rw [hc.action] at hnone
    cases hnone
  · rw [heq] at hd
    refine hkeep (StartPc.step_disconnecting hs.step hd) ?_
    intro j pc₁ pc₁' e₁ env₁ hc
    cases hc.action.symm.trans hs.action
  · rw [heq] at hd
    rcases ClosePc.step_disconnecting hs.step hd with ⟨hst, hne⟩ | hpc'
    · refine hkeep hst ?_
      intro j pc₁ pc₁' e₁ env₁ hc
      cases hc.action.symm.trans hs.action
      obtain rfl := Option.some.inj (hc.before.symm.trans hs.before)
      exact hne
    · exact ⟨i, pc', hs.after, hpc'⟩
  · rw [heq] at hd
    refine hkeep (Supervisor.step_disconnecting hs.step hd) ?_
    intro j pc₁ pc₁' e₁ env₁ hc
    cases hc.action.symm.trans hs.action

/-- A step keeps that nobody waits in vain.

**Proof sketch.** Who is on its way stays on it, or notifies. Then nobody is waiting any more, and
for a `close` that is about to register the condition gives another task. -/
lemma NotifyInvariant.served_step (h : NotifyInvariant w) (hsink : w.SinksClose options a)
    (hok : w.NotifiesInTime a) (hstep : Step options w a w') {j : ℕ} {pc : ClosePc}
    (hj : w'.closes[j]? = some pc) (hpc : pc = .register ∨ pc = .waiting) :
    ∃ t, w'.willNotify t = true := by
  rcases hstep.closes j with heq | ⟨-, hn⟩ | ⟨-, -, hnew⟩ | ⟨pc₀, pc', e, env, hs⟩
  · rw [heq] at hj
    obtain ⟨t, ht⟩ := h.served j pc hj hpc
    rcases willNotify_of_step hstep hsink ht with ht' | ⟨hnotify, env, ha⟩
    · exact ⟨t, ht'⟩
    · rcases hpc with rfl | rfl
      · -- another task is on its way, and the step is not its own
        have hreg : w.closes.any ClosePc.registering = true :=
          List.any_eq_true.mpr ⟨_, List.mem_of_getElem? hj, rfl⟩
        simp only [NotifiesInTime, notifiesTooEarly, ha, hnotify, hreg, Bool.true_and] at hok
        obtain ⟨t', hmem, hne⟩ := List.all_eq_false.mp hok
        have hne : t' ≠ t := by simpa using hne
        have ht' : w.willNotify t' = true := (List.mem_filter.mp hmem).2
        rcases willNotify_of_step hstep hsink ht' with ht' | ⟨-, env', ha'⟩
        · exact ⟨t', ht'⟩
        · rw [ha] at ha'
          cases ha'
          exact absurd rfl hne
      · have hn := not_waiting_of_notify hstep ha hnotify j hj
        cases (heq.trans hj).symm.trans hn
  · cases hj.symm.trans hn
    rcases hpc with hpc | hpc <;> cases hpc
  · cases hj.symm.trans hnew
    rcases hpc with hpc | hpc <;> cases hpc
  · obtain rfl := Option.some.inj (hj.symm.trans hs.after)
    -- the step is one of call `j`, so the others stay where they are
    have hown : ∀ t, t ≠ .close j → w.willNotify t = true → w'.willNotify t = true := by
      intro t hne ht
      rcases willNotify_of_step hstep hsink ht with ht' | ⟨-, env', ha'⟩
      · exact ht'
      · rw [hs.action] at ha'
        cases ha'
        exact absurd rfl hne
    have hne : ∀ {t}, w.willNotify t = true → pc₀.willNotify = false → t ≠ .close j := by
      rintro t ht hpc₀ rfl
      simp [willNotify, hs.before, hpc₀] at ht
    cases pc₀ with
    | readState =>
      have hd : w.core.control.state = .disconnecting := by
        have hstep' := hs.step
        simp only [ClosePc.step] at hstep'
        rcases hpc with rfl | rfl
        · split at hstep' <;> first | assumption | cases hstep'
        · split at hstep' <;> cases hstep'
      obtain ⟨j', pc', hj', hann⟩ := h.announced hd
      have ht : w.willNotify (.close j') = true := by
        simp [willNotify, hj', ClosePc.willNotify_of_announced hann]
      exact ⟨_, hown _ (hne ht rfl) ht⟩
    | register =>
      obtain ⟨t, ht⟩ := h.served j .register hs.before (.inl rfl)
      exact ⟨t, hown t (hne ht rfl) ht⟩
    | shutdown s =>
      rcases ClosePc.step_shutdown hs.step with ⟨-, result, rfl⟩ | ⟨s', -, rfl⟩ <;>
        rcases hpc with hpc | hpc <;> cases hpc
    | lock =>
      have hstep' := hs.step
      simp only [ClosePc.step] at hstep'
      split at hstep' <;> cases hstep'
      rcases hpc with hpc | hpc <;> cases hpc
    | waiting | returned => cases hs.step
    | _ =>
      cases hs.step
      rcases hpc with hpc | hpc <;> cases hpc

/-- **No `close` waits in vain** in a run in which sinks close, and in which `notify_waiters` is not
called while a `close` has read `Disconnecting` and is not registered, unless another task will call
it again. -/
theorem served_of_meets (options : ConnectionOptions) {as : List Action} {w : World}
    (hrun : (system options).run as = some w)
    (hsinks : (system options).Meets (SinksClose options) as)
    (hm : (system options).Meets NotifiesInTime as) : w.Served := by
  have h : NotifyInvariant w := Automata.System.invariant_of_meets .init
    (fun _ _ _ hw hok hnext => ⟨hw.announced_step hok.1 (step_of_next hnext),
      fun _ _ hj hpc => hw.served_step hok.1 hok.2 (step_of_next hnext) hj hpc⟩)
    hrun (Automata.System.meetsFrom_and hsinks hm)
  intro j hj
  obtain ⟨t, ht⟩ := h.served j _ hj (.inr rfl)
  refine ⟨t, ?_, ht⟩
  rintro rfl
  simp [willNotify, hj, ClosePc.willNotify] at ht

/-- A connection is started, and closed by two calls. The second one reads the state when the first
has set it to `Disconnecting`. -/
def closeTwice : List Action :=
  World.startRun {} ++ [.newClose, .newClose, .close 0 {}, .close 0 {}, .close 1 {}]

/-- The second call registers before the first one notifies. -/
theorem served_of_meets_registered :
    ∃ w, (system .plain).run (closeTwice ++ [.close 1 {}, .close 0 {}]) = some w ∧
      w.closes[1]? = some .waiting ∧ w.Served := by
  obtain ⟨w, hrun, hw⟩ := Option.map_eq_some_iff.mp
    (show ((system .plain).run (closeTwice ++ [.close 1 {}, .close 0 {}])).map
      (fun w => w.closes[1]?) = some (some .waiting) by rfl)
  exact ⟨w, hrun, hw, served_of_meets .plain hrun (by decide +kernel) (by decide +kernel)⟩

/-- **A `close` can wait forever**: the second call reads `Disconnecting`, the first one shuts the
connection down, notifies and returns, and then the second one registers. -/
theorem close_waits_forever :
    ¬ ∀ (options : ConnectionOptions) (as : List Action) (w : World),
        (system options).run as = some w → (system options).Meets (SinksClose options) as →
          w.Served := by
  intro h
  obtain ⟨w, hrun, hw⟩ := Option.map_eq_some_iff.mp
    (show ((system .plain).run
      (closeTwice ++ List.replicate 18 (.close 0 {}) ++ [.close 1 {}])).map
      (fun w => (w.closes, w.starts)) =
        some ([.returned (.ok ()), .waiting], [.returned (.ok ())]) by rfl)
  simp only [Prod.mk.injEq] at hw
  obtain ⟨hcloses, hstarts⟩ := hw
  obtain ⟨t, -, ht⟩ := h .plain _ w hrun (by decide +kernel) 1 (by rw [hcloses]; rfl)
  cases t with
  | start i =>
    match i with
    | 0 => simp [willNotify, hstarts, StartPc.willNotify] at ht
    | i + 1 => simp [willNotify, hstarts] at ht
  | close i =>
    match i with
    | 0 => simp [willNotify, hcloses, ClosePc.willNotify] at ht
    | 1 => simp [willNotify, hcloses, ClosePc.willNotify] at ht
    | i + 2 => simp [willNotify, hcloses] at ht

end World

end Signalrr.HubConnection
