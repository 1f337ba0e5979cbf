import Signalrr.HubConnection.CloseFields

set_option relaxedAutoImplicit false
set_option autoImplicit false

/-!
# Closing

`close` and `shutdown_active_connection` in `src/hub_connection/mod.rs`. The shutdown takes the
runtime, closes it, and then clears the remaining fields, sets the state, runs the closed callbacks
and wakes the other calls of `close`. When the sink of the transport does not close, the function
returns in the middle. Tasks that do not hold the lock go on beside it and can fill again what it
has cleared. And the stop it has sent on `stop_reconnect` stays there: the `send(false)` of a later
`start` has no effect once the receivers are gone.

## Main definitions

* `Signalrr.HubConnection.World.ShutDown` — a call of `close` has shut the connection down.
* `Signalrr.HubConnection.World.Completed` — and a later `start` is not blocked.
* `Signalrr.HubConnection.World.disturbs` — a step keeps a `close` from shutting down.
* `Signalrr.HubConnection.World.Unheard` — the stop of a `close` gets to nobody.
* `Signalrr.HubConnection.World.Shut` — what a `close` has closed stays closed.

## Main results

* `Signalrr.HubConnection.World.close_returns` — a call of `close` that gets the lock returns.
* `Signalrr.HubConnection.World.startsAgain` — `start` succeeds when no stop is left.
* `Signalrr.HubConnection.World.Shut.step` — steps that do not disturb keep the invariant.
* `Signalrr.HubConnection.World.close_completes_of_meets` — in runs of such steps a call of `close`
  shuts down, and completes when no stop is heard.
* `Signalrr.HubConnection.World.close_not_completed` — in general it does not.
-/

namespace Signalrr.HubConnection

open Hub

namespace World

variable {options : ConnectionOptions} {w w' : World} {a : Action} {f : CloseField}

/-! ## What keeps a close from completing -/

/-- The step keeps a `close` from shutting down:

* the sink of its transport does not close;
* a task opens a field that a `close` which has not returned has closed. -/
def disturbs (options : ConnectionOptions) (w : World) (a : Action) : Bool :=
  (match w.opens a with
    | none => false
    | some f => w.closes.any fun pc => decide (f.stage ≤ pc.stage)) ||
  match a with
  | .close .. => w.sinkFails options a
  | _ => false

/-- The condition on a step. -/
def Undisturbed (options : ConnectionOptions) (w : World) (a : Action) : Prop :=
  w.disturbs options a = false

instance (options : ConnectionOptions) (w : World) (a : Action) :
    Decidable (w.Undisturbed options a) :=
  inferInstanceAs (Decidable (w.disturbs options a = false))

/-- A stop that the step sends gets to no receiver of `stop_reconnect`. -/
def Unheard (w : World) (a : Action) : Prop :=
  w.opens a = some .stopReconnect → w.receivers = false

instance (w : World) (a : Action) : Decidable (w.Unheard a) :=
  inferInstanceAs (Decidable (_ → _))

/-- What a `close` has closed is closed until it returns, and no `close` has failed. -/
structure Shut (w : World) : Prop where
  closed : ∀ (i : ℕ) (pc : ClosePc) (f : CloseField), w.closes[i]? = some pc →
    f.stage ≤ pc.stage → w.Closed f
  succeeds : ∀ (i : ℕ) (pc : ClosePc), w.closes[i]? = some pc → pc.failed = false

/-- Initially nothing is to be closed. -/
lemma Shut.init : Shut new where
  closed := fun i pc f h => by simp [new] at h
  succeeds := fun i pc h => by simp [new] at h

/-- A step opens no field that a `close` has closed. -/
lemma Undisturbed.opens_ne (h : w.Undisturbed options a) {i : ℕ} {pc : ClosePc}
    (hi : w.closes[i]? = some pc) (hf : f.stage ≤ pc.stage) : w.opens a ≠ some f := by
  intro ha
  have hany : w.closes.any (fun pc => decide (f.stage ≤ pc.stage)) = true :=
    List.any_eq_true.mpr ⟨pc, List.mem_of_getElem? hi, decide_eq_true hf⟩
  simp only [Undisturbed, disturbs, ha, Bool.or_eq_false_iff] at h
  simp [hany] at h

/-- Initially there is no stop. -/
lemma closed_stopReconnect_new : new.Closed .stopReconnect :=
  ⟨rfl, fun h => (by cases h), fun h => (by cases h), fun h => (by cases h)⟩

/-- **No stop is left** by steps whose stops nobody hears. -/
lemma Step.closed_stopReconnect (hstep : Step options w a w') (hok : w.Unheard a)
    (h : w.Closed .stopReconnect) : w'.Closed .stopReconnect := by
  by_cases ha : w.opens a = some .stopReconnect
  · have hreceivers := hok ha
    refine ⟨?_, fun hf => (by cases hf), fun hf => (by cases hf), fun hf => (by cases hf)⟩
    cases hstep with
    | @close i env pc pc' e hi hr =>
      simp only [opens, hi, Option.bind_some] at ha
      cases pc with
      | sendStop =>
        cases hr
        rw [hreceivers]
        exact h.control
      | _ => cases ha
    | @start i env pc pc' e hi hr =>
      simp only [opens, hi, Option.bind_some] at ha
      cases pc <;> cases ha
    | @supervisor k env s s' e hk _ hr =>
      simp only [opens, hk, Option.bind_some] at ha
      cases hpc : s.pc <;> simp [hpc, SupervisorPc.opens] at ha
    | _ => cases ha
  · exact hstep.closed ha h

/-- The shutdown of a `close` after its step.

**Proof sketch.** A field that was closed before the step stays closed, and the step may close one
more. -/
lemma Shut.shutdown_step (h : Shut w) (hok : w.Undisturbed options a) (hstep : Step options w a w')
    {i : ℕ} {s s' : ShutdownPc} {e : Effect} {env : Env}
    (hs : CloseStep options w w' a i (.shutdown s) (.shutdown s') e env)
    (hr : s.step options w.core env = some (e, s')) :
    (f.stage ≤ s'.stage → w'.Closed f) ∧ ClosePc.failed (.shutdown s') = false := by
  have hsink : ∀ rt, s = .closeRuntime rt →
      (w.core.shutdown options rt env.write env.outcome).2 = .ok () := by
    rintro rt rfl
    have hclose : w.SinksClose options a := by
      simp only [Undisturbed, disturbs, hs.action, Bool.or_eq_false_iff] at hok
      rw [hs.action]
      exact hok.2
    refine hclose.shutdown (t := .close i) (by rw [hs.action]; rfl) ?_
    simp [shutdownPc, hs.before, ClosePc.shutdown?]
  refine ⟨fun hf => ?_, ?_⟩
  · rcases ShutdownPc.closes_of_step hr hsink hf with hold | ⟨hc, hrt, hb, hn⟩
    · exact hstep.closed (hok.opens_ne hs.before hold) (h.closed i _ f hs.before hold)
    · refine ⟨?_, ?_, ?_, ?_⟩
      · rw [hs.core, Core.applyOp_control]
        exact hc
      · rw [hs.core]
        exact hrt
      · rw [hs.core]
        exact hb
      · rintro rfl ⟨j, hj⟩
        -- `notify_waiters` has woken everybody
        cases hs.action
        cases hstep with
        | @close _ _ pc pc' e' hi hr' =>
          cases hi.symm.trans hs.before
          cases hr'.symm.trans hs.step
          rcases getElem?_set_cases hj with ⟨-, hpc⟩ | ⟨-, hj⟩
          · cases hpc
          · simp only [apply, hn rfl, if_true, List.getElem?_map] at hj
            obtain ⟨x, -, hx⟩ := Option.map_eq_some_iff.mp hj
            cases x <;> cases hx
  · cases s with
    | closeRuntime rt =>
      simp only [ShutdownPc.step, hsink rt rfl, Option.some.injEq, Prod.mk.injEq] at hr
      obtain ⟨-, rfl⟩ := hr
      rfl
    | takeRuntime =>
      cases hr
      split <;> rfl
    | _ => cases hr <;> rfl

/-- **Steps keep the invariant** under the condition. -/
theorem Shut.step (h : Shut w) (hok : w.Undisturbed options a) (hstep : Step options w a w') :
    Shut w' := by
  have hpos : ∀ f : CloseField, 0 < f.stage := by
    intro f
    cases f <;> decide
  have hplace : ∀ (i : ℕ) (pc : ClosePc), w'.closes[i]? = some pc →
      (∀ f : CloseField, f.stage ≤ pc.stage → w'.Closed f) ∧ pc.failed = false := by
    intro i pc' hi'
    rcases hstep.closes i with heq | ⟨-, hnot⟩ | ⟨-, -, hnew⟩ | ⟨pc, pc₁, e, env, hs⟩
    · rw [heq] at hi'
      exact ⟨fun f hf => hstep.closed (hok.opens_ne hi' hf) (h.closed i pc' f hi' hf),
        h.succeeds i pc' hi'⟩
    · cases hi'.symm.trans hnot
      exact ⟨fun f hf => absurd hf (by simpa [ClosePc.stage] using (hpos f).ne'), rfl⟩
    · cases hi'.symm.trans hnew
      exact ⟨fun f hf => absurd hf (by simpa [ClosePc.stage] using (hpos f).ne'), rfl⟩
    · cases hi'.symm.trans hs.after
      cases pc with
      | shutdown s =>
        rcases ClosePc.step_shutdown hs.step with ⟨-, result, rfl⟩ | ⟨s', hr, rfl⟩
        · obtain rfl := ClosePc.returned_of_unlock hs.step
          have hsucceeds := h.succeeds i _ hs.before
          refine ⟨fun f hf => ?_, by cases result <;> first | rfl | cases hsucceeds⟩
          exact hstep.closed (hok.opens_ne hs.before hf) (h.closed i _ f hs.before hf)
        · exact ⟨fun f => (h.shutdown_step hok hstep hs hr).1,
            (h.shutdown_step (f := .runtime) hok hstep hs hr).2⟩
      | _ =>
        have hstage : pc'.stage = 0 ∧ pc'.failed = false := by
          have hr := hs.step
          simp only [ClosePc.step] at hr
          repeat' split at hr
          all_goals cases hr
          all_goals exact ⟨rfl, rfl⟩
        refine ⟨fun f hf => absurd hf ?_, hstage.2⟩
        rw [hstage.1]
        exact Nat.not_le.mpr (hpos f)
  exact ⟨fun i pc f hi => (hplace i pc hi).1 f, fun i pc hi => (hplace i pc hi).2⟩

end World

/-! ## Later calls -/

/-- The server answers a `start`: its connection is established, and its first ping is written. -/
structure Env.Answers (options : ConnectionOptions) (env : Env) : Prop where
  stop : env.stop = false
  connected : ∃ reply, env.connected = .ok reply
  starts : startsRuntime options = .ok ()
  ping : initialPing options env.outcome = .ok ()

/-- What a `start` finds at a place when nothing stands in its way. -/
def StartPc.Clear (c : Control) : StartPc → Prop
  | readState => c.state = .disconnected ∧ c.connectOperation = none ∧ c.stopReconnect = false
  | setConnecting | clearClosing => c.connectOperation = none ∧ c.stopReconnect = false
  | sendStop | lock =>
    c.connectOperation = none ∧ c.stopReconnect = false ∧ c.closing = false
  | stopped | shutdown _ | failRuntime _ | failConnectionId _ | failHandshakeData _
  | failInitialMessages _ | failState _ => False
  | unlock result | returned result => result = .ok ()
  | _ => c.stopReconnect = false ∧ c.closing = false

/-- How many steps a `start` has to take, when nothing stands in its way. -/
def StartPc.stepsLeft : StartPc → ℕ
  | readState => 23
  | setConnecting => 22
  | clearClosing => 21
  | sendStop => 20
  | lock => 19
  | checkClosing => 18
  | subscribe => 17
  | connect => 16
  | setConnectionId _ => 15
  | storeBuffer _ => 14
  | setResume _ => 13
  | setHandshakeData _ => 12
  | setInitialMessages _ => 11
  | startRuntime _ => 10
  | ping .. => 9
  | storeRuntime .. => 8
  | recheckClosing _ => 7
  | setConnected _ => 6
  | markStarted _ => 5
  | abortSupervisor _ => 4
  | spawn _ => 3
  | storeSupervisor _ => 2
  | unlock _ => 1
  | _ => 0

/-- A `start` that nothing stands in the way of goes on until it returns `Ok`. -/
lemma StartPc.step_of_clear {options : ConnectionOptions} {c : Core} {env : Env} {pc : StartPc}
    (receivers : Bool) (n i : ℕ) (henv : env.Answers options) (h : pc.Clear c.control) :
    pc = returned (.ok ()) ∨ ∃ e pc', pc.step options c receivers n i env = some (e, pc') ∧
      e.op.closesTransport = false ∧ pc'.Clear (e.op.onControl c.control) ∧
      pc'.stepsLeft < pc.stepsLeft := by
  obtain ⟨reply, hreply⟩ := henv.connected
  cases pc with
  | stopped | shutdown | failRuntime | failConnectionId | failHandshakeData | failInitialMessages
  | failState => cases h
  | returned result => exact .inl (congrArg returned h)
  | readState =>
    obtain ⟨hstate, hrest⟩ := h
    have hr : readState.step options c receivers n i env = some (.skip c, setConnecting) := by
      simp only [step, hstate, if_true]
    exact .inr ⟨_, _, hr, rfl, hrest, by decide⟩
  | setConnecting => exact .inr ⟨_, _, rfl, rfl, h, by decide⟩
  | clearClosing => exact .inr ⟨_, _, rfl, rfl, ⟨h.1, h.2, rfl⟩, by decide⟩
  | sendStop =>
    obtain ⟨hlock, hstop, hclosing⟩ := h
    refine .inr ⟨_, _, rfl, rfl, ⟨?_, ?_, ?_⟩, by decide⟩
    · exact (Control.sendStop_connectOperation _ _ _).trans hlock
    · exact Control.sendStop_closed (f := .stopReconnect) hstop fun _ => rfl
    · exact (Control.sendStop_closing _ _ _).trans hclosing
  | lock =>
    obtain ⟨hlock, hrest⟩ := h
    have hr : lock.step options c receivers n i env = some (.control { c.control with
        connectOperation := some (.start i) }, checkClosing) := by
      simp only [step, hlock, if_true]
    exact .inr ⟨_, _, hr, rfl, hrest, by decide⟩
  | checkClosing =>
    have hr : checkClosing.step options c receivers n i env = some (.skip c, subscribe) := by
      simp only [step, h.2, Bool.false_eq_true, if_false]
    exact .inr ⟨_, _, hr, rfl, h, by decide⟩
  | subscribe =>
    have hr : subscribe.step options c receivers n i env = some (.skip c, connect) := by
      simp only [step, h.1, Bool.false_eq_true, if_false]
    exact .inr ⟨_, _, hr, rfl, h, by decide⟩
  | connect =>
    have hr : connect.step options c receivers n i env = some ({ op := .connect },
        setConnectionId ⟨c.connections, c.transports.length, reply⟩) := by
      simp only [step, henv.stop, hreply, Bool.false_eq_true, if_false]
    exact .inr ⟨_, _, hr, rfl, h, by simp [stepsLeft]⟩
  | startRuntime m =>
    have hr : (startRuntime m).step options c receivers n i env =
        some (.skip c, ping m c.messageBuffer) := by
      simp only [step, henv.starts]
    exact .inr ⟨_, _, hr, rfl, h, by simp [stepsLeft]⟩
  | ping m b =>
    have hr : (ping m b).step options c receivers n i env = some (.skip c, storeRuntime m b) := by
      simp only [step, henv.ping]
    exact .inr ⟨_, _, hr, rfl, h, by simp [stepsLeft]⟩
  | recheckClosing m =>
    have hr : (recheckClosing m).step options c receivers n i env =
        some (.skip c, setConnected m) := by
      simp only [step, h.2, Bool.false_eq_true, if_false]
    exact .inr ⟨_, _, hr, rfl, h, by simp [stepsLeft]⟩
  | storeSupervisor => exact .inr ⟨_, _, rfl, rfl, rfl, by simp [stepsLeft]⟩
  | _ => exact .inr ⟨_, _, rfl, rfl, h, by simp [stepsLeft]⟩

namespace World

variable {options : ConnectionOptions} {w w' : World} {i : ℕ}

/-- A later `start` is not blocked: however many of the aborted supervisors have ended, it returns
`Ok` when the server answers. -/
def StartsAgain (options : ConnectionOptions) (w : World) : Prop :=
  ∀ (ks : List ℕ) (v : World) (env : Env),
    (system options).runFrom w (ks.map .supervisorEnds) = some v → env.Answers options →
    ∃ n v', (system options).runFrom v
        (.newStart :: List.replicate n (.start v.starts.length env)) = some v' ∧
      v'.starts[v.starts.length]? = some (.returned (.ok ()))

/-- A later `close` is not blocked: it returns at once. -/
def ClosesAgain (options : ConnectionOptions) (w : World) : Prop :=
  ∀ env : Env, ∃ w', (system options).runFrom w [.newClose, .close w.closes.length env] = some w' ∧
    w'.closes[w.closes.length]? = some (.returned (.ok ()))

/-- The ends of supervisors leave the fields alone. -/
lemma core_of_supervisorEnds {ks : List ℕ} {v : World}
    (h : (system options).runFrom w (ks.map .supervisorEnds) = some v) : v.core = w.core := by
  induction ks generalizing w with
  | nil =>
    obtain rfl : w = v := by simpa using h
    rfl
  | cons k ks ih =>
    simp only [List.map_cons, Automata.System.runFrom_cons, Option.bind_eq_some_iff] at h
    obtain ⟨u, hu, hrest⟩ := h
    have hcore : u.core = w.core := by
      cases step_of_next (show next options w (.supervisorEnds k) = some u from hu)
      rfl
    exact (ih hrest).trans hcore

/-- **`start` succeeds again** on a disconnected connection with no stop left. -/
theorem startsAgain (hstate : w.core.control.state = .disconnected)
    (hlock : w.core.control.connectOperation = none)
    (hstop : w.core.control.stopReconnect = false) : w.StartsAgain options := by
  intro ks v env hv henv
  have hcore := core_of_supervisorEnds hv
  set i := v.starts.length
  have hgo : ∀ u : World, (∃ pc, u.starts[i]? = some pc ∧ pc.Clear u.core.control) →
      u.starts[i]? = some (.returned (.ok ())) ∨
        ∃ u', (system options).next u (.start i env) = some u' ∧
          (∃ pc, u'.starts[i]? = some pc ∧ pc.Clear u'.core.control) ∧
          ((u'.starts[i]?).map StartPc.stepsLeft).getD 0 <
            ((u.starts[i]?).map StartPc.stepsLeft).getD 0 := by
    rintro u ⟨pc, hpc, hclear⟩
    rcases StartPc.step_of_clear u.receivers u.supervisors.length i henv hclear with rfl |
      ⟨e, pc', hr, he, hclear', hlt⟩
    · exact .inl hpc
    · have hset : (u.starts.set i pc')[i]? = some pc' :=
        List.getElem?_set_self (List.getElem?_eq_some_iff.mp hpc).1
      refine .inr ⟨{ u.apply options e with starts := u.starts.set i pc' }, ?_, ⟨pc', hset, ?_⟩, ?_⟩
      · simp [system, next, hpc, hr, allowed, he]
      · exact (Core.applyOp_control options u.core e.op).symm ▸ hclear'
      · simpa [hset, hpc] using hlt
  have hnew : ({ v with starts := v.starts ++ [.readState] } : World).starts[i]? =
      some .readState := by simp [i]
  obtain ⟨n, u, hrun, hret⟩ := Automata.System.exists_runFrom_replicate hgo
    (s := { v with starts := v.starts ++ [.readState] })
    ⟨.readState, hnew, by rw [hcore]; exact ⟨hstate, hlock, hstop⟩⟩
  exact ⟨n, u, hrun, hret⟩

/-- **`close` returns again** at once on a disconnected connection. -/
lemma closesAgain (hstate : w.core.control.state = .disconnected) : w.ClosesAgain options := by
  intro env
  have hread : ClosePc.step options w.core w.receivers w.closes.length env .readState =
      some (.skip w.core, .returned (.ok ())) := by
    simp only [ClosePc.step, hstate]
  refine ⟨{ w with closes := w.closes ++ [.returned (.ok ())] }, ?_, by simp⟩
  have hreceivers : ({ w with closes := w.closes ++ [.readState] } : World).receivers =
      w.receivers := rfl
  simp [system, next, hreceivers, hread, allowed, Effect.skip, Op.closesTransport, apply,
    Core.applyOp]

end World

/-! ## Returning -/

/-- How many steps a call of `close` takes at most until it returns, once it has the lock. -/
def ClosePc.stepsLeft : ClosePc → ℕ
  | lock => 16
  | shutdown s => 15 - s.stage
  | unlock _ => 1
  | _ => 0

/-- A shutdown that has not returned takes a step, to a later stage. -/
lemma ShutdownPc.step_isSome (options : ConnectionOptions) (c : Core) (env : Env) (s : ShutdownPc)
    (hs : ∀ result, s ≠ returned result) :
    ∃ e s', s.step options c env = some (e, s') ∧ s.stage < s'.stage := by
  cases s with
  | returned result => exact absurd rfl (hs result)
  | takeRuntime =>
    refine ⟨_, _, rfl, ?_⟩
    split <;> simp [stage]
  | closeRuntime rt =>
    refine ⟨_, _, rfl, ?_⟩
    split <;> simp [stage]
  | _ => exact ⟨_, _, rfl, by decide⟩

/-- A call of `close` that has the lock goes on until it returns. -/
lemma ClosePc.step_of_locked (options : ConnectionOptions) (c : Core) (receivers : Bool) (i : ℕ)
    (env : Env) {pc : ClosePc} (h : pc.locked = true) :
    ∃ e pc', pc.step options c receivers i env = some (e, pc') ∧
      (pc'.locked = true ∨ ∃ result, pc' = returned result) ∧ pc'.stepsLeft < pc.stepsLeft := by
  cases pc with
  | unlock result => exact ⟨_, _, rfl, .inr ⟨result, rfl⟩, by simp [stepsLeft]⟩
  | shutdown s =>
    by_cases hret : ∃ result, s = .returned result
    · obtain ⟨result, rfl⟩ := hret
      exact ⟨_, _, rfl, .inl rfl, by simp [stepsLeft, ShutdownPc.stage]⟩
    · obtain ⟨e, s', hr, hlt⟩ := s.step_isSome options c env fun result h => hret ⟨result, h⟩
      have hstep : (shutdown s).step options c receivers i env = some (e, shutdown s') := by
        cases s <;> simp_all [step]
      have hle : s'.stage ≤ 13 := by cases s' <;> simp [ShutdownPc.stage]
      refine ⟨e, shutdown s', hstep, .inl rfl, ?_⟩
      simp only [stepsLeft]
      omega
  | _ => cases h

namespace World

variable {options : ConnectionOptions} {w w' : World} {i : ℕ}

/-- **`close` returns**: a call that has the lock returns when it is let go on, as soon as the queue
of the transport it closes has stopped. -/
theorem close_returns {pc : ClosePc} (hi : w.closes[i]? = some pc) (hpc : pc.locked = true)
    {env : Env} (henv : env.stops = true) :
    ∃ n w' result, (system options).runFrom w (List.replicate n (.close i env)) = some w' ∧
      w'.closes[i]? = some (.returned result) := by
  have hgo : ∀ u : World,
      (∃ pc, u.closes[i]? = some pc ∧ (pc.locked = true ∨ ∃ result, pc = .returned result)) →
      (∃ result, u.closes[i]? = some (.returned result)) ∨
        ∃ u', (system options).next u (.close i env) = some u' ∧
          (∃ pc, u'.closes[i]? = some pc ∧ (pc.locked = true ∨ ∃ result, pc = .returned result)) ∧
          ((u'.closes[i]?).map ClosePc.stepsLeft).getD 0 <
            ((u.closes[i]?).map ClosePc.stepsLeft).getD 0 := by
    rintro u ⟨pc, hu, hlocked | ⟨result, rfl⟩⟩
    · obtain ⟨e, pc', hr, hpc', hlt⟩ :=
        ClosePc.step_of_locked options u.core u.receivers i env hlocked
      have hlen : i < (u.apply options e).closes.length := by
        rw [length_closes_apply]
        exact (List.getElem?_eq_some_iff.mp hu).1
      have hset : ((u.apply options e).closes.set i pc')[i]? = some pc' :=
        List.getElem?_set_self hlen
      refine .inr ⟨{ u.apply options e with closes := (u.apply options e).closes.set i pc' }, ?_,
        ⟨pc', hset, hpc'⟩, ?_⟩
      · simp [system, next, hu, hr, allowed, henv]
      · simpa [hset, hu] using hlt
    · exact .inl ⟨result, hu⟩
  obtain ⟨n, u, hrun, result, hret⟩ :=
    Automata.System.exists_runFrom_replicate hgo ⟨pc, hi, .inl hpc⟩
  exact ⟨n, u, result, hrun, hret⟩

/-! ## Completing -/

/-- A call of `close` that was made in `w` has shut the connection down when it returns in `w'`. -/
structure ShutDown (options : ConnectionOptions) (w w' : World) : Prop where
  state : w'.core.control.state = .disconnected
  runtime : w'.core.runtime = none
  messageBuffer : w'.core.messageBuffer = none
  resume : w'.core.control.resume = none
  connectionId : w'.core.control.connectionId = none
  /-- If the connection had been started, the closed callbacks have run; no started connection is
  left whose callbacks have not. -/
  closedCallbacks : ∃ rounds,
    w'.core.control.closedCallbacks = w.core.control.closedCallbacks ++ rounds ∧
      (w.core.control.connectionStarted = true → rounds ≠ [])
  connectionStarted : w'.core.control.connectionStarted = false
  /-- Every call of `close` that waited has been notified. -/
  notified : ¬ w'.SomeWaiting
  close : w'.ClosesAgain options

/-- A call of `close` that was made in `w` has completed when it returns in `w'`. -/
structure Completed (options : ConnectionOptions) (w w' : World) : Prop
    extends ShutDown options w w' where
  start : w'.StartsAgain options

/-- The closed callbacks that have run since `w`. -/
def RoundsSince (w w' : World) : Prop :=
  ∃ rounds, w'.core.control.closedCallbacks = w.core.control.closedCallbacks ++ rounds ∧
    (w.core.control.connectionStarted = true → w'.core.control.connectionStarted = true ∨
      rounds ≠ [])

/-- The closed callbacks after a further step. -/
lemma RoundsSince.step {v : World} {a : Action} (h : RoundsSince w v)
    (hstep : Step options v a w') : RoundsSince w w' := by
  obtain ⟨rounds, hrounds, hstarted⟩ := h
  rcases hstep.rounds with ⟨x, reason, -, -, -, hc⟩ | ⟨-, ⟨-, hc⟩ | ⟨-, hsame⟩⟩
  · rw [RoundsSince, hc, Control.invokeClosed]
    split
    · exact ⟨rounds ++ [reason], by rw [hrounds, List.append_assoc], fun _ => .inr (by simp)⟩
    · exact ⟨rounds, hrounds, hstarted⟩
  · exact ⟨rounds, by rw [hc]; exact hrounds, fun _ => .inl (by rw [hc])⟩
  · exact ⟨rounds, hsame.2.trans hrounds, fun hw => by rw [hsame.1]; exact hstarted hw⟩

/-- A `close` that has something to close is on its way. -/
def Underway (i : ℕ) (w : World) : Prop :=
  ∃ pc, w.closes[i]? = some pc ∧ (pc.willNotify = true ∨ pc.locked = true ∨
    ∃ result, pc = .returned result)

/-- A call of `close` that finds something to close is on its way. -/
lemma underway_of_call {env : Env} (hi : w.closes[i]? = some .readState)
    (hne : w.core.control.state ≠ .disconnected) (hne' : w.core.control.state ≠ .disconnecting)
    (hstep : Step options w (.close i env) w') : Underway i w' := by
  cases hstep with
  | @close _ _ pc pc' e hi₀ hr =>
    cases hi.symm.trans hi₀
    have hpc' : pc' = .setDisconnecting := by
      simp only [ClosePc.step, Option.some.injEq, Prod.mk.injEq] at hr
      rw [← hr.2]
    subst hpc'
    refine ⟨_, List.getElem?_set_self ?_, .inl rfl⟩
    rw [length_closes_apply]
    exact (List.getElem?_eq_some_iff.mp hi).1

/-- A `close` that is on its way stays on it. -/
lemma Underway.step {a : Action} (h : Underway i w) (hstep : Step options w a w') :
    Underway i w' := by
  obtain ⟨pc, hi, hpc⟩ := h
  rcases hstep.closes i with heq | ⟨hwaiting, -⟩ | ⟨-, hnone, -⟩ | ⟨pc₀, pc', e, env, hs⟩
  · exact ⟨pc, heq.trans hi, hpc⟩
  · cases hi.symm.trans hwaiting
    simp [ClosePc.willNotify, ClosePc.locked] at hpc
  · rw [hi] at hnone
    cases hnone
  · cases hi.symm.trans hs.before
    refine ⟨pc', hs.after, ?_⟩
    have hr := hs.step
    cases pc with
    | shutdown s =>
      rcases ClosePc.step_shutdown hr with ⟨-, result, rfl⟩ | ⟨s', -, rfl⟩
      · exact .inr (.inl rfl)
      · exact .inr (.inl rfl)
    | unlock result =>
      cases hr
      exact .inr (.inr ⟨result, rfl⟩)
    | lock =>
      simp only [ClosePc.step] at hr
      split at hr <;> cases hr
      exact .inr (.inl rfl)
    | setDisconnecting | setClosing | sendStop =>
      cases hr
      exact .inl rfl
    | returned | waiting => cases hr
    | readState | register | notified => simp [ClosePc.willNotify, ClosePc.locked] at hpc

/-- A `close` that has something to close returns behind `unlock`. -/
lemma Underway.unlock {env : Env} {result : Except Error Unit} (h : Underway i w)
    (hstep : Step options w (.close i env) w') (hret : w'.closes[i]? = some (.returned result)) :
    w.closes[i]? = some (.unlock result) := by
  obtain ⟨pc, hi, hpc⟩ := h
  cases hstep with
  | @close _ _ pc₀ pc' e hi₀ hr =>
    cases hi.symm.trans hi₀
    have hlen : i < (w.apply options e).closes.length := by
      rw [length_closes_apply]
      exact (List.getElem?_eq_some_iff.mp hi).1
    rw [List.getElem?_set_self hlen] at hret
    cases hret
    cases pc with
    | unlock => cases hr; exact hi
    | shutdown s => rcases ClosePc.step_shutdown hr with ⟨-, _, h⟩ | ⟨_, -, h⟩ <;> cases h
    | lock =>
      simp only [ClosePc.step] at hr
      split at hr <;> cases hr
    | setDisconnecting | setClosing | sendStop | returned | waiting => cases hr
    | readState | register | notified => simp [ClosePc.willNotify, ClosePc.locked] at hpc

/-- A `close` has shut down when it returns behind `unlock`. -/
lemma Shut.shutDown {env : Env} {result : Except Error Unit} {v : World} (h : Shut v)
    (hok : v.Undisturbed options (.close i env)) (hi : v.closes[i]? = some (.unlock result))
    (hstep : Step options v (.close i env) w') (hrounds : RoundsSince w w') :
    ShutDown options w w' := by
  have hclosed : ∀ f : CloseField, f.stage ≤ 13 → w'.Closed f := fun f hf =>
    hstep.closed (hok.opens_ne hi hf) (h.closed i _ f hi hf)
  have hstate : w'.core.control.state = .disconnected := (hclosed .state (by decide)).control
  have hstarted : w'.core.control.connectionStarted = false :=
    (hclosed .connectionStarted (by decide)).control
  obtain ⟨rounds, heq, hne⟩ := hrounds
  exact {
    state := hstate
    runtime := (hclosed .runtime (by decide)).runtime rfl
    messageBuffer := (hclosed .messageBuffer (by decide)).messageBuffer rfl
    resume := (hclosed .resume (by decide)).control
    connectionId := (hclosed .connectionId (by decide)).control
    closedCallbacks := ⟨rounds, heq, fun hw => (hne hw).resolve_left (by simp [hstarted])⟩
    connectionStarted := hstarted
    notified := (hclosed .waiting (by decide)).waiting rfl
    close := closesAgain hstate }

/-- The lock is free behind `unlock`. -/
lemma connectOperation_of_unlock {env : Env} {result : Except Error Unit}
    (hi : w.closes[i]? = some (.unlock result)) (hstep : Step options w (.close i env) w') :
    w'.core.control.connectOperation = none := by
  cases hstep with
  | close hi₀ hr =>
    cases hi.symm.trans hi₀
    cases hr
    rfl

/-- **When `close` completes**: in every run whose steps do not disturb it, a call that was made in
a state other than `Disconnected` and `Disconnecting` has shut the connection down when it returns;
when the stops of the run get to nobody, it has completed.

**Proof sketch.** The call returns by the step `unlock`, behind a shutdown that has come to its last
stage. By the invariant `Shut` everything it has to close is closed then. A later `start` finds no
stop, since none was ever heard. -/
theorem close_completes_of_meets {options : ConnectionOptions} {as bs : List Action}
    {w w₁ v w' : World} {i : ℕ} {env env' : Env} {result : Except Error Unit}
    (hrun : (system options).run as = some w) (hi : w.closes[i]? = some .readState)
    (hne : w.core.control.state ≠ .disconnected) (hne' : w.core.control.state ≠ .disconnecting)
    (hcall : next options w (.close i env) = some w₁)
    (hbs : (system options).runFrom w₁ bs = some v)
    (hlast : next options v (.close i env') = some w')
    (hret : w'.closes[i]? = some (.returned result))
    (hm : (system options).Meets (Undisturbed options)
      (as ++ (.close i env :: bs ++ [.close i env']))) :
    ShutDown options w w' ∧
      ((system options).Meets Unheard (as ++ (.close i env :: bs ++ [.close i env'])) →
        Completed options w w') := by
  have hrest : (system options).runFrom w (.close i env :: bs) = some v :=
    Option.bind_eq_some_iff.mpr ⟨w₁, hcall, hbs⟩
  obtain ⟨hm₁, hm₂⟩ := Automata.System.meetsFrom_append hm hrun
  obtain ⟨hm₂, hm₃⟩ := Automata.System.meetsFrom_append hm₂ hrest
  have hshut : Shut v := by
    have hpreserved : ∀ u a u', Shut u → u.Undisturbed options a →
        (system options).next u a = some u' → Shut u' :=
      fun u a u' hu hok hnext => hu.step hok (step_of_next hnext)
    have hw : Shut w := Automata.System.invariant_of_meets .init hpreserved hrun hm₁
    exact Automata.System.invariant_of_meetsFrom hpreserved hw hrest hm₂
  have hstep := step_of_next hlast
  have hunderway : Underway i v :=
    Automata.System.invariant_of_runFrom (I := Underway i)
      (fun u a u' hu hnext => hu.step (step_of_next hnext))
      (underway_of_call hi hne hne' (step_of_next hcall)) hbs
  have hrounds : RoundsSince w v :=
    Automata.System.invariant_of_runFrom (I := RoundsSince w)
      (fun u a u' hu hnext => hu.step (step_of_next hnext)) ⟨[], by simp, .inl⟩ hrest
  have hunlock := hunderway.unlock hstep hret
  have hdown := hshut.shutDown hm₃.1 hunlock hstep (hrounds.step hstep)
  refine ⟨hdown, fun hunheard => ⟨hdown, ?_⟩⟩
  have hstop : w'.Closed .stopReconnect := by
    refine Automata.System.invariant_of_meets (I := fun u : World => u.Closed .stopReconnect)
      closed_stopReconnect_new
      (fun u a u' hu hok hnext => (step_of_next hnext).closed_stopReconnect hok hu) ?_ hunheard
    rw [Automata.System.run, Automata.System.runFrom_append,
      show (system options).runFrom (system options).init as = some w from hrun, Option.bind_some,
      Automata.System.runFrom_append, hrest, Option.bind_some]
    simpa [Automata.System.runFrom, system] using hlast
  exact startsAgain hdown.state (connectOperation_of_unlock hunlock hstep) hstop.control

/-- A connection that was started is closed. -/
def closeStarted : List Action := startRun {} ++ [.newClose]

/-- While the call has set `closing` and has not sent the stop, the transport drops: the supervisor
sees `closing` and ends. Another `close` is called and waits; then the first goes on. -/
def closeUnheard : List Action :=
  [.close 0 {}, .close 0 {}, .supervisor 0 .dropped, .supervisor 0 .dropped, .newClose, .close 1 {},
    .close 1 {}] ++ List.replicate 16 (.close 0 {})

/-- `close` completes when nobody hears its stop. -/
theorem close_completes_of_meets_unheard :
    ∃ w w', (system .plain).run closeStarted = some w ∧
      (system .plain).runFrom w (.close 0 {} :: closeUnheard ++ [.close 0 {}]) = some w' ∧
      (w.core.control.state, w.core.control.connectionStarted) = (.connected, true) ∧
      w'.closes = [.returned (.ok ()), .notified] ∧ Completed .plain w w' := by
  obtain ⟨w, hrun, hw⟩ := Option.map_eq_some_iff.mp (show
    ((system .plain).run closeStarted).map (fun w =>
      (w.closes, w.core.control.state, w.core.control.connectionStarted)) =
      some ([.readState], .connected, true) by rfl)
  obtain ⟨hcloses, hstate⟩ := Prod.mk.inj hw
  obtain ⟨w', hrun', hw'⟩ := Option.map_eq_some_iff.mp (show
    ((system .plain).run (closeStarted ++ (.close 0 {} :: closeUnheard ++ [.close 0 {}]))).map
      World.closes = some [.returned (.ok ()), .notified] by rfl)
  rw [Automata.System.run, Automata.System.runFrom_append,
    show (system .plain).runFrom (system .plain).init closeStarted = some w from hrun,
    Option.bind_some] at hrun'
  obtain ⟨v, hv, hlast⟩ := Option.bind_eq_some_iff.mp
    ((Automata.System.runFrom_append _ w (.close 0 {} :: closeUnheard) _).symm.trans hrun')
  obtain ⟨w₁, hcall, hbs⟩ := Option.bind_eq_some_iff.mp hv
  refine ⟨w, w', hrun, hrun', hstate, hw', ?_⟩
  have hstate' : w.core.control.state = .connected := (Prod.mk.inj hstate).1
  have hret : w'.closes[0]? = some (.returned (.ok ())) := by simp [hw']
  exact (close_completes_of_meets hrun (by simp [hcloses]) (by simp [hstate']) (by simp [hstate'])
    hcall hbs (by simpa [Automata.System.runFrom, system] using hlast) hret
    (by decide +kernel)).2 (by decide +kernel)

/-- The sink of the transport does not close. -/
def brokenSink : Env := { outcome := .error (.webSocket "broken pipe") }

/-- **`close` does not complete**: when the sink does not close, `close` returns its error and
leaves the connection in the state `Disconnecting`, without running the closed callbacks and without
notifying the other calls of `close`. -/
theorem close_not_completed :
    ¬ ∀ (options : ConnectionOptions) (as : List Action) (w : World) (i : ℕ) (env : Env),
      (system options).run as = some w → w.closes[i]? = some .readState →
      w.core.control.state ≠ .disconnected → w.core.control.state ≠ .disconnecting →
      ∀ n w' result, (system options).runFrom w (List.replicate n (.close i env)) = some w' →
        w'.closes[i]? = some (.returned result) → Completed options w w' := by
  intro h
  obtain ⟨w, hw, hfields⟩ := Option.map_eq_some_iff.mp (show
    ((system .plain).run closeStarted).map (fun w => (w.closes, w.core.control.state)) =
      some ([.readState], .connected) by rfl)
  obtain ⟨hcloses, hstate⟩ := Prod.mk.inj hfields
  obtain ⟨w', hw', hend⟩ := Option.map_eq_some_iff.mp (show
    ((system .plain).run (closeStarted ++ List.replicate 12 (.close 0 brokenSink))).map
      (fun w => (w.closes, w.core.control.state)) =
        some ([.returned brokenSink.outcome], .disconnecting) by rfl)
  obtain ⟨hcloses', hstate'⟩ := Prod.mk.inj hend
  rw [Automata.System.run, Automata.System.runFrom_append,
    show (system .plain).runFrom (system .plain).init closeStarted = some w from hw,
    Option.bind_some] at hw'
  have hdone := h .plain closeStarted w 0 brokenSink hw (by simp [hcloses]) (by simp [hstate])
    (by simp [hstate]) 12 w' brokenSink.outcome hw' (by simp [hcloses'])
  have hfinal := hdone.state
  rw [hstate'] at hfinal
  cases hfinal

/-- The stop of an ordinary `close`, which the supervisor hears, aborts every later `start`. -/
example :
    ((system .plain).run (closeStarted ++ List.replicate 20 (.close 0 {}) ++
      .supervisorEnds 0 :: .newStart :: List.replicate 13 (.start 1 {}))).map (fun w =>
        (w.closes, w.core.control.stopReconnect, w.starts[1]?)) =
      some ([.returned (.ok ())], true, some (.returned (.error stoppedDuringStart))) := by rfl

end World

end Signalrr.HubConnection
