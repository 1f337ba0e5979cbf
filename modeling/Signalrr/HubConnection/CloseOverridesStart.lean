import Signalrr.HubConnection.CloseNotify
import Signalrr.HubConnection.Backpressure

set_option relaxedAutoImplicit false
set_option autoImplicit false

/-!
# A close during a start

`start` and `close` in `src/hub_connection/mod.rs` tell each other what they want through `state`,
`closing`, `stop_reconnect` and the mutex `connect_operation`. `start` publishes `Connecting` before
it clears `closing`, so a `close` that reads `Connecting` in between has its request cleared; if it
gets the mutex first, the connection is established after it has returned.

## Main definitions

* `Signalrr.HubConnection.World.ReadsActive` — a `close` reads a state other than `Disconnected`, in
  a history.
* `Signalrr.HubConnection.World.requestLost` — `start` gets the mutex after `close` has returned,
  and `closing` is not set any more.
* `Signalrr.HubConnection.World.Overridden`, `World.Overriding` — what is known at each place of the
  two calls.

## Main results

* `Signalrr.HubConnection.World.close_overrides_start` — the connection is closed after both calls
  have returned, in runs in which no request is lost.
* `Signalrr.HubConnection.World.start_overrides_close` — in general it may be established.
-/

namespace Signalrr.HubConnection

open Hub

/-- A shutdown has taken the runtime. -/
def ShutdownPc.pastRuntime : ShutdownPc → Bool
  | abortSupervisor | dispose | cancelAll | takeRuntime => false
  | _ => true

/-- The runtime stays taken in the shutdown. -/
lemma ShutdownPc.step_runtime {options : ConnectionOptions} {c : Core} {env : Env} {e : Effect}
    {s s' : ShutdownPc} (h : s.step options c env = some (e, s'))
    (hc : s.pastRuntime = true → c.runtime = none) (hs' : s'.pastRuntime = true) :
    (c.applyOp options e.op).runtime = none := by
  have hkeep : s.pastRuntime = true → (c.applyOp options e.op).runtime = none := by
    intro hs
    rcases Core.runtime_applyOp options c (step_storesRuntime h) with hrt | hrt
    · rw [hrt, hc hs]
    · exact hrt
  cases s with
  | takeRuntime =>
    cases h
    rfl
  | abortSupervisor | dispose | cancelAll =>
    cases h
    cases hs'
  | _ => exact hkeep rfl

/-- The lock after a step of one of two tasks that exclude each other. -/
lemma LockStep.exclude {t u : Task} {locked locked' other : Bool} {owner owner' : Option Task}
    (h : LockStep t locked locked' owner owner') (htu : t ≠ u) (ht : locked = true → owner = some t)
    (hu : other = true → owner = some u) :
    (locked' = true → owner' = some t) ∧ (other = true → owner' = some u) := by
  rcases h with ⟨hl, ho⟩ | ⟨-, ho, ho'⟩ | ⟨hl, hl', -⟩
  · rw [hl, ho]
    exact ⟨ht, hu⟩
  · refine ⟨fun _ => ho', fun h => ?_⟩
    cases (hu h).symm.trans ho
  · refine ⟨fun h => ?_, fun h => ?_⟩
    · rw [hl'] at h
      cases h
    · exact absurd (Option.some.inj ((ht hl).symm.trans (hu h))) htu

namespace World

/-! ## Statement -/

/-- Call `j` of `close` reads a state other than `Disconnected`. -/
def ReadsActive (past : List (World × Action)) (j : ℕ) : Prop :=
  ∃ v env, (v, Action.close j env) ∈ past ∧ v.closes[j]? = some .readState ∧
    v.core.control.state ≠ .disconnected

/-- Only call `i` of `start` and call `j` of `close` run, besides the calls of the application. -/
def OfStartAndClose (i j : ℕ) : Action → Prop
  | .start k _ => k = i
  | .close k _ => k = j
  | .core _ => True
  | _ => False

instance (i j : ℕ) : (a : Action) → Decidable (OfStartAndClose i j a)
  | .start k _ => inferInstanceAs (Decidable (k = i))
  | .close k _ => inferInstanceAs (Decidable (k = j))
  | .core _ => .isTrue trivial
  | .newStart | .newClose | .supervisor .. | .supervisorEnds _ => .isFalse id

/-- Call `j` of `close` has returned. -/
def closeReturned (w : World) (j : ℕ) : Bool :=
  match w.closes[j]? with
  | some (.returned _) => true
  | _ => false

/-- A `start` gets the mutex after call `j` of `close` has returned, and does not find `closing`
set. -/
def requestLost (j : ℕ) (w : World) : Action → Bool
  | .start i _ =>
    match w.starts[i]? with
    | some .lock => w.closeReturned j && !w.core.control.closing
    | _ => false
  | _ => false

/-- The condition on a step. -/
def KeepsRequest (j : ℕ) (w : World) (a : Action) : Prop := requestLost j w a = false

instance (j : ℕ) (w : World) (a : Action) : Decidable (KeepsRequest j w a) :=
  inferInstanceAs (Decidable (requestLost j w a = false))

/-! ## The places of the two calls -/

/-- The `start` has not begun or has returned. -/
def outside (pc : StartPc) : Prop := pc = .readState ∨ ∃ result, pc = .returned result

/-- What is known of a `start` once `close` has set the state to `Disconnected`: it has found that
out or will do so. -/
def Overridden (c : Control) : StartPc → Prop
  | .readState | .setConnecting | .stopped | .unlock _ | .returned _ => c.state = .disconnected
  | .clearClosing => True
  | .sendStop | .lock => c.state = .disconnected ∨ c.closing = false
  | .checkClosing => c.state = .disconnected ∧ c.closing = true
  | _ => False

/-- What is known at each place of `close`, when `start` is at `pc`. -/
def Overriding (w : World) (pc : StartPc) : ClosePc → Prop
  | .readState => w.core.control.state = .disconnecting → outside pc
  | .register | .waiting => w.core.control.state = .disconnecting ∧ outside pc
  | .notified => False
  | .setDisconnecting | .setClosing | .sendStop | .lock => True
  | .shutdown s => (s.pastRuntime = true → w.core.runtime = none) ∧
      (s.announced = false → Overridden w.core.control pc)
  | .unlock _ | .returned _ => w.core.runtime = none ∧ Overridden w.core.control pc

section Steps

variable {options : ConnectionOptions} {c : Core} {env : Env} {e : Effect} {receivers : Bool}
  {i n : ℕ} {pc pc' : StartPc}

/-- A `start` that does not hold the lock is overridden when the state is `Disconnected`. -/
lemma overridden_of_not_locked {c : Control} (hl : pc.locked = false)
    (hst : c.state = .disconnected) : Overridden c pc := by
  cases pc with
  | readState | setConnecting | returned => exact hst
  | clearClosing => trivial
  | sendStop | lock => exact .inl hst
  | _ => cases hl

/-- Only `state` and `closing` matter. -/
lemma Overridden.congr {c c' : Control} (h : Overridden c pc) (hst : c'.state = c.state)
    (hcl : c'.closing = c.closing) : Overridden c' pc := by
  unfold Overridden at h ⊢
  rw [hst, hcl]
  exact h

/-- A `start` that is overridden stays so, unless it gets the lock and the request is lost. -/
lemma Overridden.step (h : Overridden c.control pc)
    (hs : pc.step options c receivers n i env = some (e, pc'))
    (hlock : pc = .lock → c.control.closing = true) :
    Overridden (e.op.onControl c.control) pc' := by
  cases pc with
  | readState =>
    have hst : c.control.state = .disconnected := h
    cases hs
    rw [if_pos hst]
    exact hst
  | setConnecting =>
    cases hs
    trivial
  | clearClosing =>
    cases hs
    exact .inr rfl
  | sendStop =>
    have hst : c.control.state = .disconnected ∨ c.control.closing = false := h
    cases hs
    show (c.control.sendStop receivers false).state = .disconnected ∨
      (c.control.sendStop receivers false).closing = false
    rw [Control.sendStop_state, Control.sendStop_closing]
    exact hst
  | lock =>
    have hst : c.control.state = .disconnected ∨ c.control.closing = false := h
    have hcl := hlock rfl
    rw [hcl] at hst
    simp only [StartPc.step] at hs
    split at hs <;> cases hs
    exact ⟨hst.resolve_right fun hf => (by cases hf), hcl⟩
  | checkClosing =>
    obtain ⟨hst, hcl⟩ := h
    cases hs
    rw [if_pos hcl]
    exact hst
  | stopped =>
    cases hs
    rfl
  | unlock result =>
    cases hs
    exact h
  | returned => cases hs
  | _ => cases h

/-- A `start` that is overridden changes nothing but `Control`. -/
lemma Overridden.op (h : Overridden c.control pc)
    (hs : pc.step options c receivers n i env = some (e, pc')) :
    ∃ control, e.op = .control control := by
  cases pc with
  | lock =>
    simp only [StartPc.step] at hs
    split at hs <;> cases hs
    exact ⟨_, rfl⟩
  | readState | setConnecting | clearClosing | sendStop | checkClosing | stopped | unlock =>
    cases hs
    exact ⟨_, rfl⟩
  | returned => cases hs
  | _ => cases h

/-- While the state is `Disconnecting`, a `start` that has not begun is refused. -/
lemma outside.step (h : outside pc) (hst : c.control.state = .disconnecting)
    (hs : pc.step options c receivers n i env = some (e, pc')) :
    outside pc' ∧ e.op.onControl c.control = c.control := by
  rcases h with rfl | ⟨result, rfl⟩
  · cases hs
    rw [if_neg (by rw [hst]; decide)]
    exact ⟨.inr ⟨_, rfl⟩, rfl⟩
  · cases hs

end Steps

variable {options : ConnectionOptions} {w w' : World} {a : Action} {past : List (World × Action)}
  {i j : ℕ} {pc pc' : StartPc} {cl cl' : ClosePc} {e : Effect} {env : Env}
  {receivers : Bool} {n : ℕ}

/-- A step that changes nothing but `Control` leaves the runtime alone. -/
lemma runtime_of_control {c : Core} {control : Control} (h : e.op = .control control) :
    (c.applyOp options e.op).runtime = c.runtime := by
  rw [h]
  rfl

/-- A step of `start`, seen from `close`.

**Proof sketch.** While `close` holds the lock `start` does not, so it changes nothing but
`Control`. Afterwards it gets the lock only when `closing` is set, and gives up. -/
lemma Overriding.start (h : Overriding w pc cl)
    (hs : pc.step options w.core receivers n i env = some (e, pc'))
    (hstart : pc.locked = true → w.core.control.connectOperation = some (.start i))
    (hclose : cl.locked = true → w.core.control.connectOperation = some (.close j))
    (hreq : pc = .lock → (∃ result, cl = .returned result) → w.core.control.closing = true)
    (hcore : w'.core = w.core.applyOp options e.op) : Overriding w' pc' cl := by
  have hcontrol : w'.core.control = e.op.onControl w.core.control := by
    rw [hcore, Core.applyOp_control]
  -- while `close` holds the lock
  have hheld : cl.locked = true → pc.locked = false ∧ pc ≠ .lock := by
    intro hl
    refine ⟨?_, ?_⟩
    · by_contra hpc
      rw [Bool.not_eq_false] at hpc
      cases (hstart hpc).symm.trans (hclose hl)
    · rintro rfl
      simp only [StartPc.step] at hs
      split at hs
      · rename_i hnone
        cases (hclose hl).symm.trans hnone
      · cases hs
  cases cl with
  | readState =>
    intro hd
    rw [hcontrol] at hd
    exact ((h (StartPc.step_disconnecting hs hd)).step (StartPc.step_disconnecting hs hd) hs).1
  | register | waiting =>
    obtain ⟨hst, hout⟩ := h
    obtain ⟨hout', hsame⟩ := hout.step hst hs
    refine ⟨?_, hout'⟩
    rw [hcontrol, hsame]
    exact hst
  | notified => exact h
  | setDisconnecting | setClosing | sendStop | lock => trivial
  | shutdown s =>
    obtain ⟨hrt, hov⟩ := h
    obtain ⟨hl, hne⟩ := hheld rfl
    obtain ⟨control, hop⟩ := StartPc.step_unlocked hs hl
    refine ⟨fun hp => ?_, fun ha => ?_⟩
    · rw [hcore, runtime_of_control hop]
      exact hrt hp
    · rw [hcontrol]
      exact (hov ha).step hs fun hpc => absurd hpc hne
  | unlock result =>
    obtain ⟨hrt, hov⟩ := h
    obtain ⟨hl, hne⟩ := hheld rfl
    obtain ⟨control, hop⟩ := StartPc.step_unlocked hs hl
    refine ⟨?_, ?_⟩
    · rw [hcore, runtime_of_control hop]
      exact hrt
    · rw [hcontrol]
      exact hov.step hs fun hpc => absurd hpc hne
  | returned result =>
    obtain ⟨hrt, hov⟩ := h
    obtain ⟨control, hop⟩ := hov.op hs
    refine ⟨?_, ?_⟩
    · rw [hcore, runtime_of_control hop]
      exact hrt
    · rw [hcontrol]
      exact hov.step hs fun hpc => hreq hpc ⟨result, rfl⟩

/-- A step of `close`, when it does not read `Disconnected`.

**Proof sketch.** It sets the state to `Disconnected` while it holds the lock, so `start` does
not. -/
lemma Overriding.close (h : Overriding w pc cl)
    (hs : cl.step options w.core receivers j env = some (e, cl'))
    (hread : cl = .readState → w.core.control.state ≠ .disconnected)
    (hsink : ∀ rt, cl.shutdown? = some (.closeRuntime rt) →
      (w.core.shutdown options rt env.write env.outcome).2 = .ok ())
    (hl : cl.locked = true → pc.locked = false)
    (hcore : w'.core = w.core.applyOp options e.op) : Overriding w' pc cl' := by
  have hcontrol : w'.core.control = e.op.onControl w.core.control := by
    rw [hcore, Core.applyOp_control]
  cases cl with
  | readState =>
    have hne := hread rfl
    cases hs
    cases hst : w.core.control.state with
    | disconnected => exact absurd hst hne
    | disconnecting => exact ⟨hcontrol ▸ hst, h hst⟩
    | _ => trivial
  | register =>
    cases hs
    exact ⟨hcontrol ▸ h.1, h.2⟩
  | waiting | returned => cases hs
  | notified => cases h
  | setDisconnecting | setClosing | sendStop =>
    cases hs
    trivial
  | lock =>
    simp only [ClosePc.step] at hs
    split at hs <;> cases hs
    exact ⟨fun hp => (by cases hp), fun ha => (by cases ha)⟩
  | shutdown s =>
    obtain ⟨hrt, hov⟩ := h
    rcases ClosePc.step_shutdown hs with ⟨rfl, result, rfl⟩ | ⟨s', hstep, rfl⟩
    · cases s with
      | returned result =>
        refine ⟨?_, ?_⟩
        · rw [hcore]
          exact hrt rfl
        · rw [hcontrol]
          exact hov rfl
      | _ => simp [ClosePc.step, ShutdownPc.step, Effect.skip] at hs
    · refine ⟨fun hp => ?_, fun ha => ?_⟩
      · rw [hcore]
        exact ShutdownPc.step_runtime hstep hrt hp
      · rw [hcontrol]
        cases hann : s.announced with
        | true =>
          rcases ShutdownPc.step_announced hstep hann with ha' | rfl | ⟨rt, rfl, hfail⟩
          · rw [ha] at ha'
            cases ha'
          · cases hstep
            exact overridden_of_not_locked (hl rfl) rfl
          · rw [hsink rt rfl] at hfail
            cases hfail
        | false =>
          cases s with
          | invokeClosed =>
            cases hstep
            exact (hov hann).congr (Control.invokeClosed_state _ _)
              (Control.invokeClosed_closing _ _)
          | notify =>
            cases hstep
            exact hov hann
          | returned => cases hstep
          | _ => cases hann
  | unlock result =>
    obtain ⟨hrt, hov⟩ := h
    cases hs
    refine ⟨?_, ?_⟩
    · rw [hcore]
      exact hrt
    · rw [hcontrol]
      exact hov.congr rfl rfl

/-- The two calls with their places. -/
structure Duel (past : List (World × Action)) (w : World) (i j : ℕ) (pc : StartPc) (cl : ClosePc) :
    Prop where
  start : w.starts[i]? = some pc
  close : w.closes[j]? = some cl
  startLock : pc.locked = true → w.core.control.connectOperation = some (.start i)
  closeLock : cl.locked = true → w.core.control.connectOperation = some (.close j)
  unread : cl = .readState → ¬ ReadsActive past j
  /-- The places fit, or `close` has read `Disconnected` and returned. -/
  places : Overriding w pc cl ∨ ¬ ReadsActive past j ∧ ∃ result, cl = .returned result

/-- A step that is not the read of `close`. -/
lemma readsActive_concat_of_ne (h : ∀ env, a = .close j env → w.closes[j]? ≠ some .readState) :
    ReadsActive (past ++ [(w, a)]) j ↔ ReadsActive past j := by
  constructor
  · rintro ⟨v, env, hmem, hread, hst⟩
    rcases List.mem_append.mp hmem with hmem | hmem
    · exact ⟨v, env, hmem, hread, hst⟩
    · cases List.mem_singleton.mp hmem
      exact absurd hread (h env rfl)
  · rintro ⟨v, env, hmem, hread, hst⟩
    exact ⟨v, env, List.mem_append_left _ hmem, hread, hst⟩

/-- **One step** under the condition. -/
lemma Duel.step (h : Duel past w i j pc cl) (ha : OfStartAndClose i j a)
    (hsink : w.SinksClose options a) (hok : KeepsRequest j w a) (hstep : Step options w a w') :
    ∃ pc' cl', Duel (past ++ [(w, a)]) w' i j pc' cl' := by
  cases hstep with
  | @start k env pc₁ pc' e hi hr =>
    obtain rfl : k = i := ha
    obtain rfl := Option.some.inj (h.start.symm.trans hi)
    have hpast : ReadsActive (past ++ [(w, .start k env)]) j ↔ ReadsActive past j :=
      readsActive_concat_of_ne fun env' hne => by cases hne
    have hexcl := (StartPc.step_lock hr).exclude (u := .close j) (fun hne => by cases hne)
      h.startLock h.closeLock
    have hcore : ({ w.apply options e with starts := w.starts.set k pc' } : World).core =
        w.core.applyOp options e.op := rfl
    have hlt := (List.getElem?_eq_some_iff.mp hi).1
    have hreq : pc = .lock → (∃ result, cl = .returned result) →
        w.core.control.closing = true := by
      rintro rfl ⟨result, rfl⟩
      simpa [KeepsRequest, requestLost, hi, closeReturned, h.close] using hok
    have hclose : ({ w.apply options e with starts := w.starts.set k pc' } : World).closes[j]? =
        some cl := by
      rcases getElem?_closes_apply_eq options w e j with heq | ⟨hn, hw, -⟩
      · exact heq.trans h.close
      · -- a `start` that notifies is in a shutdown, and `close` is not waiting then
        cases h.close.symm.trans hw
        have hshut := (StartPc.step_notify hr).mp hn
        rcases h.places with ⟨-, hout⟩ | ⟨-, result, hres⟩
        · rcases hout with rfl | ⟨result, rfl⟩ <;> cases hshut
        · cases hres
    refine ⟨pc', cl, List.getElem?_set_self hlt, hclose, ?_, ?_, ?_, ?_⟩
    · simpa [apply] using hexcl.1
    · simpa [apply] using hexcl.2
    · exact fun hcl hra => h.unread hcl (hpast.mp hra)
    · rw [hpast]
      exact h.places.imp_left fun hov => hov.start hr h.startLock h.closeLock hreq hcore
  | @close k env cl₁ cl' e hi hr =>
    obtain rfl : k = j := ha
    obtain rfl := Option.some.inj (h.close.symm.trans hi)
    have hexcl := (ClosePc.step_lock hr).exclude (u := .start i) (fun hne => by cases hne)
      h.closeLock h.startLock
    have hcore : ({ w.apply options e with closes := (w.apply options e).closes.set k cl' } :
        World).core = w.core.applyOp options e.op := rfl
    have hlt : k < (w.apply options e).closes.length := by
      rw [length_closes_apply]
      exact (List.getElem?_eq_some_iff.mp hi).1
    have hshut : w.shutdownPc (.close k) = cl.shutdown? := by simp [shutdownPc, hi]
    have hunlocked : cl.locked = true → pc.locked = false := by
      intro hl
      by_contra hpc
      rw [Bool.not_eq_false] at hpc
      cases (h.startLock hpc).symm.trans (h.closeLock hl)
    have hread' : cl' ≠ .readState := by
      rintro rfl
      cases cl with
      | shutdown s =>
        rcases ClosePc.step_shutdown hr with ⟨-, result, hres⟩ | ⟨s', -, hres⟩ <;> cases hres
      | lock =>
        simp only [ClosePc.step] at hr
        split at hr <;> cases hr
      | readState =>
        simp only [ClosePc.step] at hr
        split at hr <;> cases hr
      | _ => cases hr
    refine ⟨pc, cl', h.start, List.getElem?_set_self hlt, ?_, ?_, fun hcl => absurd hcl hread', ?_⟩
    · simpa [apply] using hexcl.2
    · simpa [apply] using hexcl.1
    · by_cases hd : cl = .readState ∧ w.core.control.state = .disconnected
      · obtain ⟨rfl, hst⟩ := hd
        right
        refine ⟨?_, ?_⟩
        · rintro ⟨v, env', hmem, hread, hne⟩
          rcases List.mem_append.mp hmem with hmem | hmem
          · exact h.unread rfl ⟨v, env', hmem, hread, hne⟩
          · cases List.mem_singleton.mp hmem
            exact hne hst
        · cases hr
          rw [hst]
          exact ⟨_, rfl⟩
      · rcases h.places with hov | ⟨-, result, rfl⟩
        · left
          refine hov.close hr (fun hcl hst => hd ⟨hcl, hst⟩) ?_ hunlocked hcore
          exact fun rt hrt => hsink.shutdown rfl (hshut.trans hrt)
        · cases hr
  | @core ca c hen hr =>
    have hsame := sameLifecycle_of_next (ne_op_of_coreEnabled hen) hr
    have hpast : ReadsActive (past ++ [(w, .core ca)]) j ↔ ReadsActive past j :=
      readsActive_concat_of_ne fun env' hne => by cases hne
    have hrt : w.core.runtime = none → c.runtime = none := by
      intro hnone
      have hmap := hsame.runtime
      rw [hnone] at hmap
      simpa using hmap
    refine ⟨pc, cl, h.start, h.close, ?_, ?_, ?_, ?_⟩
    · rw [hsame.control]
      exact h.startLock
    · rw [hsame.control]
      exact h.closeLock
    · exact fun hcl hra => h.unread hcl (hpast.mp hra)
    · rw [hpast]
      refine h.places.imp_left fun hov => ?_
      cases cl with
      | shutdown s =>
        refine ⟨fun hp => hrt (hov.1 hp), fun ha => ?_⟩
        rw [hsame.control]
        exact hov.2 ha
      | unlock | returned =>
        refine ⟨hrt hov.1, ?_⟩
        rw [hsame.control]
        exact hov.2
      | readState | register | waiting =>
        simpa only [Overriding, hsame.control] using hov
      | setDisconnecting | setClosing | sendStop | lock => trivial
      | notified => exact hov
  | newStart | newClose | supervisor | supervisorEnds => cases ha

/-- **A `close` overrides a concurrent `start`** when closing the transport succeeds, and when
`start` finds `closing` set if it gets the mutex after `close` has returned. The steps are those of
the two calls and of the tasks of the runtime: no supervisor takes one, and no other call. -/
theorem close_overrides_start (options : ConnectionOptions) {w₀ w : World} {i j : ℕ}
    (hi : w₀.starts[i]? = some .readState) (hj : w₀.closes[j]? = some .readState)
    {as : List Action} (has : ∀ a ∈ as, OfStartAndClose i j a)
    (hrun : (system options).runFrom w₀ as = some w)
    (hsinks : (system options).MeetsFrom (SinksClose options) w₀ as)
    (hm : (system options).MeetsFrom (KeepsRequest j) w₀ as)
    (hread : ReadsActive ((system options).stepsFrom w₀ as) j) {rs rc : Except Error Unit}
    (hstart : w.starts[i]? = some (.returned rs)) (hclose : w.closes[j]? = some (.returned rc)) :
    w.core.control.state = .disconnected ∧ w.core.runtime = none := by
  have hnone : ¬ ReadsActive [] j := by
    rintro ⟨v, env, hmem, -⟩
    cases hmem
  have hinit : Duel [] w₀ i j .readState .readState :=
    ⟨hi, hj, fun hl => (by cases hl), fun hl => (by cases hl), fun _ => hnone,
      .inl fun _ => .inl rfl⟩
  obtain ⟨pc, cl, h⟩ : ∃ pc cl, Duel ([] ++ (system options).stepsFrom w₀ as) w i j pc cl :=
    Automata.System.history_of_meetsFrom
      (I := fun past w => ∃ pc cl, Duel past w i j pc cl)
      (fun _ _ _ _ ⟨_, _, hd⟩ hok hnext => hd.step hok.1 hok.2.1 hok.2.2 (step_of_next hnext))
      ⟨_, _, hinit⟩ hrun
      (Automata.System.meetsFrom_and (Automata.System.meetsFrom_of_mem has w₀)
        (Automata.System.meetsFrom_and hsinks hm))
  obtain rfl := Option.some.inj (h.start.symm.trans hstart)
  obtain rfl := Option.some.inj (h.close.symm.trans hclose)
  rcases h.places with ⟨hrt, hov⟩ | ⟨hnot, -⟩
  · exact ⟨hov, hrt⟩
  · exact absurd hread hnot

/-- A step in which call `j` of `close` reads a state other than `Disconnected`. -/
def readsActiveAt (j : ℕ) (s : World × Action) : Bool :=
  match s.2 with
  | .close k _ => k == j && decide (s.1.core.control.state ≠ .disconnected) &&
    match s.1.closes[j]? with
    | some .readState => true
    | _ => false
  | _ => false

/-- It is found in the history. -/
lemma readsActive_of_any (h : past.any (readsActiveAt j) = true) : ReadsActive past j := by
  obtain ⟨⟨v, a⟩, hmem, hs⟩ := List.any_eq_true.mp h
  cases a with
  | close k env =>
    simp only [readsActiveAt, Bool.and_eq_true, beq_iff_eq, decide_eq_true_eq] at hs
    obtain ⟨⟨rfl, hst⟩, hs⟩ := hs
    split at hs
    · rename_i hread
      exact ⟨v, env, hmem, hread, hst⟩
    · cases hs
  | _ => cases hs

/-- A connection that was never started, a call of `start` and a call of `close`. -/
def startAndClose : World := ⟨.new, [.readState], [.readState], []⟩

/-- The `start` has cleared `closing` when the `close` reads the state. -/
def closeAfterClear : List Action :=
  List.replicate 3 (.start 0 {}) ++ List.replicate 19 (.close 0 {}) ++
    List.replicate 5 (.start 0 {})

/-- A `close` that runs while `start` waits for the mutex. -/
theorem close_overrides_start_waiting :
    ∃ w, (system .plain).runFrom startAndClose closeAfterClear = some w ∧
      w.core.control.state = .disconnected ∧ w.core.runtime = none := by
  obtain ⟨w, hrun, hw⟩ := Option.map_eq_some_iff.mp
    (show ((system .plain).runFrom startAndClose closeAfterClear).map
      (fun w => (w.starts[0]?, w.closes[0]?)) =
        some (some (.returned (.error stoppedDuringStart)), some (.returned (.ok ()))) by rfl)
  obtain ⟨hstart, hclose⟩ := Prod.mk.inj hw
  have hread : ReadsActive ((system .plain).stepsFrom startAndClose closeAfterClear) 0 :=
    readsActive_of_any (by rfl)
  exact ⟨w, hrun, close_overrides_start .plain rfl rfl (by decide +kernel) hrun (by decide +kernel)
    (by decide +kernel) hread hstart hclose⟩

/-- The `close` reads `Connecting` and sets `closing`, then the `start` clears it. -/
def closeBeforeClear : List Action :=
  List.replicate 2 (.start 0 {}) ++ List.replicate 4 (.close 0 {}) ++ [.start 0 {}] ++
    List.replicate 15 (.close 0 {}) ++ List.replicate 20 (.start 0 {})

/-- **A `start` can override a concurrent `close`**: it clears the request of the `close`, waits
until the `close` has returned, and connects. -/
theorem start_overrides_close :
    ¬ ∀ (options : ConnectionOptions) (w₀ w : World) (i j : ℕ) (as : List Action)
        (rs rc : Except Error Unit), (system options).Reachable w₀ →
        w₀.starts[i]? = some .readState → w₀.closes[j]? = some .readState →
        (∀ a ∈ as, OfStartAndClose i j a) → (system options).runFrom w₀ as = some w →
        (system options).MeetsFrom (SinksClose options) w₀ as →
        ReadsActive ((system options).stepsFrom w₀ as) j →
        w.starts[i]? = some (.returned rs) → w.closes[j]? = some (.returned rc) →
          w.core.control.state = .disconnected ∧ w.core.runtime = none := by
  intro h
  obtain ⟨w, hrun, hw⟩ := Option.map_eq_some_iff.mp
    (show ((system .plain).runFrom startAndClose closeBeforeClear).map
      (fun w => (w.starts[0]?, w.closes[0]?, w.core.control.state)) =
        some (some (.returned (.ok ())), some (.returned (.ok ())), .connected) by rfl)
  simp only [Prod.mk.injEq] at hw
  obtain ⟨hstart, hclose, hst⟩ := hw
  have hreach : (system .plain).Reachable startAndClose := ⟨[.newStart, .newClose], rfl⟩
  have hread : ReadsActive ((system .plain).stepsFrom startAndClose closeBeforeClear) 0 :=
    readsActive_of_any (by rfl)
  obtain ⟨hclosed, -⟩ := h .plain startAndClose w 0 0 closeBeforeClear _ _ hreach rfl rfl
    (by decide +kernel) hrun (by decide +kernel) hread hstart hclose
  rw [hst] at hclosed
  cases hclosed

end World

end Signalrr.HubConnection
