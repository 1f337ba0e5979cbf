import Signalrr.HubConnection.ReconnectLoop
import Signalrr.HubConnection.StaysClosed

set_option relaxedAutoImplicit false
set_option autoImplicit false

/-!
# Reconnects follow the policy

The attempts to reconnect of a hub connection that is not closed (`src/hub_connection/mod.rs`). Each
drop of the connection that is neither resumed nor final is answered by one retry loop of the
supervisor, which starts to count from zero.

The supervisor sets the state to `Disconnected` before it runs the closed callbacks, so a `start`
can come in between. When it marks its own connection as started before the supervisor has run the
callbacks, the two connections share one mark, and one round of callbacks.

## Main definitions

* `Signalrr.HubConnection.World.Unopposed` — a step is none of `close`, and no `start` overtakes
  another one or the closed callbacks.
* `Signalrr.HubConnection.World.losses` — what supervisors have done about the drops of a history.
* `Signalrr.HubConnection.Loss.Follows` — what was done about a drop is what the policy asks for.
* `Signalrr.HubConnection.World.Session` — one task works on the connection at a time.

## Main results

* `Signalrr.HubConnection.World.Session.step` — unopposed steps keep it so.
* `Signalrr.HubConnection.World.Recorded.step` — the record of the drops after a step.
* `Signalrr.HubConnection.World.reconnects_follow_policy` — every drop is handled as the policy
  asks, in unopposed runs.
* `Signalrr.HubConnection.World.policy_not_followed` — in general the closed callbacks can be
  missed.
-/

namespace Signalrr.HubConnection

open Hub Automata

/-! ## One task at a time -/

/-- A `start` has passed its check of the state and has not spawned its supervisor. -/
def StartPc.prepares : StartPc → Bool
  | readState | returned _ | storeSupervisor _ | unlock _ => false
  | _ => true

/-- A `start` has marked its connection as started and has not spawned its supervisor. -/
def StartPc.hasMarked : StartPc → Bool
  | abortSupervisor _ | spawn _ => true
  | _ => false

/-- The fields of `Control` that a `start` finds at a place, when nobody else changes them and the
connection is not being closed. -/
def StartPc.Ready (c : Control) : StartPc → Prop
  | markStarted _ => c.state = .connected
  | abortSupervisor _ | spawn _ => c.connectionStarted = true ∧ c.state = .connected
  | stopped | shutdown _ => False
  | _ => True

section Tasks

variable {options : ConnectionOptions} {c : Core} {env : Env} {e : Effect} {receivers : Bool}
  {i n : ℕ} {pc pc' : StartPc}

/-- What a `start` finds at its next place. -/
lemma StartPc.ready_of_step (h : pc.Ready c.control) (hclosing : c.control.closing = false)
    (hstep : pc.step options c receivers n i env = some (e, pc')) :
    pc'.Ready (e.op.onControl c.control) := by
  cases pc with
  | shutdown | stopped => cases h
  | _ =>
    simp only [step] at hstep
    repeat' split at hstep
    all_goals cases hstep
    all_goals first
      | trivial
      | exact h
      | simp_all

/-- A `start` clears the signals to stop. -/
lemma StartPc.signals_of_step (h : pc.Ready c.control) (hclosing : c.control.closing = false)
    (hstop : c.control.stopReconnect = false)
    (hstep : pc.step options c receivers n i env = some (e, pc')) :
    (e.op.onControl c.control).closing = false ∧
      (e.op.onControl c.control).stopReconnect = false := by
  cases pc with
  | shutdown | stopped => cases h
  | sendStop =>
    cases hstep
    simp only [Effect.control, Op.onControl, Control.sendStop]
    split <;> simp_all
  | _ =>
    simp only [step] at hstep
    repeat' split at hstep
    all_goals cases hstep
    all_goals exact ⟨by first | exact hclosing | rfl, hstop⟩

/-- Before its check and after it has spawned its supervisor, a `start` leaves the connection
alone. -/
lemma StartPc.control_of_step (h : pc.prepares = false)
    (hstep : pc.step options c receivers n i env = some (e, pc')) :
    (e.op.onControl c.control).state = c.control.state ∧
      (e.op.onControl c.control).connectionStarted = c.control.connectionStarted := by
  cases pc with
  | readState | storeSupervisor | unlock =>
    cases hstep
    exact ⟨rfl, rfl⟩
  | returned => cases hstep
  | _ => cases h

/-- How a `start` begins its preparations. -/
lemma StartPc.passes_of_step (h : pc.prepares = false) (h' : pc'.prepares = true)
    (hstep : pc.step options c receivers n i env = some (e, pc')) :
    pc = readState ∧ c.control.state = .disconnected ∧ pc' = setConnecting := by
  cases pc with
  | readState =>
    simp only [step, Option.some.injEq, Prod.mk.injEq] at hstep
    obtain ⟨-, rfl⟩ := hstep
    split at h'
    · rename_i hstate
      exact ⟨rfl, hstate, if_pos hstate⟩
    · cases h'
  | storeSupervisor | unlock =>
    cases hstep
    cases h'
  | returned => cases hstep
  | _ => cases h

/-- How a `start` marks its connection. -/
lemma StartPc.hasMarked_of_step (h' : pc'.hasMarked = true)
    (hstep : pc.step options c receivers n i env = some (e, pc')) :
    pc.hasMarked = true ∨ ∃ m, pc = markStarted m := by
  cases pc with
  | markStarted m => exact .inr ⟨m, rfl⟩
  | abortSupervisor => exact .inl rfl
  | shutdown s =>
    rcases step_shutdown hstep with ⟨-, result, -, rfl⟩ | ⟨s', -, rfl⟩ <;> cases h'
  | _ =>
    simp only [step] at hstep
    repeat' split at hstep
    all_goals cases hstep
    all_goals cases h'

/-- A `start` that finds what it expects does not clear the mark of the connection. -/
lemma StartPc.connectionStarted_of_step (h : pc.Ready c.control)
    (hstarted : c.control.connectionStarted = true)
    (hstep : pc.step options c receivers n i env = some (e, pc')) :
    (e.op.onControl c.control).connectionStarted = true := by
  cases pc with
  | shutdown | stopped => cases h
  | sendStop =>
    cases hstep
    simp only [Effect.control, Op.onControl, Control.sendStop]
    split <;> exact hstarted
  | _ =>
    simp only [step] at hstep
    repeat' split at hstep
    all_goals cases hstep
    all_goals first
      | exact hstarted
      | rfl

end Tasks

/-- A disconnected connection has no supervisor at work, except for the closed callbacks. -/
lemma SupervisorPc.Fits.of_disconnected {c : Control} {pc : SupervisorPc} (h : pc.Fits c)
    (hstate : c.state = .disconnected) : pc = ended ∨ ∃ reason, pc = invokeClosed reason := by
  cases pc with
  | ended => exact .inl rfl
  | invokeClosed reason => exact .inr ⟨reason, rfl⟩
  | _ => simp_all [Fits]

namespace World

/-- `close` is called, or a `start` overtakes another task: it goes past its check of the state
while another `start` prepares a session, or marks its connection as started before a supervisor has
run the closed callbacks of the last one. -/
def opposes (w : World) : Action → Bool
  | .newClose => true
  | .start i _ =>
    match w.starts[i]? with
    | some .readState =>
      decide (w.core.control.state = .disconnected) &&
        (w.starts.eraseIdx i).any StartPc.prepares
    | some (.markStarted _) => !w.supervisors.all fun s => s.pc.hasEnded
    | _ => false
  | _ => false

/-- The condition on a step: `close` is not called, and no `start` overtakes another task. -/
def Unopposed (w : World) (a : Action) : Prop := w.opposes a = false

instance (w : World) (a : Action) : Decidable (w.Unopposed a) :=
  inferInstanceAs (Decidable (w.opposes a = false))

/-- One task works on the connection at a time, and it is not being closed. -/
structure Session (w : World) : Prop where
  closes : w.closes = []
  closing : w.core.control.closing = false
  stop : w.core.control.stopReconnect = false
  /-- At most one `start` prepares a session. -/
  alone : ∀ (i j : ℕ) (p q : StartPc), i ≠ j → w.starts[i]? = some p → w.starts[j]? = some q →
    p.prepares = false ∨ q.prepares = false
  ready : ∀ p ∈ w.starts, p.Ready w.core.control
  /-- While a `start` prepares a session, all supervisors have ended; one may have the closed
  callbacks to run until the `start` marks its connection. -/
  preparing : ∀ p ∈ w.starts, p.prepares = true → ∀ s ∈ w.supervisors,
    s.pc = .ended ∨ p.hasMarked = false ∧ ∃ reason, s.pc = .invokeClosed reason
  /-- At most one supervisor has not ended. -/
  single : ∀ (k l : ℕ) (s t : Supervisor), k ≠ l → w.supervisors[k]? = some s →
    w.supervisors[l]? = some t → s.pc = .ended ∨ t.pc = .ended
  aborted : ∀ s ∈ w.supervisors, s.aborted = true → s.pc = .ended
  fits : ∀ s ∈ w.supervisors, s.pc.Fits w.core.control

variable {options : ConnectionOptions} {w w' : World} {a : Action}

/-- Initially there are no tasks. -/
lemma Session.init : Session new where
  closes := rfl
  closing := rfl
  stop := rfl
  alone := fun i j p q _ hp => by simp [new] at hp
  ready := fun p hp => by simp [new] at hp
  preparing := fun p hp => by simp [new] at hp
  single := fun k l s t _ hs => by simp [new] at hs
  aborted := fun s hs => by simp [new] at hs
  fits := fun s hs => by simp [new] at hs

/-- What the condition says when a `start` passes its check. -/
lemma Unopposed.alone {i j : ℕ} {env : Env} {q : StartPc} (h : w.Unopposed (.start i env))
    (hi : w.starts[i]? = some .readState) (hstate : w.core.control.state = .disconnected)
    (hj : j ≠ i) (hq : w.starts[j]? = some q) : q.prepares = false := by
  simp only [Unopposed, opposes, hi, hstate, decide_true, Bool.true_and, List.any_eq_false,
    Bool.not_eq_true] at h
  exact h q (List.mem_eraseIdx_iff_getElem?.mpr ⟨j, hj, hq⟩)

/-- What the condition says when a `start` marks its connection. -/
lemma Unopposed.ended {i : ℕ} {env : Env} {m : NewConnection} (h : w.Unopposed (.start i env))
    (hi : w.starts[i]? = some (.markStarted m)) {s : Supervisor} (hs : s ∈ w.supervisors) :
    s.pc = .ended := by
  simp only [Unopposed, opposes, hi, Bool.not_eq_false', List.all_eq_true] at h
  have hended := h s hs
  cases hpc : s.pc <;> first | rfl | (rw [hpc] at hended; cases hended)

/-- A supervisor that takes a step has not ended. -/
lemma not_ended_of_step {c : Core} {env : Env} {s s' : Supervisor} {e : Effect}
    (hstep : s.step options c env = some (e, s')) : s.pc ≠ .ended := by
  intro hpc
  simp [Supervisor.step, hpc] at hstep

/-- While a supervisor has not ended, all others have. -/
lemma Session.others_ended (h : Session w) {k : ℕ} {s : Supervisor}
    (hk : w.supervisors[k]? = some s) (hne : s.pc ≠ .ended) :
    ∀ (l : ℕ) (t : Supervisor), l ≠ k → w.supervisors[l]? = some t → t.pc = .ended := by
  intro l t hl ht
  exact (h.single l k t s hl ht hk).resolve_right hne

/-- A supervisor that takes a step while a `start` prepares a session runs the closed callbacks. -/
lemma Session.invokes (h : Session w) {s : Supervisor} (hs : s ∈ w.supervisors)
    (hpc : s.pc ≠ .ended) {p : StartPc} (hp : p ∈ w.starts) (hprep : p.prepares = true) :
    p.hasMarked = false ∧ ∃ reason, s.pc = .invokeClosed reason :=
  (h.preparing p hp hprep s hs).resolve_left hpc

/-- **A step of a supervisor** in a session. -/
lemma Session.supervisor_step (h : Session w) {k : ℕ} {env : Env} {s s' : Supervisor} {e : Effect}
    (hk : w.supervisors[k]? = some s) (hstep : s.step options w.core env = some (e, s')) :
    Session { w.apply options e with supervisors := (w.apply options e).supervisors.set k s' } := by
  have hs : s ∈ w.supervisors := List.mem_of_getElem? hk
  have hne : s.pc ≠ .ended := not_ended_of_step hstep
  obtain ⟨hkeep, hab⟩ := Supervisor.step_supervisor hstep
  obtain ⟨hclosing, hstop⟩ := Supervisor.signals_of_step hstep
  have hcontrol : (w.apply options e).core.control = e.op.onControl w.core.control :=
    Core.applyOp_control options w.core e.op
  have hothers := h.others_ended hk hne
  -- beside a `start` that prepares a session only the closed callbacks are run
  have hinvokes : ∀ p ∈ w.starts, p.prepares = true → p.hasMarked = false ∧ s'.pc = .ended ∧
      (e.op.onControl w.core.control).state = w.core.control.state := by
    intro p hp hprep
    obtain ⟨hmarked, reason, hpc⟩ := h.invokes hs hne hp hprep
    simp only [Supervisor.step, hpc, Option.some.injEq, Prod.mk.injEq] at hstep
    obtain ⟨rfl, rfl⟩ := hstep
    exact ⟨hmarked, rfl, Control.invokeClosed_state _ _⟩
  rw [supervisors_apply_of_keeps hkeep]
  refine ⟨?_, hcontrol ▸ hclosing.trans h.closing, hcontrol ▸ hstop.trans h.stop, h.alone,
    fun p hp => ?_, fun p hp hprep t ht => ?_, fun l m t u hlm ht hu => ?_, fun t ht ha => ?_,
    fun t ht => ?_⟩
  · simp [apply, h.closes]
  · cases hprep : p.prepares with
    | false => cases p <;> trivial
    | true =>
      obtain ⟨hmarked, -, hstate⟩ := hinvokes p hp hprep
      have hready := h.ready p hp
      rw [hcontrol]
      cases p <;> first | exact hready | exact hstate.trans hready | cases hmarked
  · obtain ⟨l, hl⟩ := List.mem_iff_getElem?.mp ht
    rcases getElem?_set_cases hl with ⟨-, rfl⟩ | ⟨hl, ht⟩
    · exact .inl (hinvokes p hp hprep).2.1
    · exact .inl (hothers l t hl ht)
  · rcases getElem?_set_cases ht with ⟨rfl, -⟩ | ⟨hl, ht⟩
    · rcases getElem?_set_cases hu with ⟨rfl, -⟩ | ⟨hm, hu⟩
      · exact absurd rfl hlm
      · exact .inr (hothers m u hm hu)
    · exact .inl (hothers l t hl ht)
  · obtain ⟨l, hl⟩ := List.mem_iff_getElem?.mp ht
    rcases getElem?_set_cases hl with ⟨-, rfl⟩ | ⟨hl, ht⟩
    · exact absurd (h.aborted s hs (hab ▸ ha)) hne
    · exact hothers _ t hl ht
  · obtain ⟨l, hl⟩ := List.mem_iff_getElem?.mp ht
    rcases getElem?_set_cases hl with ⟨-, rfl⟩ | ⟨hl, ht⟩
    · rw [hcontrol]
      exact Supervisor.fits_of_step (h.fits s hs) h.closing h.stop hstep
    · rw [hothers _ t hl ht]
      trivial

/-- The supervisors after a step of a `start`: those before it, and perhaps a new one. -/
lemma Session.supervisors_of_start (h : Session w) {i l : ℕ} {env : Env} {pc pc' : StartPc}
    {e : Effect} {t : Supervisor} (hi : w.starts[i]? = some pc)
    (hstep : pc.step options w.core w.receivers w.supervisors.length i env = some (e, pc'))
    (ht : (w.apply options e).supervisors[l]? = some t) :
    (∃ s, w.supervisors[l]? = some s ∧ t.pc = s.pc ∧
        (t.aborted = true → s.aborted = true ∨ pc.aborts = true)) ∨
      t.pc = .select ∧ t.aborted = false ∧ (∃ m, pc = .spawn m) ∧ pc' = .storeSupervisor l := by
  have hlt := (List.getElem?_eq_some_iff.mp hi).1
  rcases (Step.start hi hstep).supervisors ht with ⟨hs, -⟩ | ⟨s, hs, rfl, -, hab⟩ |
    ⟨s, hs, ha, rfl⟩ | ⟨s, e', env', hsup⟩ | ⟨-, hpc, ha, j, env', m, hact, hspawn, hstore⟩
  · exact .inl ⟨t, hs, rfl, fun ha => .inl ha⟩
  · refine .inl ⟨s, hs, rfl, fun _ => .inr ?_⟩
    simpa [aborts, hi] using hab
  · exact .inl ⟨s, hs, (h.aborted s (List.mem_of_getElem? hs) ha).symm, fun _ => .inl ha⟩
  · cases hsup.action
  · cases hact
    rw [hi] at hspawn
    rw [List.getElem?_set_self hlt] at hstore
    exact .inr ⟨hpc, ha, ⟨m, Option.some.inj hspawn⟩, Option.some.inj hstore⟩

/-- What a supervisor finds at a place depends on two fields. -/
lemma fits_congr {c c' : Control} {pc : SupervisorPc} (h : pc.Fits c) (hstate : c'.state = c.state)
    (hstarted : c'.connectionStarted = c.connectionStarted) : pc.Fits c' := by
  cases pc <;> simp_all [SupervisorPc.Fits]

/-- The supervisors that a `start` finds when it prepares a session after its step. -/
lemma Session.ended_of_prepares (h : Session w) {i : ℕ} {env : Env} {pc pc' : StartPc} {e : Effect}
    (hok : w.Unopposed (.start i env)) (hi : w.starts[i]? = some pc)
    (hstep : pc.step options w.core w.receivers w.supervisors.length i env = some (e, pc'))
    (hprep : pc'.prepares = true) {s : Supervisor} (hs : s ∈ w.supervisors) :
    s.pc = .ended ∨ pc'.hasMarked = false ∧ ∃ reason, s.pc = .invokeClosed reason := by
  cases hp : pc.prepares with
  | true =>
    rcases h.preparing pc (List.mem_of_getElem? hi) hp s hs with hended | ⟨hmarked, hinvokes⟩
    · exact .inl hended
    · cases hm : pc'.hasMarked with
      | false => exact .inr ⟨rfl, hinvokes⟩
      | true =>
        rcases StartPc.hasMarked_of_step hm hstep with hpc | ⟨m, rfl⟩
        · rw [hpc] at hmarked
          cases hmarked
        · exact .inl (hok.ended hi hs)
  | false =>
    obtain ⟨-, hstate, rfl⟩ := StartPc.passes_of_step hp hprep hstep
    exact ((h.fits s hs).of_disconnected hstate).imp_right fun hinvokes => ⟨rfl, hinvokes⟩

/-- What a `start` finds depends on two fields. -/
lemma ready_congr {c c' : Control} {pc : StartPc} (h : pc.Ready c) (hstate : c'.state = c.state)
    (hstarted : c'.connectionStarted = c.connectionStarted) : pc.Ready c' := by
  cases pc <;> simp_all [StartPc.Ready]

/-- **A step of a `start`** in a session. -/
lemma Session.start_step (h : Session w) {i : ℕ} {env : Env} {pc pc' : StartPc} {e : Effect}
    (hok : w.Unopposed (.start i env)) (hi : w.starts[i]? = some pc)
    (hstep : pc.step options w.core w.receivers w.supervisors.length i env = some (e, pc')) :
    Session { w.apply options e with starts := w.starts.set i pc' } := by
  have hpc : pc ∈ w.starts := List.mem_of_getElem? hi
  have hready := h.ready pc hpc
  obtain ⟨hclosing, hstop⟩ := StartPc.signals_of_step hready h.closing h.stop hstep
  have hcontrol : (w.apply options e).core.control = e.op.onControl w.core.control :=
    Core.applyOp_control options w.core e.op
  have hothers : pc'.prepares = true → ∀ (j : ℕ) (q : StartPc), j ≠ i → w.starts[j]? = some q →
      q.prepares = false := by
    intro hprep' j q hj hq
    cases hprep : pc.prepares with
    | true => exact (h.alone i j pc q hj.symm hi hq).resolve_left (by simp [hprep])
    | false =>
      obtain ⟨rfl, hstate, -⟩ := StartPc.passes_of_step hprep hprep' hstep
      exact hok.alone hi hstate hj hq
  -- a supervisor is spawned when all others have ended
  have hspawn : (∃ m, pc = .spawn m) → ∀ s ∈ w.supervisors, s.pc = .ended := by
    rintro ⟨m, rfl⟩ s hs
    exact (h.preparing _ hpc rfl s hs).resolve_right fun hm => by cases hm.1
  refine ⟨?_, hcontrol ▸ hclosing, hcontrol ▸ hstop, fun j k p q hjk hp hq => ?_, fun p hp => ?_,
    fun p hp hprep t ht => ?_, fun k l t u hkl ht hu => ?_, fun t ht ha => ?_, fun t ht => ?_⟩
  · simp [apply, h.closes]
  · rcases getElem?_set_cases hp with ⟨rfl, rfl⟩ | ⟨hj, hp'⟩
    · rcases getElem?_set_cases hq with ⟨rfl, -⟩ | ⟨hk, hq⟩
      · exact absurd rfl hjk
      · cases hprep : p.prepares with
        | false => exact .inl rfl
        | true => exact .inr (hothers hprep k q hk hq)
    · rcases getElem?_set_cases hq with ⟨rfl, rfl⟩ | ⟨-, hq⟩
      · cases hprep : q.prepares with
        | false => exact .inr rfl
        | true => exact .inl (hothers hprep j p hj hp')
      · exact h.alone j k p q hjk hp' hq
  · rw [hcontrol]
    obtain ⟨j, hj⟩ := List.mem_iff_getElem?.mp hp
    rcases getElem?_set_cases hj with ⟨-, rfl⟩ | ⟨hji, hp'⟩
    · exact StartPc.ready_of_step hready h.closing hstep
    · rcases h.alone i j pc p hji.symm hi hp' with hprep | hprep
      · obtain ⟨hstate, hstarted⟩ := StartPc.control_of_step hprep hstep
        exact ready_congr (h.ready p (List.mem_of_getElem? hp')) hstate hstarted
      · cases p <;> trivial
  · obtain ⟨j, hj⟩ := List.mem_iff_getElem?.mp hp
    obtain ⟨l, hl⟩ := List.mem_iff_getElem?.mp ht
    rcases h.supervisors_of_start hi hstep hl with ⟨s, hs, hts, -⟩ | ⟨-, -, ⟨m, rfl⟩, rfl⟩
    · rw [hts]
      have hs := List.mem_of_getElem? hs
      rcases getElem?_set_cases hj with ⟨-, rfl⟩ | ⟨-, hp'⟩
      · exact h.ended_of_prepares hok hi hstep hprep hs
      · exact h.preparing p (List.mem_of_getElem? hp') hprep s hs
    · rcases getElem?_set_cases hj with ⟨-, rfl⟩ | ⟨hji, hp'⟩
      · cases hprep
      · rcases h.alone i j _ p hji.symm hi hp' with hp' | hp'
        · cases hp'
        · rw [hp'] at hprep
          cases hprep
  · rcases h.supervisors_of_start hi hstep ht with ⟨s, hs, hts, -⟩ | ⟨-, -, hm, rfl⟩
    · rcases h.supervisors_of_start hi hstep hu with ⟨v, hv, huv, -⟩ | ⟨-, -, hm, rfl⟩
      · rw [hts, huv]
        exact h.single k l s v hkl hs hv
      · exact .inl (hts.trans (hspawn hm s (List.mem_of_getElem? hs)))
    · rcases h.supervisors_of_start hi hstep hu with ⟨v, hv, huv, -⟩ | ⟨-, -, -, hstore⟩
      · exact .inr (huv.trans (hspawn hm v (List.mem_of_getElem? hv)))
      · cases hstore
        exact absurd rfl hkl
  · obtain ⟨l, hl⟩ := List.mem_iff_getElem?.mp ht
    rcases h.supervisors_of_start hi hstep hl with ⟨s, hs, hts, hab⟩ | ⟨-, hab, -⟩
    · rw [hts]
      have hs := List.mem_of_getElem? hs
      rcases hab ha with hsa | haborts
      · exact h.aborted s hs hsa
      · -- a handle is aborted where the connection is marked, or by a shutdown
        cases pc with
        | abortSupervisor m =>
          exact (h.preparing _ hpc rfl s hs).resolve_right fun hm => by cases hm.1
        | shutdown => cases hready
        | _ => cases haborts
    · rw [hab] at ha
      cases ha
  · obtain ⟨l, hl⟩ := List.mem_iff_getElem?.mp ht
    rcases h.supervisors_of_start hi hstep hl with ⟨s, hs, hts, -⟩ | ⟨hts, -, ⟨m, rfl⟩, rfl⟩
    · rw [hts, hcontrol]
      have hs := List.mem_of_getElem? hs
      have hfits := h.fits s hs
      cases hprep : pc.prepares with
      | true =>
        rcases h.preparing pc hpc hprep s hs with hended | ⟨-, reason, hinvokes⟩
        · rw [hended]
          trivial
        · rw [hinvokes] at hfits ⊢
          exact StartPc.connectionStarted_of_step hready hfits hstep
      | false =>
        obtain ⟨hstate, hstarted⟩ := StartPc.control_of_step hprep hstep
        exact fits_congr hfits hstate hstarted
    · cases hstep
      rw [hts]
      exact hready

/-- An aborted supervisor has ended already, so its abort has no effect. -/
lemma Session.set_ended (h : Session w) {k : ℕ} {s : Supervisor} (hk : w.supervisors[k]? = some s)
    (ha : s.aborted = true) : w.supervisors.set k { s with pc := .ended } = w.supervisors := by
  have hs : { s with pc := .ended } = s := by
    rw [← h.aborted s (List.mem_of_getElem? hk) ha]
  obtain ⟨hlt, hget⟩ := List.getElem?_eq_some_iff.mp hk
  rw [hs, ← hget, List.set_getElem_self]

/-- **One task works on the connection at a time.** -/
theorem Session.step (h : Session w) (hok : w.Unopposed a) (hstep : Step options w a w') :
    Session w' := by
  cases hstep with
  | newStart =>
    have hnew : ∀ (i : ℕ) (p : StartPc), (w.starts ++ [.readState])[i]? = some p →
        w.starts[i]? = some p ∨ p = .readState := by
      intro i p hp
      rw [List.getElem?_append] at hp
      split at hp
      · exact .inl hp
      · exact .inr (List.mem_singleton.mp (List.mem_of_getElem? hp))
    refine ⟨h.closes, h.closing, h.stop, fun i j p q hij hp hq => ?_, fun p hp => ?_,
      fun p hp hprep => ?_, h.single, h.aborted, h.fits⟩
    · rcases hnew i p hp with hp | rfl
      · rcases hnew j q hq with hq | rfl
        · exact h.alone i j p q hij hp hq
        · exact .inr rfl
      · exact .inl rfl
    · rcases List.mem_append.mp hp with hp | hp
      · exact h.ready p hp
      · rw [List.mem_singleton.mp hp]
        trivial
    · rcases List.mem_append.mp hp with hp | hp
      · exact h.preparing p hp hprep
      · rw [List.mem_singleton.mp hp] at hprep
        cases hprep
  | newClose => cases hok
  | start hi hstep => exact h.start_step hok hi hstep
  | @close i _ _ _ _ hi =>
    rw [h.closes] at hi
    simp at hi
  | supervisor hk _ hstep => exact h.supervisor_step hk hstep
  | @supervisorEnds k s hk ha =>
    rw [h.set_ended hk ha]
    exact h
  | core ha hstep =>
    have hc := (sameLifecycle_of_next (ne_op_of_coreEnabled ha) hstep).control
    exact ⟨h.closes, hc ▸ h.closing, hc ▸ h.stop, h.alone, hc ▸ h.ready, h.preparing, h.single,
      h.aborted, hc ▸ h.fits⟩

/-! ## The record of a run -/

/-- A supervisor handles a drop. -/
def Handling (w : World) : Prop := ∃ s ∈ w.supervisors, s.pc.handles = true

end World

/-- The record of the drops, the latest first, after a step of a supervisor from `pc` to `pc'`. A
drop is recorded when the supervisor gets the event. -/
def Loss.record (options : ConnectionOptions) (env : Env) (pc pc' : SupervisorPc) (c c' : Control)
    (losses : List Loss) : List Loss :=
  match pc with
  | .select =>
    match env.stop, env.event with
    | false, some info => .new info :: losses
    | _, _ => losses
  | pc =>
    if pc.handles then losses.modifyHead fun loss => loss.add options env pc pc' c c' else losses

namespace World

/-- The record of the drops after a further step. -/
def addLosses (options : ConnectionOptions) (losses : List Loss) (step : World × Action) :
    List Loss :=
  match step with
  | (w, .supervisor k env) =>
    match w.supervisors[k]?.bind fun s => (s.step options w.core env).map fun r => (s.pc, r) with
    | none => losses
    | some (pc, e, s') =>
      Loss.record options env pc s'.pc w.core.control (e.op.onControl w.core.control) losses
  | _ => losses

/-- What supervisors have done about the drops of a history, the latest first. -/
def losses (options : ConnectionOptions) (past : List (World × Action)) : List Loss :=
  past.foldl (addLosses options) []

end World

/-- The retry loop is over: an attempt has succeeded or the policy has given up, and both notes
about it are announced. -/
def RetryOver (position : RetryPosition) : Prop := position = .succeeded 2 ∨ position = .refused 2

/-- What was done about a drop is what the policy asks for: some attempts have failed, and the loop
is at `position`. -/
structure Loss.Follows (policy : RetryContext → Option ℕ) (loss : Loss)
    (failures : List (FailedTry ℕ String ℕ)) (position : RetryPosition) : Prop where
  events : ∃ elapsed delay connectionId, loss.events =
    retryEvents (loss.notes connectionId) loss.reason failures elapsed delay position
  /-- The answers are those of the policy. -/
  answers : ∀ context answer, .asked (RetryContext.question context) answer ∈ loss.events →
    answer = policy context
  /-- The supervisor takes finitely many steps for each attempt. -/
  steps : loss.steps ≤ 18 * failures.length + 31

/-- A drop has been handled, unless it was resumed or forbids to reconnect. -/
def Loss.Handled (policy : RetryContext → Option ℕ) (loss : Loss) : Prop :=
  loss.toReconnect = true →
    ∃ failures position, loss.Follows policy failures position ∧ RetryOver position

namespace World

/-- What holds of the record of a run. -/
structure Recorded (policy : RetryContext → Option ℕ) (losses : List Loss) (w : World) : Prop where
  session : Session w
  earlier : ∀ loss ∈ losses.tail, loss.Handled policy
  latest : ¬ Handling w → ∀ loss ∈ losses, loss.Handled policy
  current : ∀ s ∈ w.supervisors, s.pc.handles = true → ∃ loss ∈ losses.head?,
    loss.toReconnect = true → ∃ failures elapsed connectionId,
      loss.Reaches policy s.pc failures elapsed connectionId

/-- Initially nothing is recorded. -/
lemma Recorded.init (policy : RetryContext → Option ℕ) : Recorded policy [] new where
  session := .init
  earlier := fun loss h => by cases h
  latest := fun _ loss h => by cases h
  current := fun s hs => by cases hs

end World

/-- A drop that is to be answered after a step was so before. -/
lemma Loss.toReconnect_of_add {options : ConnectionOptions} {env : Env} {loss : Loss}
    {pc pc' : SupervisorPc} {c c' : Control}
    (h : (loss.add options env pc pc' c c').toReconnect = true) : loss.toReconnect = true := by
  simp only [Loss.toReconnect, Loss.add, Bool.not_or, Bool.and_eq_true] at h ⊢
  exact ⟨h.1.1, h.2⟩

/-- A supervisor that waits for an event again or has ended has handled the drop. -/
lemma Loss.Reaches.handled {policy : RetryContext → Option ℕ} {loss : Loss} {pc : SupervisorPc}
    {failures : List (FailedTry ℕ String ℕ)} {elapsed : ℕ} {connectionId : Option String}
    (h : loss.Reaches policy pc failures elapsed connectionId) (hpc : pc = .select ∨ pc = .ended) :
    ∃ failures position, loss.Follows policy failures position ∧ RetryOver position := by
  refine ⟨failures, pc.position, ⟨⟨elapsed, loss.delay, connectionId, h.events⟩, h.answers, ?_⟩, ?_⟩
  · have hs := h.steps
    rcases hpc with rfl | rfl <;> exact hs
  · rcases hpc with rfl | rfl
    · exact .inl rfl
    · exact .inr rfl

namespace World

section Record

variable {options : ConnectionOptions} {policy : RetryContext → Option ℕ} {w w' : World}
  {a : Action} {losses : List Loss}

/-- The record where the supervisor handles a drop. -/
lemma record_eq {env : Env} {pc pc' : SupervisorPc} {c c' : Control} (h : pc.handles = true) :
    Loss.record options env pc pc' c c' losses =
      losses.modifyHead fun loss => loss.add options env pc pc' c c' := by
  unfold Loss.record
  split
  · cases h
  · rw [if_pos h]

/-- The record of a run, when the supervisors that handle drops stay where they are. -/
lemma Recorded.of_places (h : Recorded policy losses w) (hsession : Session w')
    (hto : ∀ t ∈ w'.supervisors, t.pc.handles = true → ∃ s ∈ w.supervisors, s.pc = t.pc)
    (hfrom : ∀ s ∈ w.supervisors, ∃ t ∈ w'.supervisors, t.pc = s.pc) :
    Recorded policy losses w' := by
  refine ⟨hsession, h.earlier, fun hnot => h.latest ?_, fun t ht hh => ?_⟩
  · rintro ⟨s, hs, hh⟩
    obtain ⟨t, ht, hts⟩ := hfrom s hs
    exact hnot ⟨t, ht, by rw [hts, hh]⟩
  · obtain ⟨s, hs, hst⟩ := hto t ht hh
    rw [← hst] at hh ⊢
    exact h.current s hs hh

/-- **A step of a supervisor** and the record. -/
lemma Recorded.supervisor_step (h : Recorded policy losses w)
    (hpolicy : options.reconnectPolicy = some policy) {k : ℕ} {env : Env} {s s' : Supervisor}
    {e : Effect} (hk : w.supervisors[k]? = some s)
    (hstep : s.step options w.core env = some (e, s')) :
    Recorded policy (Loss.record options env s.pc s'.pc w.core.control
        (e.op.onControl w.core.control) losses)
      { w.apply options e with supervisors := (w.apply options e).supervisors.set k s' } := by
  have hs : s ∈ w.supervisors := List.mem_of_getElem? hk
  have hothers := h.session.others_ended hk (not_ended_of_step hstep)
  have hlt : k < (w.apply options e).supervisors.length :=
    (List.getElem?_eq_some_iff.mp (getElem?_supervisors_apply options e hk)).1
  have hs' : s' ∈ (w.apply options e).supervisors.set k s' := List.mem_set hlt s'
  -- the other supervisors have ended
  have hcases : ∀ t ∈ (w.apply options e).supervisors.set k s', t.pc.handles = true → t = s' := by
    rw [supervisors_apply_of_keeps (Supervisor.step_supervisor hstep).1]
    intro t ht hh
    obtain ⟨l, hl⟩ := List.mem_iff_getElem?.mp ht
    rcases getElem?_set_cases hl with ⟨-, rfl⟩ | ⟨hl, ht⟩
    · rfl
    · rw [hothers _ t hl ht] at hh
      cases hh
  have hidle : s.pc.handles = false → ¬ Handling w := by
    rintro hh ⟨t, ht, htt⟩
    obtain ⟨l, hl⟩ := List.mem_iff_getElem?.mp ht
    by_cases hlk : l = k
    · subst hlk
      rw [hk] at hl
      rw [← Option.some.inj hl, hh] at htt
      cases htt
    · rw [hothers l t hlk hl] at htt
      cases htt
  have hsession := h.session.supervisor_step hk hstep
  by_cases hselect : s.pc = .select
  · have hpast := h.latest (hidle (by rw [hselect]; rfl))
    obtain ⟨-, ⟨hquiet, hh'⟩ | ⟨hstop, info, hevent, hpc'⟩⟩ :=
      Supervisor.step_of_select hselect hstep
    · -- no drop
      have hrec : Loss.record options env s.pc s'.pc w.core.control (e.op.onControl w.core.control)
          losses = losses := by
        rw [hselect]
        rcases hquiet with hquiet | hquiet <;> simp [Loss.record, hquiet]
      rw [hrec]
      refine ⟨hsession, h.earlier, fun _ => hpast, fun t ht htt => ?_⟩
      rw [hcases t ht htt, hh'] at htt
      cases htt
    · -- a new drop; its handling begins
      have hrec : Loss.record options env s.pc s'.pc w.core.control (e.op.onControl w.core.control)
          losses = .new info :: losses := by
        rw [hselect]
        simp [Loss.record, hstop, hevent]
      rw [hrec]
      have hh' : s'.pc.handles = true := by
        rw [hpc']
        rfl
      refine ⟨hsession, hpast, fun hnot => absurd ⟨s', hs', hh'⟩ hnot, fun t ht hh => ?_⟩
      rw [hcases t ht hh, hpc']
      refine ⟨.new info, rfl, fun _ => ⟨[], 0, none, rfl, ⟨rfl, rfl⟩, ?_, Nat.zero_le _⟩⟩
      rintro context answer hmem
      cases hmem
  · have hh : s.pc.handles = true := by
      have hne := not_ended_of_step hstep
      cases hpc : s.pc <;> first | rfl | exact absurd hpc hselect | exact absurd hpc hne
    rw [record_eq hh]
    -- a step of the handling
    obtain ⟨loss, hhead, hreach⟩ := h.current s hs hh
    obtain ⟨past, rfl⟩ : ∃ past, losses = loss :: past := by
      cases losses with
      | nil => cases hhead
      | cons loss' past =>
        cases hhead
        exact ⟨past, rfl⟩
    have hnext : (loss.add options env s.pc s'.pc w.core.control
        (e.op.onControl w.core.control)).toReconnect = true → ∃ failures elapsed connectionId,
          (loss.add options env s.pc s'.pc w.core.control (e.op.onControl w.core.control)).Reaches
            policy s'.pc failures elapsed connectionId := by
      intro hto
      obtain ⟨failures, elapsed, connectionId, hr⟩ := hreach (Loss.toReconnect_of_add hto)
      exact hr.step hpolicy hh (h.session.fits s hs) h.session.closing h.session.stop hstep hto
    refine ⟨hsession, h.earlier, fun hnot loss' hloss' => ?_, fun t ht _ => ?_⟩
    · rcases List.mem_cons.mp hloss' with rfl | hloss'
      · intro hto
        obtain ⟨failures, elapsed, connectionId, hr⟩ := hnext hto
        refine hr.handled ?_
        rcases Supervisor.handles_of_step hh hstep with hh' | hpc'
        · exact absurd ⟨s', hs', hh'⟩ hnot
        · exact hpc'
      · exact h.earlier loss' hloss'
    · rw [hcases t ht (by assumption)]
      exact ⟨_, rfl, hnext⟩

/-- **The record after a step.** -/
theorem Recorded.step (h : Recorded policy losses w)
    (hpolicy : options.reconnectPolicy = some policy) (hok : w.Unopposed a)
    (hstep : Step options w a w') : Recorded policy (addLosses options losses (w, a)) w' := by
  have hsession := h.session.step hok hstep
  cases hstep with
  | newStart => exact ⟨hsession, h.earlier, h.latest, h.current⟩
  | newClose => cases hok
  | @start i env pc pc' e hi hstep =>
    refine h.of_places hsession (fun t ht hh => ?_) fun s hs => ?_
    · obtain ⟨l, hl⟩ := List.mem_iff_getElem?.mp ht
      rcases h.session.supervisors_of_start hi hstep hl with ⟨s, hs, hts, -⟩ | ⟨hts, -⟩
      · exact ⟨s, List.mem_of_getElem? hs, hts.symm⟩
      · rw [hts] at hh
        cases hh
    · obtain ⟨l, hl⟩ := List.mem_iff_getElem?.mp hs
      have ht := getElem?_supervisors_apply options e hl
      refine ⟨_, List.mem_of_getElem? ht, ?_⟩
      split <;> rfl
  | @close i _ _ _ _ hi =>
    rw [h.session.closes] at hi
    simp at hi
  | @supervisor k env s s' e hk _ hstep =>
    have hadd : addLosses options losses (w, .supervisor k env) =
        Loss.record options env s.pc s'.pc w.core.control (e.op.onControl w.core.control)
          losses := by
      simp only [addLosses, hk, hstep, Option.bind_some, Option.map_some]
    rw [hadd]
    exact h.supervisor_step hpolicy hk hstep
  | @supervisorEnds k s hk ha =>
    rw [h.session.set_ended hk ha] at hsession ⊢
    exact ⟨hsession, h.earlier, h.latest, h.current⟩
  | core ha hstep => exact ⟨hsession, h.earlier, h.latest, h.current⟩

end Record

/-! ## Reconnects -/

/-- What the supervisors of a history, which ends in `w`, have done about drops is what the policy
asks for. -/
structure FollowsPolicy (options : ConnectionOptions) (policy : RetryContext → Option ℕ)
    (past : List (World × Action)) (w : World) : Prop where
  /-- Every drop is handled by a retry loop that starts to count from zero. -/
  follows : ∀ loss ∈ losses options past, loss.toReconnect = true →
    ∃ failures position, loss.Follows policy failures position
  /-- The loop is over, unless the drop is the latest and a supervisor still handles it. -/
  handled : ∀ (n : ℕ) (loss : Loss), (losses options past)[n]? = some loss →
    n ≠ 0 ∨ ¬ Handling w → loss.Handled policy
  /-- A supervisor that handles a drop can go on, as soon as what it awaits comes back. -/
  goesOn : ∀ (k : ℕ) (s : Supervisor) (env : Env), w.supervisors[k]? = some s →
    s.pc.handles = true → env.stops = true → ∃ w', next options w (.supervisor k env) = some w'
  /-- A supervisor that waits for events is connected. -/
  connected : ∀ s ∈ w.supervisors, s.pc = .select → w.core.control.state = .connected
  /-- With the default policy there are no more attempts than delays, and each is made after the
  next of them; all of them are made before the policy gives up. -/
  table : ∀ delays : List ℕ, policy = (DefaultReconnectPolicy.new delays).nextRetryDelay →
    ∀ loss ∈ losses options past, loss.toReconnect = true →
      waits loss.events <+: delays ∧ tries loss.events ≤ (waits loss.events).length ∧
        ∀ question, .asked question none ∈ loss.events →
          waits loss.events = delays ∧ tries loss.events = delays.length

end World

/-- The answers of the default policy are those of its table. -/
lemma Loss.Follows.answeredBy {delays : List ℕ} {loss : Loss}
    {failures : List (FailedTry ℕ String ℕ)} {position : RetryPosition}
    (h : loss.Follows (DefaultReconnectPolicy.new delays).nextRetryDelay failures position) :
    AnsweredBy delays loss.events := by
  intro question answer hmem
  rw [h.answers ⟨question.elapsed, question.count, question.reason⟩ answer hmem]
  exact DefaultReconnectPolicy.nextRetryDelay_new delays _

/-- What the default policy asks for. -/
lemma Loss.Follows.table {delays : List ℕ} {loss : Loss} {failures : List (FailedTry ℕ String ℕ)}
    {position : RetryPosition}
    (h : loss.Follows (DefaultReconnectPolicy.new delays).nextRetryDelay failures position) :
    waits loss.events <+: delays ∧ tries loss.events ≤ (waits loss.events).length ∧
      ∀ question, .asked question none ∈ loss.events →
        waits loss.events = delays ∧ tries loss.events = delays.length := by
  have htable := h.answeredBy
  obtain ⟨elapsed, delay, connectionId, hevents⟩ := h.events
  rw [hevents] at htable ⊢
  obtain ⟨hwaits, htries⟩ := retryEvents_table htable
  refine ⟨hwaits, htries, fun question hmem => ?_⟩
  obtain ⟨n, rfl⟩ := refused_of_mem hmem
  exact retryEvents_table_refused htable

/-- What was done so far about a drop follows the policy. -/
lemma Loss.Reaches.follows {policy : RetryContext → Option ℕ} {loss : Loss} {pc : SupervisorPc}
    {failures : List (FailedTry ℕ String ℕ)} {elapsed : ℕ} {connectionId : Option String}
    (h : loss.Reaches policy pc failures elapsed connectionId) :
    loss.Follows policy failures pc.position := by
  refine ⟨⟨elapsed, loss.delay, connectionId, h.events⟩, h.answers, ?_⟩
  have hs := h.steps
  have hstage : pc.stage ≤ 31 := by
    cases pc <;> simp [SupervisorPc.stage]
  omega

namespace World

/-- Every drop of a record follows the policy. -/
lemma Recorded.follows {policy : RetryContext → Option ℕ} {record : List Loss} {w : World}
    (h : Recorded policy record w) {loss : Loss} (hloss : loss ∈ record)
    (hto : loss.toReconnect = true) :
    ∃ failures position, loss.Follows policy failures position := by
  by_cases hh : Handling w
  · obtain ⟨s, hs, hh⟩ := hh
    obtain ⟨latest, hlatest, hreach⟩ := h.current s hs hh
    cases record with
    | nil => cases hloss
    | cons latest' past =>
      cases hlatest
      rcases List.mem_cons.mp hloss with rfl | hloss
      · obtain ⟨failures, elapsed, connectionId, hr⟩ := hreach hto
        exact ⟨failures, _, hr.follows⟩
      · obtain ⟨failures, position, hf, -⟩ := h.earlier loss hloss hto
        exact ⟨failures, position, hf⟩
  · obtain ⟨failures, position, hf, -⟩ := h.latest hh loss hloss hto
    exact ⟨failures, position, hf⟩

/-- Options with a default policy of two delays. -/
def twoDelays : ConnectionOptions :=
  ⟨.typeOnly, .text, 100000, some (DefaultReconnectPolicy.new [0, 2000]).nextRetryDelay⟩

/-- The server cannot be reached. -/
def unreachable : Env := { connected := .error .notConnected }

/-- The connection is lost, and the second attempt succeeds; it is lost again, and no attempt
does. -/
def lostTwice : List Action :=
  startRun {} ++ .supervisor 0 .lost :: supervisorRun 17 unreachable ++ supervisorRun 15 {} ++
    .supervisor 0 .lost :: supervisorRun 26 unreachable

/-- The connection is lost and the policy gives up. Before the supervisor runs the closed callbacks,
`start` is called again and returns; then its connection is lost, too. -/
def restartedEarly : List Action :=
  startRun {} ++ supervisorRun 10 .lost ++ .newStart :: List.replicate 23 (.start 1 {}) ++
    .supervisor 0 {} :: List.replicate 11 (.supervisor 1 .lost)

end World

end Signalrr.HubConnection
