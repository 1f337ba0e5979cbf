import Signalrr.HubConnection.CallbackFlag

set_option relaxedAutoImplicit false
set_option autoImplicit false

/-!
# The closed callbacks of a session

A supervisor that gives up sets the state to `Disconnected` before it invokes the closed callbacks
(`src/hub_connection/mod.rs`), so the next `start` can set the flag of
`src/hub_connection/callbacks.rs` in between. The supervisor then takes the flag of the new session,
which gets no callbacks when it ends.

## Main definitions

* `Signalrr.HubConnection.World.SessionOf`, `World.SessionOver` — the part of a run that is the
  session of a `start`, and that it is over.
* `Signalrr.HubConnection.World.audit` — the rounds of closed callbacks in a history, each with
  whether the task that ran it had ended the connection in that history.
* `Signalrr.HubConnection.World.ClosedOnce` — there is one round, by a task that had.

## Main results

* `Signalrr.HubConnection.World.closed_once_of_meets` — in runs in which sessions do not overlap,
  every session that is over has had one round of its own.
* `Signalrr.HubConnection.World.closed_by_earlier_session` — in general it may have had the one of
  an earlier session.
-/

namespace Signalrr.HubConnection

open Hub

namespace World

/-! ## Sessions -/

/-- What is found in a history. -/
structure Audit where
  /-- The tasks that have set the state to `Disconnected`. -/
  ended : List Closer
  /-- The rounds of closed callbacks: whether the task that ran them is one of these. -/
  rounds : List Bool

/-- A further step. The callbacks are run when the flag is set. -/
def Audit.add (r : Audit) (step : World × Action) : Audit :=
  match Action.closer? step.2 with
  | none => r
  | some x =>
    if step.1.setsDisconnected x then { r with ended := x :: r.ended }
    else if step.1.invokesClosed x && step.1.core.control.connectionStarted then
      { r with rounds := r.rounds ++ [decide (x ∈ r.ended)] }
    else r

/-- The audit of a history. -/
def audit (past : List (World × Action)) : Audit := past.foldl Audit.add ⟨[], []⟩

/-- There is one round of closed callbacks, run by a task that had ended the connection before, all
since `v`. -/
structure ClosedOnce (past : List (World × Action)) (v w : World) : Prop where
  round : (audit past).rounds = [true]
  callbacks : ∃ reason,
    w.core.control.closedCallbacks = v.core.control.closedCallbacks ++ [reason]

/-- The session that call `i` of `start` begins in a run: `v` is the state in which it has marked
it, and no other session is marked until `w`. -/
structure SessionOf (options : ConnectionOptions) (as : List Action) (i : ℕ)
    (before session after : List Action) (v w : World) : Prop where
  begins : ∃ w₁ env, as = before ++ .start i env :: (session ++ after) ∧
    (system options).run before = some w₁ ∧ w₁.marks (.start i env) = true ∧
    next options w₁ (.start i env) = some v
  run : (system options).runFrom v session = some w
  alone : ∀ s ∈ (system options).stepsFrom v session, s.1.marks s.2 = false

/-- The session has reached `Disconnected` and its steps are finished: nothing is at work, or the
next session is marked when all supervisors have stopped. -/
def SessionOver (past : List (World × Action)) (w : World) (after : List Action) : Prop :=
  (w.core.control.state = .disconnected ∧ w.Idle) ∨
    (∃ a as, after = a :: as ∧ w.marks a = true) ∧
      (∃ s ∈ past, s.1.core.control.state = .disconnected) ∧
      ∀ s ∈ w.supervisors, s.stopped = true

variable {options : ConnectionOptions} {w w' : World} {a : Action}

/-! ## One session -/

/-- The audit of a history with a further step. -/
lemma audit_concat (past : List (World × Action)) :
    audit (past ++ [(w, a)]) = (audit past).add (w, a) := by
  simp [audit]

/-- The tasks that have ended the connection after a further step. -/
lemma Audit.mem_ended_add {r : Audit} {x : Closer} (h : x ∈ r.ended ∨
    Action.closer? a = some x ∧ w.setsDisconnected x = true) : x ∈ (r.add (w, a)).ended := by
  unfold add
  rcases h with h | ⟨hx, hset⟩
  · split
    · exact h
    · repeat' split
      · exact List.mem_cons_of_mem _ h
      · exact h
      · exact h
  · simp [hx, hset]

/-- What holds since `v`, where a session was marked: the flag is still set and there was no round,
or it was taken by a task that has ended the session. -/
structure During (v : World) (past : List (World × Action)) (w : World) : Prop where
  ended : ∀ x, w.invokesClosed x = true → x ∈ (audit past).ended
  rounds : (w.core.control.connectionStarted = true ∧ (audit past).rounds = [] ∧
      w.core.control.closedCallbacks = v.core.control.closedCallbacks) ∨
    (w.core.control.connectionStarted = false ∧ ClosedOnce past v w)

/-- **One step of a session.** -/
lemma During.step {v : World} {past : List (World × Action)} (h : During v past w)
    (hm : w.marks a = false) (hstep : Step options w a w') : During v (past ++ [(w, a)]) w' := by
  refine ⟨fun x hx => ?_, ?_⟩
  · rw [audit_concat]
    exact Audit.mem_ended_add ((hstep.invokesClosed hx).imp_left (h.ended x))
  · rcases hstep.rounds with ⟨x, reason, hx, hinv, -, hc⟩ | ⟨hnone, ⟨hm', -⟩ | ⟨-, hsame⟩⟩
    · have hset := setsDisconnected_of_invokesClosed hinv
      refine .inr ?_
      rcases h.rounds with ⟨hflag, hr, hcb⟩ | ⟨hflag, hr, reason', hcb⟩
      · refine ⟨by rw [hc]; simp [Control.invokeClosed, hflag], ?_, reason, ?_⟩
        · rw [audit_concat]
          simp [Audit.add, hx, hset, hinv, hflag, hr, h.ended x hinv]
        · rw [hc]
          simp [Control.invokeClosed, hflag, hcb]
      · refine ⟨by rw [hc]; simp [Control.invokeClosed, hflag], ?_, reason', ?_⟩
        · rw [audit_concat]
          simp [Audit.add, hx, hset, hflag, hr]
        · rw [hc]
          simp [Control.invokeClosed, hflag, hcb]
    · simp [hm] at hm'
    · have hr : (audit (past ++ [(w, a)])).rounds = (audit past).rounds := by
        rw [audit_concat]
        unfold Audit.add
        split
        · rfl
        · rename_i x hx
          simp only [hnone x hx, Bool.false_and, Bool.false_eq_true, if_false]
          split <;> rfl
      rw [hsame.1]
      rcases h.rounds with ⟨hflag, hr₀, hcb⟩ | ⟨hflag, hr₀, reason, hcb⟩
      · exact .inl ⟨hflag, hr.trans hr₀, hsame.2.trans hcb⟩
      · exact .inr ⟨hflag, hr.trans hr₀, reason, hsame.2.trans hcb⟩

/-- The beginning of a session. -/
lemma SessionInvariant.during (h : SessionInvariant w) (hok : w.SessionsApart options a)
    (ha : w.marks a = true) (hstep : Step options w a w') : During w' [] w' := by
  have hnone := h.not_invokesClosed hok ha
  refine ⟨fun x hx => ?_, .inl ⟨?_, rfl, rfl⟩⟩
  · rcases hstep.invokesClosed hx with hx | ⟨hx, hset⟩
    · simp [hnone x] at hx
    · cases x with
      | task t =>
        simp only [setsDisconnected] at hset
        split at hset
        · rename_i ht
          exact absurd ht (h.not_taskPending ha)
        · cases hset
      | supervisor k =>
        cases a with
        | start i env => cases hx
        | _ => cases ha
  · rcases hstep.rounds with ⟨x, reason, -, -, hm, -⟩ | ⟨-, ⟨-, hc⟩ | ⟨hm, -⟩⟩
    · simp [ha] at hm
    · rw [hc]
    · simp [ha] at hm

/-! ## Runs -/

/-- **A `start` that returns `Ok` begins a session.** -/
lemma exists_sessionOf {as : List Action} {i : ℕ} (hrun : (system options).run as = some w)
    (hret : w.starts[i]? = some (.returned (.ok ()))) :
    ∃ before session after v w', SessionOf options as i before session after v w' := by
  -- a `start` behind the mark has marked its session in the history
  have hpast : ∀ (i : ℕ) (pc : StartPc), w.starts[i]? = some pc → pc.marked = true →
      ∃ v env, (v, Action.start i env) ∈ [] ++ (system options).stepsFrom new as ∧
        v.marks (.start i env) = true := by
    refine Automata.System.history_of_meetsFrom
      (I := fun past (w : World) => ∀ (i : ℕ) (pc : StartPc), w.starts[i]? = some pc →
        pc.marked = true → ∃ v env, (v, Action.start i env) ∈ past ∧ v.marks (.start i env) = true)
      ?_ (fun i pc hi => by simp [new] at hi) hrun
      (Automata.System.meetsFrom_of_forall (fun _ _ => trivial : ∀ _ _, True) _ _)
    intro past w a w' h _ hnext i pc' hi hpc'
    have hold : ∀ pc, w.starts[i]? = some pc → pc.marked = true → ∃ v env,
        (v, Action.start i env) ∈ past ++ [(w, a)] ∧ v.marks (.start i env) = true := by
      intro pc hpc hm
      obtain ⟨v, env, hmem, hv⟩ := h i pc hpc hm
      exact ⟨v, env, List.mem_append_left _ hmem, hv⟩
    rcases (step_of_next hnext).starts i with heq | ⟨-, -, hnew⟩ | ⟨pc, pc₁, e, env, hst⟩
    · exact hold pc' (heq.symm.trans hi) hpc'
    · cases hi.symm.trans hnew
      cases hpc'
    · cases hi.symm.trans hst.after
      rcases StartPc.marked_of_step hst.step hpc' with hm | hm
      · refine ⟨w, env, List.mem_append_right _ ?_, ?_⟩
        · rw [hst.action]
          exact List.mem_singleton_self _
        · simp [marks, hst.before, hm]
      · exact hold pc hst.before hm
  obtain ⟨w₁, env, hmem, hm⟩ := hpast i _ hret rfl
  obtain ⟨before, after, rfl, hbefore⟩ := Automata.System.exists_of_mem_stepsFrom hmem
  have hafter : ((system options).next w₁ (.start i env)).isSome := by
    have hall := (system options).runFrom_append new before (.start i env :: after)
    rw [hbefore, Option.bind_some, Automata.System.runFrom_cons] at hall
    obtain ⟨v, hv, -⟩ := Option.bind_eq_some_iff.mp (hall.symm.trans hrun)
    rw [hv]
    rfl
  obtain ⟨v, hv⟩ := Option.isSome_iff_exists.mp hafter
  exact ⟨before, [], after, v, v, ⟨w₁, env, rfl, hbefore, hm, hv⟩, rfl, fun s hs => by cases hs⟩

/-- A run with a session of the second `start` at its end, as it is evaluated: the session is marked
behind `before`, no other one is, and it is over. -/
lemma exists_session (before session : List Action) (rounds : List Bool)
    (h : (((system .plain).run before).map fun w => (w.marks (.start 1 {}),
      (next .plain w (.start 1 {})).bind fun v => ((system .plain).runFrom v session).map fun w' =>
        (((system .plain).stepsFrom v session).all (fun s => !s.1.marks s.2),
          (audit ((system .plain).stepsFrom v session)).rounds,
          w'.summary.1, w'.core.control.state))) =
      some (true, some (true, rounds, (true, true, true), .disconnected))) :
    ∃ v w', SessionOf .plain (before ++ .start 1 {} :: (session ++ [])) 1 before session [] v w' ∧
      SessionOver ((system .plain).stepsFrom v session) w' [] ∧
        (audit ((system .plain).stepsFrom v session)).rounds = rounds := by
  obtain ⟨w₁, hbefore, hw₁⟩ := Option.map_eq_some_iff.mp h
  obtain ⟨hmark, hv⟩ := Prod.mk.inj hw₁
  obtain ⟨v, hv, hw'⟩ := Option.bind_eq_some_iff.mp hv
  obtain ⟨w', hsession, hw'⟩ := Option.map_eq_some_iff.mp hw'
  simp only [Prod.mk.injEq, List.all_eq_true, Bool.not_eq_true'] at hw'
  obtain ⟨halone, hrounds, hidle, hd⟩ := hw'
  exact ⟨v, w', ⟨⟨w₁, {}, rfl, hbefore, hmark, hv⟩, hsession, halone⟩,
    .inl ⟨hd, .of_summary hidle⟩, hrounds⟩

/-- A session ends when its connection is lost, and `start` is called again: until the new session
is marked. -/
def afterLoss : List Action :=
  startRun {} ++ supervisorRun 7 .lost ++ .newStart :: List.replicate 18 (.start 1 {})

/-- `start` returns, and the connection is closed. -/
def secondSession : List Action :=
  List.replicate 4 (.start 1 {}) ++ .newClose :: List.replicate 20 (.close 0 {})

/-- The connection is lost, and `start` is called when the supervisor has set the state: until the
new session is marked. -/
def beforeHandOver : List Action :=
  startRun {} ++ supervisorRun 6 .lost ++ .newStart :: List.replicate 18 (.start 1 {})

/-- The old supervisor invokes the callbacks, `start` returns, and the connection is closed. -/
def handOver : List Action :=
  .supervisor 0 {} :: List.replicate 4 (.start 1 {}) ++ .newClose :: List.replicate 20 (.close 0 {})

end World

end Signalrr.HubConnection
