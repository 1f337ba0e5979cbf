import Signalrr.HubConnection.TaskSteps
import Signalrr.HubConnection.Backpressure

set_option relaxedAutoImplicit false
set_option autoImplicit false

/-!
# Two calls of start

`start` in `src/hub_connection/mod.rs` reads the state under one lock and sets it to `Connecting`
under another. The mutex it takes later does not look at the state again, so two calls that have
both read `Disconnected` connect one after the other, and the second replaces the runtime of the
first.

## Main definitions

* `Signalrr.HubConnection.World.Connects`, `World.Stores` — a call of `start` reaches
  `connect_runtime`, and stores a runtime, in a history.
* `Signalrr.HubConnection.World.OneStart` — of two calls at most one does so, and the other one is
  refused.
* `Signalrr.HubConnection.World.outOfTurn` — a call sets `Connecting` although the state is not
  `Disconnected` any more, or puts the state back to `Disconnected` before the other has returned.

## Main results

* `Signalrr.HubConnection.World.oneStart_of_meets` — at most one start wins in runs without such
  steps.
* `Signalrr.HubConnection.World.both_starts_connect` — in general both may.
-/

namespace Signalrr.HubConnection

open Hub

namespace World

/-! ## Statement -/

/-- Call `i` of `start` takes a step at a place with property `p`. -/
def StepsAt (past : List (World × Action)) (i : ℕ) (p : StartPc → Prop) : Prop :=
  ∃ w env pc, (w, Action.start i env) ∈ past ∧ w.starts[i]? = some pc ∧ p pc

/-- Call `i` of `start` reaches `connect_runtime`. -/
def Connects (past : List (World × Action)) (i : ℕ) : Prop :=
  StepsAt past i fun pc => pc = .subscribe

/-- Call `i` of `start` stores a runtime. -/
def Stores (past : List (World × Action)) (i : ℕ) : Prop :=
  StepsAt past i fun pc => ∃ n b, pc = .storeRuntime n b

/-- At most one of two calls of `start` reaches `connect_runtime`, the other one returns
`InvalidState` if it returns, and no call stores its runtime over the one of the other. -/
structure OneStart (past : List (World × Action)) (w : World) (i k : ℕ) : Prop where
  connects : ¬ (Connects past i ∧ Connects past k)
  refused : Connects past i → ∀ result, w.starts[k]? = some (.returned result) →
    ∃ text, result = .error (.invalidState text)
  refused' : Connects past k → ∀ result, w.starts[i]? = some (.returned result) →
    ∃ text, result = .error (.invalidState text)
  stores : ¬ (Stores past i ∧ Stores past k)

/-- Only calls `i` and `k` of `start` run, besides the calls of the application. -/
def OfStarts (i k : ℕ) : Action → Prop
  | .start j _ => j = i ∨ j = k
  | .core _ => True
  | _ => False

instance (i k : ℕ) : (a : Action) → Decidable (OfStarts i k a)
  | .start j _ => inferInstanceAs (Decidable (j = i ∨ j = k))
  | .core _ => .isTrue trivial
  | .newStart | .newClose | .close .. | .supervisor .. | .supervisorEnds _ => .isFalse id

/-- The call has returned. -/
def StartPc.hasReturned : StartPc → Bool
  | .returned _ => true
  | _ => false

/-- The call is about to set the state to `Disconnected`. -/
def StartPc.publishesEnd (pc : StartPc) : Bool :=
  pc.ends || match pc.shutdown? with
    | some .setDisconnected => true
    | _ => false

/-- The call is about to set the state to `Connecting`. -/
def StartPc.publishesConnecting : StartPc → Bool
  | .setConnecting => true
  | _ => false

/-- The next step of call `x` is out of turn, where `y` is the other call. -/
def overtakes (w : World) (x y : ℕ) : Bool :=
  match w.starts[x]? with
  | none => false
  | some pc =>
    (StartPc.publishesConnecting pc && decide (w.core.control.state ≠ .disconnected)) ||
      (StartPc.publishesEnd pc && !(w.starts[y]?.map StartPc.hasReturned).getD false)

/-- A call sets the state to `Connecting` although it is not `Disconnected` any more, or to
`Disconnected` before the other call has returned. -/
def outOfTurn (i k : ℕ) (w : World) : Action → Bool
  | .start x _ => w.overtakes x (if x = i then k else i)
  | _ => false

/-- The condition on a step. -/
def InTurn (i k : ℕ) (w : World) (a : Action) : Prop := outOfTurn i k w a = false

instance (i k : ℕ) (w : World) (a : Action) : Decidable (InTurn i k w a) :=
  inferInstanceAs (Decidable (outOfTurn i k w a = false))

/-! ## Histories -/

variable {options : ConnectionOptions} {w w' : World} {a : Action} {past : List (World × Action)}
  {x y : ℕ} {p : StartPc → Prop}

/-- A further step. -/
lemma stepsAt_concat : StepsAt (past ++ [(w, a)]) x p ↔
    StepsAt past x p ∨ ∃ env pc, a = .start x env ∧ w.starts[x]? = some pc ∧ p pc := by
  constructor
  · rintro ⟨v, env, pc, hmem, hpc, hp⟩
    rcases List.mem_append.mp hmem with hmem | hmem
    · exact .inl ⟨v, env, pc, hmem, hpc, hp⟩
    · cases List.mem_singleton.mp hmem
      exact .inr ⟨env, pc, rfl, hpc, hp⟩
  · rintro (⟨v, env, pc, hmem, hpc, hp⟩ | ⟨env, pc, rfl, hpc, hp⟩)
    · exact ⟨v, env, pc, List.mem_append_left _ hmem, hpc, hp⟩
    · exact ⟨w, env, pc, List.mem_append_right _ (List.mem_singleton_self _), hpc, hp⟩

/-- A step that is not one of call `x`. -/
lemma stepsAt_concat_of_ne (ha : ∀ env, a ≠ .start x env) :
    StepsAt (past ++ [(w, a)]) x p ↔ StepsAt past x p := by
  rw [stepsAt_concat]
  exact or_iff_left fun ⟨env, _, h, _⟩ => ha env h

/-- Call `x` has set the state to `Connecting`. -/
def Passed (past : List (World × Action)) (x : ℕ) : Prop :=
  StepsAt past x fun pc => pc = .setConnecting

/-- What is known of call `x` next to call `y`. -/
structure Turn (past : List (World × Action)) (w : World) (x y : ℕ) : Prop where
  /-- Once it has set the state to `Connecting`, the other call does not find it `Disconnected`. -/
  held : Passed past x → w.core.control.state ≠ .disconnected ∨
    (w.starts[y]?.map StartPc.hasReturned).getD false = true
  /-- Before that it is at the beginning, or was refused. -/
  early : ∀ pc, w.starts[x]? = some pc → Passed past x ∨ pc = .readState ∨ pc = .setConnecting ∨
    ∃ text, pc = .returned (.error (.invalidState text))
  connects : Connects past x → Passed past x
  stores : Stores past x → Passed past x

/-- A step of call `x`, seen from call `x`.

**Proof sketch.** It sets the state to `Disconnected` only when the other call has returned. What it
does behind the beginning it does after having set the state to `Connecting`. -/
lemma Turn.own {env : Env} {pc pc' : StartPc} {e : Effect} (h : Turn past w x y)
    (hs : StartStep options w w' a x pc pc' e env) (hok : w.overtakes x y = false)
    (hy : w'.starts[y]? = w.starts[y]?) : Turn (past ++ [(w, a)]) w' x y := by
  have hmono : Passed past x → Passed (past ++ [(w, a)]) x := fun hq => stepsAt_concat.mpr (.inl hq)
  have hback : ∀ {q : StartPc → Prop},
      StepsAt (past ++ [(w, a)]) x q → StepsAt past x q ∨ q pc := by
    intro q hq
    rcases stepsAt_concat.mp hq with hq | ⟨env', pc₁, -, hpc₁, hq⟩
    · exact .inl hq
    · cases hs.before.symm.trans hpc₁
      exact .inr hq
  have hlate : pc ≠ .readState → pc ≠ .setConnecting → Passed past x := by
    intro hr hc
    rcases h.early pc hs.before with hp | hp | hp | ⟨text, rfl⟩
    · exact hp
    · exact absurd hp hr
    · exact absurd hp hc
    · cases hs.step
  have hcontrol : w'.core.control = e.op.onControl w.core.control := by
    rw [hs.core, Core.applyOp_control]
  refine ⟨fun hp => ?_, fun pc₁ hpc₁ => ?_, fun hc => ?_, fun hst => ?_⟩
  · rw [hy, hcontrol]
    by_cases hd : (e.op.onControl w.core.control).state = .disconnected
    · right
      rcases StartPc.step_state hs.step hd with hst | hend
      · rcases hback hp with hp | rfl
        · exact (h.held hp).resolve_left fun hne => hne hst
        · cases hs.step
          cases hd
      · have hpub : StartPc.publishesEnd pc = true := by
          rcases hend with hend | hend
          · simp [StartPc.publishesEnd, hend]
          · simp [StartPc.publishesEnd, hend]
        simp only [overtakes, hs.before, hpub, Bool.true_and, Bool.or_eq_false_iff,
          Bool.not_eq_false'] at hok
        exact hok.2
    · exact .inl hd
  · obtain rfl := Option.some.inj (hs.after.symm.trans hpc₁)
    by_cases hr : pc = .readState
    · subst hr
      cases hs.step
      split
      · exact .inr (.inr (.inl rfl))
      · exact .inr (.inr (.inr ⟨_, rfl⟩))
    · by_cases hc : pc = .setConnecting
      · exact .inl (stepsAt_concat.mpr (.inr ⟨env, pc, hs.action, hs.before, hc⟩))
      · exact .inl (hmono (hlate hr hc))
  · rcases hback hc with hc | rfl
    · exact hmono (h.connects hc)
    · exact hmono (hlate (fun hpc => by cases hpc) fun hpc => by cases hpc)
  · rcases hback hst with hst | ⟨n, b, rfl⟩
    · exact hmono (h.stores hst)
    · exact hmono (hlate (fun hpc => by cases hpc) fun hpc => by cases hpc)

/-- A step of call `y`, seen from call `x`.

**Proof sketch.** The history of call `x` is the same. If it has set the state to `Connecting`, call
`y` has not, so it only reads the state and returns. -/
lemma Turn.other {env : Env} {pc pc' : StartPc} {e : Effect} (h : Turn past w x y)
    (h' : Turn past w y x) (honce : ¬ (Passed past x ∧ Passed past y)) (hxy : x ≠ y)
    (hs : StartStep options w w' a y pc pc' e env) (hok : w.overtakes y x = false)
    (hx : w'.starts[x]? = w.starts[x]?) : Turn (past ++ [(w, a)]) w' x y := by
  have hne : ∀ env, a ≠ .start x env := by
    intro env' ha
    cases hs.action.symm.trans ha
    exact hxy rfl
  refine ⟨fun hp => ?_, fun pc₁ hpc₁ => ?_, fun hc => ?_, fun hst => ?_⟩
  · have hp := (stepsAt_concat_of_ne hne).mp hp
    have hcontrol : w'.core.control = e.op.onControl w.core.control := by
      rw [hs.core, Core.applyOp_control]
    rw [hcontrol, hs.after]
    rcases h'.early pc hs.before with hpy | rfl | rfl | ⟨text, rfl⟩
    · exact absurd ⟨hp, hpy⟩ honce
    · rcases h.held hp with hst | hret
      · refine .inr ?_
        cases hs.step
        rw [if_neg hst]
        rfl
      · simp [hs.before, StartPc.hasReturned] at hret
    · cases hs.step
      exact .inl fun hd => by cases hd
    · cases hs.step
  · rw [hx] at hpc₁
    exact (h.early pc₁ hpc₁).imp_left fun hp => (stepsAt_concat_of_ne hne).mpr hp
  · exact (stepsAt_concat_of_ne hne).mpr (h.connects ((stepsAt_concat_of_ne hne).mp hc))
  · exact (stepsAt_concat_of_ne hne).mpr (h.stores ((stepsAt_concat_of_ne hne).mp hst))

/-- After a step of call `x` still at most one of the two has set the state to `Connecting`. -/
lemma Turn.once {env : Env} {pc pc' : StartPc} {e : Effect} (h' : Turn past w y x)
    (honce : ¬ (Passed past x ∧ Passed past y)) (hxy : x ≠ y)
    (hs : StartStep options w w' a x pc pc' e env) (hok : w.overtakes x y = false) :
    ¬ (Passed (past ++ [(w, a)]) x ∧ Passed (past ++ [(w, a)]) y) := by
  rintro ⟨hx, hy⟩
  have hne : ∀ env, a ≠ .start y env := by
    intro env' ha
    cases hs.action.symm.trans ha
    exact hxy rfl
  have hy := (stepsAt_concat_of_ne hne).mp hy
  rcases stepsAt_concat.mp hx with hx | ⟨env', pc₁, -, hpc₁, rfl⟩
  · exact honce ⟨hx, hy⟩
  · simp only [overtakes, hpc₁, StartPc.publishesConnecting, Bool.true_and, Bool.or_eq_false_iff,
      decide_eq_false_iff_not, not_not] at hok
    rcases h'.held hy with hst | hret
    · exact hst hok.1
    · simp [hpc₁, StartPc.hasReturned] at hret

/-- What the steps of two calls preserve. -/
structure Race (i k : ℕ) (past : List (World × Action)) (w : World) : Prop where
  once : ¬ (Passed past i ∧ Passed past k)
  left : Turn past w i k
  right : Turn past w k i

/-- **One step** under the condition. -/
lemma Race.step {i k : ℕ} (h : Race i k past w) (hik : i ≠ k) (ha : OfStarts i k a)
    (hok : InTurn i k w a) (hstep : Step options w a w') : Race i k (past ++ [(w, a)]) w' := by
  cases hstep with
  | @start x env pc pc' e hi hr =>
    have hset : ∀ z, z ≠ x →
        ({ w.apply options e with starts := w.starts.set x pc' } : World).starts[z]? =
          w.starts[z]? := fun z hz => List.getElem?_set_ne (Ne.symm hz)
    have hs : StartStep options w { w.apply options e with starts := w.starts.set x pc' }
        (.start x env) x pc pc' e env :=
      ⟨rfl, hi, hr, List.getElem?_set_self (List.getElem?_eq_some_iff.mp hi).1, rfl⟩
    rcases ha with rfl | rfl
    · have hok : w.overtakes x k = false := by simpa [InTurn, outOfTurn] using hok
      exact ⟨h.right.once h.once hik hs hok, h.left.own hs hok (hset k hik.symm),
        h.right.other h.left (fun hp => h.once hp.symm) hik.symm hs hok (hset k hik.symm)⟩
    · have hok : w.overtakes x i = false := by simpa [InTurn, outOfTurn, hik.symm] using hok
      exact ⟨fun hp => h.left.once (fun hp => h.once hp.symm) hik.symm hs hok hp.symm,
        h.left.other h.right h.once hik hs hok (hset i hik),
        h.right.own hs hok (hset i hik)⟩
  | @core ca c hen hr =>
    have hsame := sameLifecycle_of_next (ne_op_of_coreEnabled hen) hr
    have hne : ∀ x env, Action.core ca ≠ .start x env := fun x env h => by cases h
    have hturn : ∀ {x y}, Turn past w x y →
        Turn (past ++ [(w, .core ca)]) { w with core := c } x y := by
      intro x y ht
      refine ⟨fun hp => ?_, fun pc hpc => ?_, fun hc => ?_, fun hst => ?_⟩
      · rw [hsame.control]
        exact ht.held ((stepsAt_concat_of_ne (hne x)).mp hp)
      · exact (ht.early pc hpc).imp_left fun hp => (stepsAt_concat_of_ne (hne x)).mpr hp
      · exact (stepsAt_concat_of_ne (hne x)).mpr
          (ht.connects ((stepsAt_concat_of_ne (hne x)).mp hc))
      · exact (stepsAt_concat_of_ne (hne x)).mpr
          (ht.stores ((stepsAt_concat_of_ne (hne x)).mp hst))
    refine ⟨fun hp => h.once ?_, hturn h.left, hturn h.right⟩
    exact ⟨(stepsAt_concat_of_ne (hne i)).mp hp.1, (stepsAt_concat_of_ne (hne k)).mp hp.2⟩
  | newStart | newClose | close | supervisor | supervisorEnds => cases ha

/-- At most one of the two has won. -/
lemma Race.oneStart {i k : ℕ} (h : Race i k past w) : OneStart past w i k := by
  have hrefused : ∀ {x y}, ¬ (Passed past x ∧ Passed past y) → Turn past w x y → Turn past w y x →
      Connects past x → ∀ result, w.starts[y]? = some (.returned result) →
        ∃ text, result = .error (.invalidState text) := by
    intro x y honce hx hy hc result hret
    rcases hy.early _ hret with hp | hp | hp | ⟨text, hp⟩
    · exact absurd ⟨hx.connects hc, hp⟩ honce
    · cases hp
    · cases hp
    · cases hp
      exact ⟨text, rfl⟩
  refine ⟨fun hc => h.once ⟨h.left.connects hc.1, h.right.connects hc.2⟩,
    hrefused h.once h.left h.right,
    hrefused (fun hp => h.once hp.symm) h.right h.left,
    fun hst => h.once ⟨h.left.stores hst.1, h.right.stores hst.2⟩⟩

/-- **At most one start wins** when two calls of `start` run, each sets the state to `Connecting`
only while it is `Disconnected`, and a call that fails does not set it back to `Disconnected` before
the other one has returned. -/
theorem oneStart_of_meets (options : ConnectionOptions) {w₀ w : World} {i k : ℕ} (hik : i ≠ k)
    (hi : w₀.starts[i]? = some .readState) (hk : w₀.starts[k]? = some .readState)
    {as : List Action} (has : ∀ a ∈ as, OfStarts i k a)
    (hrun : (system options).runFrom w₀ as = some w)
    (hm : (system options).MeetsFrom (InTurn i k) w₀ as) :
    OneStart ((system options).stepsFrom w₀ as) w i k := by
  have hnone : ∀ {x p}, ¬ StepsAt [] x p := by
    rintro x p ⟨v, env, pc, hmem, -⟩
    cases hmem
  have hinit : ∀ {x y}, w₀.starts[x]? = some .readState → Turn [] w₀ x y := by
    intro x y hx
    refine ⟨fun hp => absurd hp hnone, fun pc hpc => ?_, fun hc => absurd hc hnone,
      fun hst => absurd hst hnone⟩
    cases hx.symm.trans hpc
    exact .inr (.inl rfl)
  have h : Race i k ([] ++ (system options).stepsFrom w₀ as) w :=
    Automata.System.history_of_meetsFrom
      (fun _ _ _ _ hr hok hnext => hr.step hik hok.1 hok.2 (step_of_next hnext))
      ⟨fun hp => hnone hp.1, hinit hi, hinit hk⟩ hrun
      (Automata.System.meetsFrom_and (Automata.System.meetsFrom_of_mem has w₀) hm)
  exact h.oneStart

/-- A connection that was never started, and two calls of `start`. -/
def twoStarts : World := ⟨.new, [.readState, .readState], [], []⟩

/-- The second call reads the state while the first one connects. -/
def startInTurn : List Action :=
  List.replicate 7 (.start 0 {}) ++ .start 1 {} :: List.replicate 16 (.start 0 {})

/-- The first call is in `connect_runtime` when the second one comes, and is refused. -/
theorem oneStart_of_meets_in_turn :
    ∃ w, (system .plain).runFrom twoStarts startInTurn = some w ∧
      w.core.control.state = .connected ∧
      w.starts[1]? = some (.returned (.error
        (.invalidState "cannot start a HubConnection in the 'Connecting' state"))) ∧
      OneStart ((system .plain).stepsFrom twoStarts startInTurn) w 0 1 := by
  obtain ⟨w, hrun, hw⟩ := Option.map_eq_some_iff.mp (show
    ((system .plain).runFrom twoStarts startInTurn).map
      (fun w => (w.core.control.state, w.starts[1]?)) =
        some (.connected, some (.returned (.error
          (.invalidState "cannot start a HubConnection in the 'Connecting' state")))) by rfl)
  obtain ⟨hstate, hsecond⟩ := Prod.mk.inj hw
  exact ⟨w, hrun, hstate, hsecond,
    oneStart_of_meets .plain (by decide) rfl rfl (by decide +kernel) hrun (by decide +kernel)⟩

/-- Both calls read the state, then one connects after the other. -/
def startTogether : List Action :=
  [.start 0 {}, .start 1 {}] ++ List.replicate 22 (.start 0 {}) ++ List.replicate 22 (.start 1 {})

/-- A step of call `x` at the beginning of `connect_runtime`. -/
def connectsAt (x : ℕ) (s : World × Action) : Bool :=
  match s.2 with
  | .start j _ => j == x && match s.1.starts[x]? with
    | some .subscribe => true
    | _ => false
  | _ => false

/-- It is found in the history. -/
lemma connects_of_any (h : past.any (connectsAt x) = true) : Connects past x := by
  obtain ⟨⟨v, a⟩, hmem, hs⟩ := List.any_eq_true.mp h
  cases a with
  | start j env =>
    simp only [connectsAt, Bool.and_eq_true, beq_iff_eq] at hs
    obtain ⟨rfl, hs⟩ := hs
    split at hs
    · rename_i hpc
      exact ⟨v, env, _, hmem, hpc, rfl⟩
    · cases hs
  | _ => cases hs

/-- **Both starts may win**: when both calls have read `Disconnected`, both connect. -/
theorem both_starts_connect :
    ¬ ∀ (options : ConnectionOptions) (w₀ w : World) (i k : ℕ) (as : List Action),
        (system options).Reachable w₀ → i ≠ k → w₀.starts[i]? = some .readState →
        w₀.starts[k]? = some .readState → (∀ a ∈ as, OfStarts i k a) →
        (system options).runFrom w₀ as = some w →
          OneStart ((system options).stepsFrom w₀ as) w i k := by
  intro h
  obtain ⟨w, hrun, -⟩ := Option.map_eq_some_iff.mp
    (show ((system .plain).runFrom twoStarts startTogether).map (fun w => w.core.control.state) =
      some .connected by rfl)
  have hreach : (system .plain).Reachable twoStarts := ⟨[.newStart, .newStart], rfl⟩
  have hone := h .plain twoStarts w 0 1 startTogether hreach (by decide) rfl rfl
    (by decide +kernel) hrun
  exact hone.connects ⟨connects_of_any (by rfl), connects_of_any (by rfl)⟩

end World

end Signalrr.HubConnection
