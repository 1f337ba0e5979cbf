import Mathlib.Data.List.Infix

set_option relaxedAutoImplicit false
set_option autoImplicit false

/-!
# Executable labelled transition systems

A system of communicating tasks is given by an initial state and a partial function that
performs one action. An action that is not enabled has no successor. A run is a list of
actions, all of them enabled in turn, so a run can be evaluated on concrete input.

Many safety results hold only along runs whose steps satisfy a side condition on the state
they are taken in. `Automata.System.Meets` states such a condition, and
`Automata.System.invariant_of_meets` is the corresponding induction rule.

## Main definitions

* `Automata.System` — an initial state and a partial step function.
* `Automata.System.run` — the state after a list of actions, if all of them are enabled.
* `Automata.System.Reachable` — states at the end of some run.
* `Automata.System.Meets` — every step of a run satisfies a condition on the state before it.
* `Automata.System.stepsFrom` — the steps of a run, each with the state it is taken in.

## Main results

* `Automata.System.invariant_of_meets` — an invariant preserved by the steps that meet the
  condition holds at the end of every run that meets it.
* `Automata.System.history_of_meetsFrom` — the same for invariants that speak about the steps taken.
* `Automata.System.invariant_of_mem_stepsFrom` — the same for the states in which steps are taken.
* `Automata.System.invariant_of_runFrom`, `Automata.System.Reachable.invariant` — the case of the
  trivial condition.
* `Automata.System.length_le_of_lowers` — a measure that every step lowers bounds the runs.
* `Automata.System.exists_runFrom_replicate` — an action that can be repeated and lowers a measure
  reaches its goal.
-/

namespace Automata

/-- A transition system with states `σ` and actions `α`. -/
structure System (σ α : Type*) where
  /-- The initial state. -/
  init : σ
  /-- The state after an action, `none` when the action is not enabled. -/
  next : σ → α → Option σ

namespace System

variable {σ α : Type*} (S : System σ α)

/-- The state after performing a list of actions from `s`, `none` when one of them is not
enabled. -/
def runFrom (s : σ) : List α → Option σ
  | [] => some s
  | a :: as => (S.next s a).bind fun s' => runFrom s' as

/-- The state after performing a list of actions from the initial state. -/
def run (as : List α) : Option σ := S.runFrom S.init as

/-- `s` is the last state of some run. -/
def Reachable (s : σ) : Prop := ∃ as, S.run as = some s

/-- Every action of the list, performed from `s`, satisfies `ok` in the state it is taken
in. -/
def MeetsFrom (ok : σ → α → Prop) (s : σ) : List α → Prop
  | [] => True
  | a :: as => ok s a ∧ ∀ s', S.next s a = some s' → MeetsFrom ok s' as

/-- Every action of the run satisfies `ok` in the state it is taken in. -/
def Meets (ok : σ → α → Prop) (as : List α) : Prop := S.MeetsFrom ok S.init as

/-- The steps of a list of actions performed from `s`: each action with the state it is taken in. -/
def stepsFrom (s : σ) : List α → List (σ × α)
  | [] => []
  | a :: as => (s, a) :: ((S.next s a).map fun s' => stepsFrom s' as).getD []

@[simp] lemma runFrom_nil (s : σ) : S.runFrom s [] = some s := rfl

@[simp] lemma runFrom_cons (s : σ) (a : α) (as : List α) :
    S.runFrom s (a :: as) = (S.next s a).bind fun s' => S.runFrom s' as := rfl

@[simp] lemma meetsFrom_nil (ok : σ → α → Prop) (s : σ) : S.MeetsFrom ok s [] := trivial

@[simp] lemma meetsFrom_cons (ok : σ → α → Prop) (s : σ) (a : α) (as : List α) :
    S.MeetsFrom ok s (a :: as) ↔
      ok s a ∧ ∀ s', S.next s a = some s' → S.MeetsFrom ok s' as := Iff.rfl

/-- The condition on the first of a list of actions, whose successor is known. -/
lemma meetsFrom_cons_of_next {ok : σ → α → Prop} {s s' : σ} {a : α} {as : List α}
    (h : S.next s a = some s') (ha : ok s a) (has : S.MeetsFrom ok s' as) :
    S.MeetsFrom ok s (a :: as) := by
  refine ⟨ha, fun t ht => ?_⟩
  obtain rfl : s' = t := by simpa [h] using ht
  exact has

/-- A decidable condition can be checked along a run. -/
def decidableMeetsFrom (ok : σ → α → Prop) [∀ s a, Decidable (ok s a)] :
    ∀ (s : σ) (as : List α), Decidable (S.MeetsFrom ok s as)
  | _, [] => .isTrue trivial
  | s, a :: as =>
    match h : S.next s a with
    | none => decidable_of_iff (ok s a) (by simp [h])
    | some s' =>
      have := decidableMeetsFrom ok s' as
      decidable_of_iff (ok s a ∧ S.MeetsFrom ok s' as) (by simp [h])

instance (ok : σ → α → Prop) [∀ s a, Decidable (ok s a)] (s : σ) (as : List α) :
    Decidable (S.MeetsFrom ok s as) :=
  S.decidableMeetsFrom ok s as

instance (ok : σ → α → Prop) [∀ s a, Decidable (ok s a)] (as : List α) :
    Decidable (S.Meets ok as) :=
  S.decidableMeetsFrom ok S.init as

/-- Running a concatenation runs its two parts one after the other. -/
lemma runFrom_append (s : σ) (as bs : List α) :
    S.runFrom s (as ++ bs) = (S.runFrom s as).bind fun s' => S.runFrom s' bs := by
  induction as generalizing s with
  | nil => rfl
  | cons a as ih =>
    simp only [List.cons_append, runFrom_cons]
    cases S.next s a with
    | none => rfl
    | some s' => simpa using ih s'

variable {S}

/-- **Invariants along conditioned runs**: what holds initially and is preserved by every step
that meets the condition holds at the end of every run that meets it.

**Proof sketch.** Induction on the actions, generalizing the state they start from. -/
theorem invariant_of_meetsFrom {ok : σ → α → Prop} {I : σ → Prop}
    (hstep : ∀ s a s', I s → ok s a → S.next s a = some s' → I s') {s t : σ} {as : List α}
    (hs : I s) (hrun : S.runFrom s as = some t) (hm : S.MeetsFrom ok s as) : I t := by
  induction as generalizing s with
  | nil =>
    obtain rfl : s = t := by simpa using hrun
    exact hs
  | cons a as ih =>
    simp only [runFrom_cons, Option.bind_eq_some_iff] at hrun
    obtain ⟨u, hu, hrest⟩ := hrun
    exact ih (hstep s a u hs hm.1 hu) hrest (hm.2 u hu)

/-- `invariant_of_meetsFrom` from the initial state. -/
theorem invariant_of_meets {ok : σ → α → Prop} {I : σ → Prop} (hinit : I S.init)
    (hstep : ∀ s a s', I s → ok s a → S.next s a = some s' → I s') {t : σ} {as : List α}
    (hrun : S.run as = some t) (hm : S.Meets ok as) : I t :=
  invariant_of_meetsFrom hstep hinit hrun hm

/-- **Invariants with a history**: what holds initially and is preserved by every step that meets
the condition, when the step is added to the history, holds at the end of every run that meets it,
of the history with all steps of the run. -/
theorem history_of_meetsFrom {ok : σ → α → Prop} {I : List (σ × α) → σ → Prop}
    (hstep : ∀ past s a s', I past s → ok s a → S.next s a = some s' → I (past ++ [(s, a)]) s')
    {past : List (σ × α)} {s t : σ} {as : List α} (hs : I past s) (hrun : S.runFrom s as = some t)
    (hm : S.MeetsFrom ok s as) : I (past ++ S.stepsFrom s as) t := by
  induction as generalizing s past with
  | nil =>
    obtain rfl : s = t := by simpa using hrun
    simpa [stepsFrom] using hs
  | cons a as ih =>
    simp only [runFrom_cons, Option.bind_eq_some_iff] at hrun
    obtain ⟨u, hu, hrest⟩ := hrun
    have h := ih (hstep past s a u hs hm.1 hu) hrest (hm.2 u hu)
    simpa [stepsFrom, hu] using h

/-- What the steps that meet the condition preserve holds in every state a step is taken in. -/
theorem invariant_of_mem_stepsFrom {ok : σ → α → Prop} {I : σ → Prop}
    (hstep : ∀ s a s', I s → ok s a → S.next s a = some s' → I s') {s t : σ} {b : α} {as : List α}
    (hs : I s) (hm : S.MeetsFrom ok s as) (h : (t, b) ∈ S.stepsFrom s as) : I t := by
  induction as generalizing s with
  | nil => cases h
  | cons a as ih =>
    rcases List.mem_cons.mp h with h | h
    · cases h
      exact hs
    · cases hu : S.next s a with
      | none => simp [hu] at h
      | some u =>
        simp only [hu, Option.map_some, Option.getD_some] at h
        exact ih (hstep s a u hs hm.1 hu) (hm.2 u hu) h

/-- A step of a run is taken at the end of a part of it. -/
lemma exists_of_mem_stepsFrom {s t : σ} {b : α} {as : List α} (h : (t, b) ∈ S.stepsFrom s as) :
    ∃ as₁ as₂, as = as₁ ++ b :: as₂ ∧ S.runFrom s as₁ = some t := by
  induction as generalizing s with
  | nil => cases h
  | cons a as ih =>
    rcases List.mem_cons.mp h with h | h
    · cases h
      exact ⟨[], as, rfl, rfl⟩
    · cases hu : S.next s a with
      | none => simp [hu] at h
      | some u =>
        simp only [hu, Option.map_some, Option.getD_some] at h
        obtain ⟨as₁, as₂, rfl, hrun⟩ := ih h
        exact ⟨a :: as₁, as₂, rfl, by simpa [hu] using hrun⟩

/-- A condition on the steps of a run. -/
lemma meetsFrom_of_stepsFrom {ok : σ → α → Prop} {s : σ} {as : List α}
    (h : ∀ p ∈ S.stepsFrom s as, ok p.1 p.2) : S.MeetsFrom ok s as := by
  induction as generalizing s with
  | nil => trivial
  | cons a as ih =>
    refine ⟨h (s, a) (List.mem_cons_self ..), fun u hu => ih fun p hp => h p ?_⟩
    refine List.mem_cons_of_mem _ ?_
    simpa [hu] using hp

/-- The condition on a concatenation. -/
lemma meetsFrom_append {ok : σ → α → Prop} {s t : σ} {as bs : List α}
    (h : S.MeetsFrom ok s (as ++ bs)) (hrun : S.runFrom s as = some t) :
    S.MeetsFrom ok s as ∧ S.MeetsFrom ok t bs := by
  induction as generalizing s with
  | nil =>
    obtain rfl : s = t := by simpa using hrun
    exact ⟨trivial, h⟩
  | cons a as ih =>
    simp only [runFrom_cons, Option.bind_eq_some_iff] at hrun
    obtain ⟨u, hu, hrest⟩ := hrun
    obtain ⟨h₁, h₂⟩ := ih (h.2 u hu) hrest
    refine ⟨⟨h.1, fun s' hs' => ?_⟩, h₂⟩
    obtain rfl : u = s' := Option.some.inj (hu.symm.trans hs')
    exact h₁

/-- A condition on the actions alone. -/
lemma meetsFrom_of_mem {ok : α → Prop} {as : List α} (h : ∀ a ∈ as, ok a) (s : σ) :
    S.MeetsFrom (fun _ a => ok a) s as := by
  induction as generalizing s with
  | nil => trivial
  | cons a as ih =>
    obtain ⟨ha, has⟩ := List.forall_mem_cons.mp h
    exact ⟨ha, fun s' _ => ih has s'⟩

/-- A run that meets two conditions meets their conjunction. -/
lemma meetsFrom_and {ok ok' : σ → α → Prop} {s : σ} {as : List α} (h : S.MeetsFrom ok s as)
    (h' : S.MeetsFrom ok' s as) : S.MeetsFrom (fun s a => ok s a ∧ ok' s a) s as := by
  induction as generalizing s with
  | nil => trivial
  | cons a as ih => exact ⟨⟨h.1, h'.1⟩, fun s' hs' => ih (h.2 s' hs') (h'.2 s' hs')⟩

/-- Every run meets the trivial condition. -/
lemma meetsFrom_of_forall {ok : σ → α → Prop} (h : ∀ s a, ok s a) (s : σ) (as : List α) :
    S.MeetsFrom ok s as := by
  induction as generalizing s with
  | nil => trivial
  | cons a as ih => exact ⟨h s a, fun s' _ => ih s'⟩

/-- `invariant_of_meetsFrom` with the trivial condition. -/
theorem invariant_of_runFrom {I : σ → Prop} (hstep : ∀ s a s', I s → S.next s a = some s' → I s')
    {s t : σ} {as : List α} (hs : I s) (hrun : S.runFrom s as = some t) : I t := by
  have hm : S.MeetsFrom (fun _ _ => True) s as := meetsFrom_of_forall (fun _ _ => trivial) _ _
  exact invariant_of_meetsFrom (fun s a s' hs _ => hstep s a s' hs) hs hrun hm

/-- **Invariants of reachable states**: what holds initially and is preserved by every step
holds in every reachable state. -/
theorem Reachable.invariant {I : σ → Prop} {t : σ} (h : S.Reachable t) (hinit : I S.init)
    (hstep : ∀ s a s', I s → S.next s a = some s' → I s') : I t := by
  obtain ⟨as, hrun⟩ := h
  exact invariant_of_runFrom hstep hinit hrun

/-- A step from a reachable state leads to one. -/
lemma Reachable.next {s t : σ} {a : α} (h : S.Reachable s) (hstep : S.next s a = some t) :
    S.Reachable t := by
  obtain ⟨as, hrun⟩ := h
  refine ⟨as ++ [a], ?_⟩
  rw [run, runFrom_append, show S.runFrom S.init as = some s from hrun, Option.bind_some,
    runFrom_cons, hstep]
  rfl

/-- **Bounded runs**: when every step that meets the condition lowers a measure, runs that meet it
are at most as long as the measure says.

**Proof sketch.** Induction on the actions, generalizing the state they start from. -/
theorem length_le_of_lowers {ok : σ → α → Prop} {I : σ → Prop} {measure : σ → ℕ}
    (hstep : ∀ s a s', I s → ok s a → S.next s a = some s' → I s' ∧ measure s' < measure s)
    {s t : σ} {as : List α} (hs : I s) (hrun : S.runFrom s as = some t)
    (hm : S.MeetsFrom ok s as) : as.length + measure t ≤ measure s := by
  induction as generalizing s with
  | nil =>
    obtain rfl : s = t := by simpa using hrun
    simp
  | cons a as ih =>
    obtain ⟨s', hnext, hrest⟩ := Option.bind_eq_some_iff.mp hrun
    obtain ⟨hs', hlt⟩ := hstep s a s' hs hm.1 hnext
    have hle := ih hs' hrest (hm.2 s' hnext)
    rw [List.length_cons]
    omega

/-- **Progress**: when an action can be repeated, and each time lowers a measure, until a goal is
reached, then some number of repetitions reaches it.

**Proof sketch.** Strong induction on the measure. -/
theorem exists_runFrom_replicate {I goal : σ → Prop} {measure : σ → ℕ} {a : α}
    (hstep : ∀ s, I s → goal s ∨ ∃ s', S.next s a = some s' ∧ I s' ∧ measure s' < measure s) {s : σ}
    (hs : I s) : ∃ n t, S.runFrom s (List.replicate n a) = some t ∧ goal t := by
  induction hm : measure s using Nat.strong_induction_on generalizing s with
  | _ m ih =>
    rcases hstep s hs with hgoal | ⟨s', hnext, hs', hlt⟩
    · exact ⟨0, s, rfl, hgoal⟩
    · obtain ⟨n, t, hrun, hgoal⟩ := ih (measure s') (hm ▸ hlt) hs' rfl
      refine ⟨n + 1, t, ?_, hgoal⟩
      rw [List.replicate_succ]
      exact Option.bind_eq_some_iff.mpr ⟨s', hnext, hrun⟩

end System

end Automata
