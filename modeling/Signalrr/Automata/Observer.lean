import Signalrr.Automata.System

set_option relaxedAutoImplicit false
set_option autoImplicit false

/-!
# Observers of runs

What is claimed of a run often speaks about more than its last state: what was delivered so far, how
often something happened, when it happened last. An observer notes this down step by step. It sees
the action and the state it is taken in, and it does not take part in the run.

## Main definitions

* `Automata.System.observe` — the notes of an observer after some steps.

## Main results

* `Automata.System.observe_of_meets` — the induction rule for what holds of the notes and the state.
* `Automata.System.observe_of_run` — the same for runs without a condition.
* `Automata.System.map_snd_stepsFrom` — the actions of the steps of a run are those it is made of.
-/

namespace Automata

namespace System

variable {σ α τ : Type*} {S : System σ α}

/-- The notes of an observer after some steps, from the notes `r`. -/
def observe (note : τ → σ → α → τ) (r : τ) (steps : List (σ × α)) : τ :=
  steps.foldl (fun r step => note r step.1 step.2) r

@[simp] lemma observe_nil (note : τ → σ → α → τ) (r : τ) : observe note r [] = r := rfl

@[simp] lemma observe_concat (note : τ → σ → α → τ) (r : τ) (steps : List (σ × α))
    (step : σ × α) :
    observe note r (steps ++ [step]) = note (observe note r steps) step.1 step.2 := by
  simp [observe]

/-- **Invariants of notes and state**: what holds initially and is preserved when a step that meets
the condition is taken and noted down holds at the end of every run that meets it.

**Proof sketch.** The invariant with a history, where the history is read through the observer. -/
theorem observe_of_meets {ok : σ → α → Prop} {note : τ → σ → α → τ} {I : τ → σ → Prop}
    (hstep : ∀ r s a s', I r s → ok s a → S.next s a = some s' → I (note r s a) s') {r : τ}
    {s t : σ} {as : List α} (hs : I r s) (hrun : S.runFrom s as = some t)
    (hm : S.MeetsFrom ok s as) : I (observe note r (S.stepsFrom s as)) t := by
  have hpast : I (observe note r []) s := hs
  have h := history_of_meetsFrom (I := fun past s => I (observe note r past) s)
    (fun past s a s' hI hok hnext => by
      rw [observe_concat]
      exact hstep _ s a s' hI hok hnext) hpast hrun hm
  simpa using h

/-- `observe_of_meets` for runs without a condition. -/
theorem observe_of_run {note : τ → σ → α → τ} {I : τ → σ → Prop}
    (hstep : ∀ r s a s', I r s → S.next s a = some s' → I (note r s a) s') {r : τ} {s t : σ}
    {as : List α} (hs : I r s) (hrun : S.runFrom s as = some t) :
    I (observe note r (S.stepsFrom s as)) t := by
  have hm : S.MeetsFrom (fun _ _ => True) s as := meetsFrom_of_forall (fun _ _ => trivial) _ _
  exact observe_of_meets (fun r s a s' hI _ => hstep r s a s' hI) hs hrun hm

/-- The actions of the steps of a run are those it is made of. -/
lemma map_snd_stepsFrom {s t : σ} {as : List α} (hrun : S.runFrom s as = some t) :
    (S.stepsFrom s as).map Prod.snd = as := by
  induction as generalizing s with
  | nil => rfl
  | cons a as ih =>
    simp only [runFrom_cons, Option.bind_eq_some_iff] at hrun
    obtain ⟨u, hu, hrest⟩ := hrun
    simp only [stepsFrom, hu, Option.map_some, Option.getD_some, List.map_cons, ih hrest]

end System

end Automata
