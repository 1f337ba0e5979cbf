import Mathlib.Data.List.Infix

set_option relaxedAutoImplicit false
set_option autoImplicit false

/-!
# Traces of a retry loop

A retry loop asks a policy for a delay, waits, tries, and asks again when the attempt has failed,
until an attempt succeeds or the policy gives up. The policy is told how often it has been asked
before, so an attempt too many or a question counted twice shows in the trace of the loop.

## Main definitions

* `Automata.RetryQuestion`, `Automata.RetryEvent` — what a policy is asked, and what happens.
* `Automata.FailedTry`, `Automata.failedEvents` — failed attempts, and their trace.
* `Automata.RetryPosition`, `Automata.retryEvents` — how far a loop is, and its trace.
* `Automata.RetryEvent.delay?`, `Automata.RetryEvent.isTry` — waits and attempts of a trace.

## Main results

* `Automata.retryEvents_failed` — after a failed attempt the loop counts one attempt more.
* `Automata.failedEvents_table` — a policy that reads the delays from a table by the count gets
  through the table in order.
* `Automata.retryEvents_table` — so it makes no more attempts than the table has delays, and all of
  these when it gives up.
-/

namespace Automata

/-! ## Events -/

/-- What a policy is asked: the time since the start, how often it was asked before, and why. -/
structure RetryQuestion (τ ρ : Type*) where
  elapsed : τ
  count : ℕ
  reason : ρ
  deriving DecidableEq

/-- What happens in a retry loop. -/
inductive RetryEvent (τ ρ δ ν : Type*) where
  | asked (question : RetryQuestion τ ρ) (answer : Option δ)
  | waited (delay : δ)
  | tried
  | failed (reason : ρ)
  /-- Something is announced. -/
  | told (note : ν)
  deriving DecidableEq

/-- What is announced about a retry loop. -/
structure RetryNotes (ρ ν : Type*) where
  /-- When the first delay is known. -/
  starting : List ν
  /-- When an attempt has succeeded. -/
  succeeded : List ν
  /-- When the policy gives up. -/
  refused : ρ → List ν

/-- A failed attempt: when the policy was asked before it, its answer, and why it failed. -/
structure FailedTry (τ ρ δ : Type*) where
  elapsed : τ
  delay : δ
  reason : ρ

variable {τ ρ δ ν : Type*}

/-- The wait of an event. -/
def RetryEvent.delay? : RetryEvent τ ρ δ ν → Option δ
  | waited delay => some delay
  | _ => none

/-- The event is an attempt. -/
def RetryEvent.isTry : RetryEvent τ ρ δ ν → Bool
  | tried => true
  | _ => false

/-- A policy is asked and answers with a delay; the first time the notes about it are announced. -/
def opening (starting : List ν) (question : RetryQuestion τ ρ) (delay : δ) :
    List (RetryEvent τ ρ δ ν) :=
  .asked question (some delay) :: if question.count = 0 then starting.map .told else []

/-- The trace of a failed attempt. -/
def FailedTry.events (starting : List ν) (count : ℕ) (reason : ρ) (f : FailedTry τ ρ δ) :
    List (RetryEvent τ ρ δ ν) :=
  opening starting ⟨f.elapsed, count, reason⟩ f.delay ++ [.waited f.delay, .tried, .failed f.reason]

/-- The trace of failed attempts, the policy having been asked `count` times, and at last because of
`reason`. -/
def failedEvents (starting : List ν) : ℕ → ρ → List (FailedTry τ ρ δ) → List (RetryEvent τ ρ δ ν)
  | _, _, [] => []
  | count, reason, f :: failures =>
    f.events starting count reason ++ failedEvents starting (count + 1) f.reason failures

/-- Why the last attempt failed. -/
def lastReason (reason : ρ) (failures : List (FailedTry τ ρ δ)) : ρ :=
  failures.foldl (fun _ f => f.reason) reason

@[simp] lemma lastReason_nil (reason : ρ) :
    lastReason reason ([] : List (FailedTry τ ρ δ)) = reason := rfl

@[simp] lemma lastReason_cons (reason : ρ) (f : FailedTry τ ρ δ)
    (failures : List (FailedTry τ ρ δ)) :
    lastReason reason (f :: failures) = lastReason f.reason failures := rfl

@[simp] lemma lastReason_concat (reason : ρ) (failures : List (FailedTry τ ρ δ))
    (f : FailedTry τ ρ δ) : lastReason reason (failures ++ [f]) = f.reason := by
  simp [lastReason]

/-- One failed attempt more. -/
lemma failedEvents_concat (starting : List ν) (count : ℕ) (reason : ρ)
    (failures : List (FailedTry τ ρ δ)) (f : FailedTry τ ρ δ) :
    failedEvents starting count reason (failures ++ [f]) =
      failedEvents starting count reason failures ++
        f.events starting (count + failures.length) (lastReason reason failures) := by
  induction failures generalizing count reason with
  | nil => simp [failedEvents]
  | cons g failures ih =>
    have hcount : count + 1 + failures.length = count + (failures.length + 1) := by omega
    simp [failedEvents, ih, hcount]

/-! ## Positions -/

/-- How far a loop is after its failed attempts. -/
inductive RetryPosition where
  | asking
  /-- The first delay is known, and this many of the notes are announced. -/
  | starting (told : ℕ)
  | waiting
  | ready
  | trying
  /-- The attempt has succeeded, and this many of the notes are announced. -/
  | succeeded (told : ℕ)
  /-- The policy gives up, and this many of the notes are announced. -/
  | refused (told : ℕ)
  deriving DecidableEq

/-- What has happened since the last failed attempt. -/
def RetryPosition.events (notes : RetryNotes ρ ν) (question : RetryQuestion τ ρ) (delay : δ) :
    RetryPosition → List (RetryEvent τ ρ δ ν)
  | asking => []
  | starting n => .asked question (some delay) :: (notes.starting.take n).map .told
  | waiting => opening notes.starting question delay
  | ready => opening notes.starting question delay ++ [.waited delay]
  | trying => opening notes.starting question delay ++ [.waited delay, .tried]
  | succeeded n =>
    opening notes.starting question delay ++
      .waited delay :: .tried :: (notes.succeeded.take n).map .told
  | refused n => .asked question none :: ((notes.refused question.reason).take n).map .told

/-- The trace of a loop that was started because of `reason`. -/
def retryEvents (notes : RetryNotes ρ ν) (reason : ρ) (failures : List (FailedTry τ ρ δ))
    (elapsed : τ) (delay : δ) (position : RetryPosition) : List (RetryEvent τ ρ δ ν) :=
  failedEvents notes.starting 0 reason failures ++
    position.events notes ⟨elapsed, failures.length, lastReason reason failures⟩ delay

section Advance

variable {notes : RetryNotes ρ ν} {reason : ρ} {failures : List (FailedTry τ ρ δ)}
  {elapsed elapsed₀ : τ} {delay delay₀ : δ}

/-- The policy answers for the first time. -/
lemma retryEvents_first :
    retryEvents notes reason [] elapsed₀ delay₀ .asking ++
        [.asked ⟨elapsed, 0, reason⟩ (some delay)] =
      retryEvents notes reason [] elapsed delay (.starting 0) := rfl

/-- Everything about the start is announced. -/
lemma retryEvents_started {n : ℕ} (hn : notes.starting.length ≤ n) :
    retryEvents notes reason [] elapsed delay (.starting n) =
      retryEvents notes reason [] elapsed delay .waiting := by
  simp [retryEvents, RetryPosition.events, opening, List.take_of_length_le hn]

/-- The policy answers again. -/
lemma retryEvents_next (hf : failures ≠ []) :
    retryEvents notes reason failures elapsed₀ delay₀ .asking ++
        [.asked ⟨elapsed, failures.length, lastReason reason failures⟩ (some delay)] =
      retryEvents notes reason failures elapsed delay .waiting := by
  simp [retryEvents, RetryPosition.events, opening, hf]

/-- The delay is over. -/
lemma retryEvents_waited :
    retryEvents notes reason failures elapsed delay .waiting ++ [.waited delay] =
      retryEvents notes reason failures elapsed delay .ready := by
  simp [retryEvents, RetryPosition.events]

/-- An attempt is made. -/
lemma retryEvents_tried :
    retryEvents notes reason failures elapsed delay .ready ++ [.tried] =
      retryEvents notes reason failures elapsed delay .trying := by
  simp [retryEvents, RetryPosition.events]

/-- **A failed attempt**: the loop counts one more. -/
lemma retryEvents_failed (r : ρ) :
    retryEvents notes reason failures elapsed delay .trying ++ [.failed r] =
      retryEvents notes reason (failures ++ [⟨elapsed, delay, r⟩]) elapsed delay .asking := by
  simp [retryEvents, RetryPosition.events, failedEvents_concat, FailedTry.events]

/-- An attempt has succeeded. -/
lemma retryEvents_succeeded :
    retryEvents notes reason failures elapsed delay .trying =
      retryEvents notes reason failures elapsed delay (.succeeded 0) := by
  simp [retryEvents, RetryPosition.events]

/-- The policy gives up. -/
lemma retryEvents_refused :
    retryEvents notes reason failures elapsed₀ delay₀ .asking ++
        [.asked ⟨elapsed, failures.length, lastReason reason failures⟩ none] =
      retryEvents notes reason failures elapsed delay (.refused 0) := by
  simp [retryEvents, RetryPosition.events]

/-- The success is announced further. -/
lemma retryEvents_tell_succeeded {n : ℕ} {note : ν} (h : notes.succeeded[n]? = some note) :
    retryEvents notes reason failures elapsed delay (.succeeded n) ++ [.told note] =
      retryEvents notes reason failures elapsed delay (.succeeded (n + 1)) := by
  simp [retryEvents, RetryPosition.events, List.take_add_one, h]

/-- The end is announced further. -/
lemma retryEvents_tell_refused {n : ℕ} {note : ν}
    (h : (notes.refused (lastReason reason failures))[n]? = some note) :
    retryEvents notes reason failures elapsed delay (.refused n) ++ [.told note] =
      retryEvents notes reason failures elapsed delay (.refused (n + 1)) := by
  simp [retryEvents, RetryPosition.events, List.take_add_one, h]

end Advance

/-! ## Waits and attempts -/

/-- The waits of a trace. -/
def waits (events : List (RetryEvent τ ρ δ ν)) : List δ := events.filterMap RetryEvent.delay?

/-- How many attempts a trace has. -/
def tries (events : List (RetryEvent τ ρ δ ν)) : ℕ := events.countP RetryEvent.isTry

@[simp] lemma waits_append (l l' : List (RetryEvent τ ρ δ ν)) :
    waits (l ++ l') = waits l ++ waits l' := List.filterMap_append ..

@[simp] lemma tries_append (l l' : List (RetryEvent τ ρ δ ν)) :
    tries (l ++ l') = tries l + tries l' := List.countP_append ..

@[simp] lemma waits_told (told : List ν) :
    waits (told.map .told : List (RetryEvent τ ρ δ ν)) = [] := by
  simp [waits, RetryEvent.delay?, List.filterMap_eq_nil_iff]

@[simp] lemma tries_told (told : List ν) :
    tries (told.map .told : List (RetryEvent τ ρ δ ν)) = 0 := by
  simp [tries, RetryEvent.isTry, List.countP_eq_zero]

@[simp] lemma waits_asked (question : RetryQuestion τ ρ) (answer : Option δ)
    (l : List (RetryEvent τ ρ δ ν)) : waits (.asked question answer :: l) = waits l := rfl

@[simp] lemma tries_asked (question : RetryQuestion τ ρ) (answer : Option δ)
    (l : List (RetryEvent τ ρ δ ν)) : tries (.asked question answer :: l) = tries l := rfl

@[simp] lemma waits_waited (delay : δ) (l : List (RetryEvent τ ρ δ ν)) :
    waits (.waited delay :: l) = delay :: waits l := rfl

@[simp] lemma tries_waited (delay : δ) (l : List (RetryEvent τ ρ δ ν)) :
    tries (.waited delay :: l) = tries l := rfl

@[simp] lemma waits_tried (l : List (RetryEvent τ ρ δ ν)) : waits (.tried :: l) = waits l := rfl

@[simp] lemma tries_tried (l : List (RetryEvent τ ρ δ ν)) : tries (.tried :: l) = tries l + 1 :=
  List.countP_cons_of_pos rfl

@[simp] lemma waits_opening (starting : List ν) (question : RetryQuestion τ ρ) (delay : δ) :
    waits (opening starting question delay) = [] := by
  unfold opening
  split
  · rw [waits_asked, waits_told]
  · rfl

@[simp] lemma tries_opening (starting : List ν) (question : RetryQuestion τ ρ) (delay : δ) :
    tries (opening starting question delay) = 0 := by
  unfold opening
  split
  · rw [tries_asked, tries_told]
  · rfl

/-- The loop has waited before the current attempt. -/
def RetryPosition.hasWaited : RetryPosition → Bool
  | ready | trying | succeeded _ => true
  | _ => false

/-- The loop has made the current attempt. -/
def RetryPosition.hasTried : RetryPosition → Bool
  | trying | succeeded _ => true
  | _ => false

variable {notes : RetryNotes ρ ν} {starting : List ν}

/-- The waits of failed attempts. -/
@[simp] lemma waits_failedEvents (count : ℕ) (reason : ρ) (failures : List (FailedTry τ ρ δ)) :
    waits (failedEvents starting count reason failures) = failures.map FailedTry.delay := by
  induction failures generalizing count reason with
  | nil => rfl
  | cons f failures ih =>
    rw [failedEvents, waits_append, ih, FailedTry.events, waits_append, waits_opening]
    rfl

/-- The attempts of failed attempts. -/
@[simp] lemma tries_failedEvents (count : ℕ) (reason : ρ) (failures : List (FailedTry τ ρ δ)) :
    tries (failedEvents starting count reason failures) = failures.length := by
  induction failures generalizing count reason with
  | nil => rfl
  | cons f failures ih =>
    rw [failedEvents, tries_append, ih, FailedTry.events, tries_append, tries_opening,
      List.length_cons, Nat.zero_add, Nat.add_comm]
    rfl

/-- The waits of a trace: those of the failed attempts, and that of the current one. -/
lemma waits_retryEvents (reason : ρ) (failures : List (FailedTry τ ρ δ)) (elapsed : τ) (delay : δ)
    (position : RetryPosition) :
    waits (retryEvents notes reason failures elapsed delay position) =
      failures.map FailedTry.delay ++ if position.hasWaited then [delay] else [] := by
  rw [retryEvents, waits_append, waits_failedEvents]
  congr 1
  cases position with
  | asking => rfl
  | starting n | refused n => exact waits_told _
  | waiting => exact waits_opening ..
  | ready | trying =>
    rw [RetryPosition.events, waits_append, waits_opening]
    rfl
  | succeeded n =>
    rw [RetryPosition.events, waits_append, waits_opening]
    rw [waits_waited, waits_tried, waits_told]
    rfl

/-- The attempts of a trace: the failed ones, and the current one. -/
lemma tries_retryEvents (reason : ρ) (failures : List (FailedTry τ ρ δ)) (elapsed : τ) (delay : δ)
    (position : RetryPosition) :
    tries (retryEvents notes reason failures elapsed delay position) =
      failures.length + if position.hasTried then 1 else 0 := by
  rw [retryEvents, tries_append, tries_failedEvents]
  congr 1
  cases position with
  | asking => rfl
  | starting n | refused n => exact tries_told _
  | waiting => exact tries_opening ..
  | ready | trying =>
    rw [RetryPosition.events, tries_append, tries_opening]
    rfl
  | succeeded n =>
    rw [RetryPosition.events, tries_append, tries_opening]
    rw [tries_waited, tries_tried, tries_told]
    rfl

/-- While attempts fail, the policy has answered with a delay each time. -/
lemma not_refused_of_mem_failedEvents {count : ℕ} {reason : ρ} {failures : List (FailedTry τ ρ δ)}
    {question : RetryQuestion τ ρ} :
    .asked question none ∉ failedEvents starting count reason failures := by
  induction failures generalizing count reason with
  | nil => simp [failedEvents]
  | cons f failures ih =>
    simp only [failedEvents, FailedTry.events, opening, List.mem_append, ih, or_false]
    split <;> simp

/-- A policy that does not answer gives up. -/
lemma refused_of_mem {reason : ρ} {failures : List (FailedTry τ ρ δ)} {elapsed : τ} {delay : δ}
    {position : RetryPosition} {question : RetryQuestion τ ρ}
    (h : .asked question none ∈ retryEvents notes reason failures elapsed delay position) :
    ∃ n, position = .refused n := by
  rcases List.mem_append.mp h with h | h
  · exact absurd h not_refused_of_mem_failedEvents
  · have hopening : ∀ question' : RetryQuestion τ ρ,
        .asked question none ∉ opening notes.starting question' delay := by
      intro question'
      unfold opening
      split <;> simp
    have htold : ∀ told : List ν,
        .asked question none ∉ (told.map .told : List (RetryEvent τ ρ δ ν)) := by
      simp
    cases position with
    | refused n => exact ⟨n, rfl⟩
    | _ => simp [RetryPosition.events, hopening, htold, -List.map_take] at h

/-! ## Policies that are tables -/

/-- All questions of a trace are answered from a table, by how often the policy was asked. -/
def AnsweredBy (table : List δ) (events : List (RetryEvent τ ρ δ ν)) : Prop :=
  ∀ question answer, .asked question answer ∈ events → answer = table[question.count]?

/-- **A policy that is a table** answers failed attempts with the delays of the table in order. -/
lemma failedEvents_table {table : List δ} {count : ℕ} {reason : ρ}
    {failures : List (FailedTry τ ρ δ)}
    (h : AnsweredBy table (failedEvents starting count reason failures)) :
    failures.map FailedTry.delay = (table.drop count).take failures.length := by
  induction failures generalizing count reason with
  | nil => rfl
  | cons f failures ih =>
    have hf : some f.delay = table[count]? := by
      refine h ⟨f.elapsed, count, reason⟩ _ ?_
      simp [failedEvents, FailedTry.events, opening]
    have hrest : AnsweredBy table (failedEvents starting (count + 1) f.reason failures) :=
      fun question answer hq => h question answer (List.mem_append_right _ hq)
    obtain ⟨hlt, hget⟩ := List.getElem?_eq_some_iff.mp hf.symm
    rw [List.drop_eq_getElem_cons hlt, List.map_cons, List.length_cons, List.take_succ_cons,
      ih hrest, hget]

section Table

variable {table : List δ} {reason : ρ} {failures : List (FailedTry τ ρ δ)} {elapsed : τ} {delay : δ}
  {position : RetryPosition}

/-- The delays of the failed attempts are the first of the table. -/
lemma AnsweredBy.delays_failed
    (h : AnsweredBy table (retryEvents notes reason failures elapsed delay position)) :
    failures.map FailedTry.delay = table.take failures.length :=
  failedEvents_table fun question answer hq => h question answer (List.mem_append_left _ hq)

/-- The answer after the failed attempts. -/
lemma AnsweredBy.current {answer : Option δ}
    (h : AnsweredBy table (retryEvents notes reason failures elapsed delay position))
    (hp : .asked ⟨elapsed, failures.length, lastReason reason failures⟩ answer ∈
      position.events notes ⟨elapsed, failures.length, lastReason reason failures⟩ delay) :
    answer = table[failures.length]? :=
  h _ _ (List.mem_append_right _ hp)

/-- **The delays of a table are waited for in order**, and there is no attempt without its wait. -/
theorem retryEvents_table
    (h : AnsweredBy table (retryEvents notes reason failures elapsed delay position)) :
    waits (retryEvents notes reason failures elapsed delay position) <+: table ∧
      tries (retryEvents notes reason failures elapsed delay position) ≤
        (waits (retryEvents notes reason failures elapsed delay position)).length := by
  rw [waits_retryEvents, tries_retryEvents, h.delays_failed]
  have hlen : (table.take failures.length).length = failures.length := by
    rw [← h.delays_failed, List.length_map]
  cases hw : position.hasWaited with
  | false =>
    have ht : position.hasTried = false := by
      cases position <;> first | rfl | cases hw
    simp only [ht, Bool.false_eq_true, if_false, List.append_nil, hlen, Nat.add_zero, le_refl,
      and_true]
    exact List.take_prefix _ _
  | true =>
    have hd : some delay = table[failures.length]? := by
      refine h.current ?_
      cases position with
      | ready | trying | succeeded => exact List.mem_append_left _ (List.mem_cons_self ..)
      | _ => cases hw
    obtain ⟨hlt, hget⟩ := List.getElem?_eq_some_iff.mp hd.symm
    have htake : table.take failures.length ++ [delay] = table.take (failures.length + 1) := by
      rw [List.take_succ_eq_append_getElem hlt, hget]
    refine ⟨?_, ?_⟩
    · rw [if_pos rfl, htake]
      exact List.take_prefix _ _
    · rw [if_pos rfl, List.length_append, hlen, List.length_singleton]
      split <;> omega

/-- **The policy gives up at the end of the table**: all its delays have been waited for, each
before an attempt. -/
theorem retryEvents_table_refused {n : ℕ}
    (h : AnsweredBy table (retryEvents notes reason failures elapsed delay (.refused n))) :
    waits (retryEvents notes reason failures elapsed delay (.refused n)) = table ∧
      tries (retryEvents notes reason failures elapsed delay (.refused n)) = table.length := by
  have hend : table.length ≤ failures.length := by
    refine List.getElem?_eq_none_iff.mp (h.current ?_).symm
    exact List.mem_cons_self ..
  have hall : failures.map FailedTry.delay = table := by
    rw [h.delays_failed, List.take_of_length_le hend]
  have hlen : failures.length = table.length := by
    rw [← hall, List.length_map]
  rw [waits_retryEvents, tries_retryEvents]
  exact ⟨(List.append_nil _).trans hall, hlen⟩

end Table

end Automata
