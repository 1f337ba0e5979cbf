import Signalrr.Automata.System

set_option relaxedAutoImplicit false
set_option autoImplicit false

/-!
# Loops that wait for inputs

A loop waits for one of several sources, handles what it has got, and waits again. It does not spin
when every passage uses an input up: then there are at most as many passages as inputs, and one
more.

A stop signal is a watched value: its owner changes it, and may be gone. Waiting for a change of it
ends at once when the owner is gone, and uses nothing up.

## Main definitions

* `Automata.Watch`, `Automata.WatchInput` — a watched value, and what its owner does.
* `Automata.InputLoop` — a system with inputs, passages of a loop, and inputs that are not used yet.
* `Automata.InputLoop.NeverSpins` — the passages use inputs up, and are finitely many.
* `Automata.StopLoop` — a loop with a stop signal.
* `Automata.StopsFirst` — the owner does not go before its last change is to stop.

## Main results

* `Automata.InputLoop.passages_add_unused_le` — the account of inputs and passages.
* `Automata.InputLoop.exists_run_of_cycle` — a cycle without inputs is passed any number of times.
* `Automata.StopLoop.Lawful.neverSpins_iff` — a loop with a stop signal spins for exactly those
  inputs that do not stop it before the owner is gone.

## Design

Inputs and steps of the loop come in any order. A sequence of inputs stands for all runs that have
got a first part of it so far, so that inputs that cannot come are not in the way.
-/

namespace Automata

/-! ## Watched values -/

/-- A value that is changed by its owner and watched by a loop. -/
structure Watch (α : Type*) where
  value : α
  /-- How often the value has been changed. -/
  version : ℕ
  /-- The version the loop has seen. -/
  seen : ℕ
  /-- The owner is gone. -/
  dropped : Bool

/-- What the owner does. -/
inductive WatchInput (α : Type*) where
  | change (a : α)
  | dropped

/-- The change the owner makes, if it makes one. -/
def WatchInput.change? {α : Type*} : WatchInput α → Option α
  | change a => some a
  | dropped => none

/-- The last change. -/
def lastChange {α : Type*} (past : List (WatchInput α)) : Option α :=
  (past.filterMap WatchInput.change?).getLast?

/-- The owner goes only when its last change has been to stop. -/
def StopsFirst (is : List (WatchInput Bool)) : Prop :=
  ∀ before, before ++ [.dropped] <+: is → .dropped ∉ before → lastChange before = some true

namespace Watch

variable {α : Type*}

/-- The owner does something, which it cannot when it is gone. -/
def receive (w : Watch α) : WatchInput α → Option (Watch α)
  | .change a => if w.dropped then none else some { w with value := a, version := w.version + 1 }
  | .dropped => if w.dropped then none else some { w with dropped := true }

/-- The loop has seen the last change. -/
def see (w : Watch α) : Watch α := { w with seen := w.version }

/-- Waiting for a change: there is one, or the owner is gone. -/
def changed (w : Watch α) : Option (Bool × Watch α) :=
  if w.seen ≠ w.version then some (true, w.see)
  else if w.dropped then some (false, w)
  else none

/-- Changes that have not been seen are seen at once. -/
def unread (w : Watch α) : ℕ := if w.seen = w.version then 0 else 1

@[simp] lemma see_value (w : Watch α) : w.see.value = w.value := rfl

@[simp] lemma unread_see (w : Watch α) : w.see.unread = 0 := if_pos rfl

lemma unread_le (w : Watch α) : w.unread ≤ 1 := by
  rw [unread]
  split <;> decide

/-- The owner goes, or makes a change, while it is there. -/
lemma receive_cases {w w' : Watch α} {i : WatchInput α} (h : w.receive i = some w') :
    w.dropped = false ∧
      ((∃ a, i = .change a ∧ w' = { w with value := a, version := w.version + 1 }) ∨
        i = .dropped ∧ w' = { w with dropped := true }) := by
  cases hdropped : w.dropped with
  | true => cases i <;> simp [receive, hdropped] at h
  | false =>
    refine ⟨rfl, ?_⟩
    cases i with
    | change a =>
      simp only [receive, hdropped] at h
      exact .inl ⟨a, rfl, (Option.some.inj h).symm⟩
    | dropped =>
      simp only [receive, hdropped] at h
      exact .inr ⟨rfl, (Option.some.inj h).symm⟩

/-- An owner that is there does what it likes. -/
lemma exists_receive {w : Watch α} (h : w.dropped = false) (i : WatchInput α) :
    ∃ w', w.receive i = some w' := by
  cases i <;> simp [receive, h]

/-- Waiting ends because of a change that was not seen, or because the owner is gone. -/
lemma changed_cases {w w' : Watch α} {ok : Bool} (h : w.changed = some (ok, w')) :
    (w.seen ≠ w.version ∧ ok = true ∧ w' = w.see) ∨
      (w.seen = w.version ∧ w.dropped = true ∧ ok = false ∧ w' = w) := by
  rw [changed] at h
  split at h
  · rename_i hseen
    cases h
    exact .inl ⟨hseen, rfl, rfl⟩
  · rename_i hseen
    split at h
    · rename_i hdropped
      cases h
      exact .inr ⟨not_not.mp hseen, hdropped, rfl, rfl⟩
    · cases h

end Watch

section LastChange

variable {α : Type*} {past : List (WatchInput α)}

@[simp] lemma lastChange_nil : lastChange ([] : List (WatchInput α)) = none := rfl

@[simp] lemma lastChange_concat_change (a : α) : lastChange (past ++ [.change a]) = some a := by
  simp [lastChange, WatchInput.change?]

@[simp] lemma lastChange_concat_dropped : lastChange (past ++ [.dropped]) = lastChange past := by
  simp [lastChange, WatchInput.change?]

end LastChange

/-! ## Loops -/

/-- A system with a loop: what an action supplies, which steps are passages of the loop, whether the
loop is left, and how many inputs are not used yet. -/
structure InputLoop (σ α ι : Type*) where
  system : System σ α
  input : α → Option ι
  passes : σ → α → Bool
  left : σ → Bool
  unused : σ → ℕ

namespace InputLoop

variable {σ α ι : Type*} (L : InputLoop σ α ι)

/-- The inputs that a run supplies. -/
def inputs (as : List α) : List ι := as.filterMap L.input

/-- How often a run passes the loop. -/
def passages (s : σ) (as : List α) : ℕ :=
  (L.system.stepsFrom s as).countP fun p => L.passes p.1 p.2

/-- The loop does not spin while it gets the inputs: a passage leaves the loop or uses an input up,
and there are finitely many of them. -/
structure NeverSpins (is : List ι) : Prop where
  uses : ∀ {as : List α} {s s' : σ} {a : α}, L.system.run as = some s →
    L.inputs (as ++ [a]) <+: is → L.system.next s a = some s' → L.passes s a = true →
      L.left s' = true ∨ L.unused s' < L.unused s
  finite : ∃ n, ∀ {as : List α} {s : σ}, L.system.run as = some s → L.inputs as <+: is →
    L.passages L.system.init as ≤ n

/-- An input adds one to those that are not used yet, and the loop is not passed any more when it is
left. -/
structure Accounts : Prop where
  supply : ∀ {s s' : σ} {a : α}, L.system.next s a = some s' →
    L.unused s' ≤ L.unused s + (L.input a).toList.length
  passes : ∀ {s : σ} {a : α}, L.passes s a = true → L.input a = none ∧ L.left s = false
  leaves : ∀ {s s' : σ} {a : α}, L.system.next s a = some s' → L.left s = true → L.left s' = true

variable {L}

lemma inputs_concat (as : List α) (a : α) :
    L.inputs (as ++ [a]) = L.inputs as ++ (L.input a).toList := by
  rw [inputs, List.filterMap_append]
  cases h : L.input a <;> simp [inputs, h]

/-- A run and the step after it. -/
lemma run_concat {as : List α} {a : α} {t : σ} :
    L.system.run (as ++ [a]) = some t ↔
      ∃ s, L.system.run as = some s ∧ L.system.next s a = some t := by
  simp [System.run, System.runFrom_append, Option.bind_eq_some_iff]

/-- The passages of a run and those behind it. -/
lemma passages_append {s t : σ} {as : List α} (h : L.system.runFrom s as = some t)
    (bs : List α) : L.passages s (as ++ bs) = L.passages s as + L.passages t bs := by
  induction as generalizing s with
  | nil =>
    obtain rfl : s = t := by simpa using h
    simp [passages, System.stepsFrom]
  | cons a as ih =>
    simp only [System.runFrom_cons, Option.bind_eq_some_iff] at h
    obtain ⟨u, hu, hrest⟩ := h
    have hcount := ih hrest
    simp only [passages] at hcount
    simp only [passages, List.cons_append, System.stepsFrom, hu, Option.map_some, Option.getD_some,
      List.countP_cons, hcount]
    omega

/-- The passages of a single step. -/
lemma passages_singleton (s : σ) (a : α) : L.passages s [a] = (L.passes s a).toNat := by
  have hsteps : L.system.stepsFrom s [a] = [(s, a)] := by
    cases h : L.system.next s a <;> simp [System.stepsFrom, h]
  rw [passages, hsteps]
  cases h : L.passes s a <;> simp [h]

/-- **The account of a run**: its passages and the inputs that are not used yet are at most the
inputs, and one more when the loop is left.

**Proof sketch.** Induction on the run from its end. -/
theorem passages_add_unused_le (hacc : L.Accounts) {is : List ι}
    (huses : ∀ {as : List α} {s s' : σ} {a : α}, L.system.run as = some s →
      L.inputs (as ++ [a]) <+: is → L.system.next s a = some s' → L.passes s a = true →
        L.left s' = true ∨ L.unused s' < L.unused s)
    {as : List α} {s : σ} (hrun : L.system.run as = some s) (his : L.inputs as <+: is) :
    L.passages L.system.init as + L.unused s ≤
      L.unused L.system.init + (L.inputs as).length + (L.left s).toNat := by
  induction as using List.reverseRecOn generalizing s with
  | nil =>
    obtain rfl : L.system.init = s := by simpa [System.run] using hrun
    have hnone : L.passages L.system.init [] = 0 := rfl
    omega
  | append_singleton as a ih =>
    obtain ⟨u, hu, hnext⟩ := run_concat.mp hrun
    have hpast' : L.inputs as <+: is := by
      rw [inputs_concat] at his
      exact (List.prefix_append _ _).trans his
    have hbefore := ih hu hpast'
    have hsupply := hacc.supply hnext
    have hleaves : (L.left u).toNat ≤ (L.left s).toNat := by
      cases hleft : L.left u with
      | false => exact Nat.zero_le _
      | true => rw [hacc.leaves hnext hleft]
    rw [passages_append hu, passages_singleton, inputs_concat, List.length_append]
    cases hpass : L.passes u a with
    | false =>
      rw [Bool.toNat_false]
      omega
    | true =>
      obtain ⟨hinput, hleft⟩ := hacc.passes hpass
      simp only [hinput, Option.toList_none, List.length_nil, Nat.add_zero] at hsupply ⊢
      rw [hleft] at hbefore
      rcases huses hu his hnext hpass with hleft' | hlt
      · rw [hleft', Bool.toNat_true]
        simp only [Bool.toNat_false] at hbefore
        omega
      · simp only [Bool.toNat_false, Bool.toNat_true] at hbefore ⊢
        omega

/-- When the passages use inputs up, they are finitely many. -/
theorem neverSpins_of_uses (hacc : L.Accounts) {is : List ι}
    (huses : ∀ {as : List α} {s s' : σ} {a : α}, L.system.run as = some s →
      L.inputs (as ++ [a]) <+: is → L.system.next s a = some s' → L.passes s a = true →
        L.left s' = true ∨ L.unused s' < L.unused s) : L.NeverSpins is := by
  refine ⟨huses, L.unused L.system.init + is.length + 1, fun {as s} hrun his => ?_⟩
  have haccount := passages_add_unused_le hacc huses hrun his
  have hlength := his.length_le
  have hleft := Bool.toNat_le (L.left s)
  omega

/-- **Spinning**: a cycle that passes the loop without inputs is run any number of times. -/
theorem exists_run_of_cycle {as cycle : List α} {s : σ} (hrun : L.system.run as = some s)
    (hcycle : L.system.runFrom s cycle = some s) (hinputs : L.inputs cycle = [])
    (hpass : 0 < L.passages s cycle) (n : ℕ) :
    ∃ bs, L.system.run bs = some s ∧ L.inputs bs = L.inputs as ∧
      n ≤ L.passages L.system.init bs := by
  induction n with
  | zero => exact ⟨as, hrun, rfl, Nat.zero_le _⟩
  | succ n ih =>
    obtain ⟨bs, hbs, hinputs', hle⟩ := ih
    refine ⟨bs ++ cycle, ?_, ?_, ?_⟩
    · rw [System.run, System.runFrom_append]
      rw [System.run] at hbs
      rw [hbs, Option.bind_some, hcycle]
    · rw [inputs, List.filterMap_append]
      rw [inputs] at hinputs hinputs'
      rw [hinputs, hinputs', List.append_nil, inputs]
    · rw [passages_append hbs]
      omega

end InputLoop

/-! ## Loops with a stop signal -/

/-- A loop with a stop signal: the signal, what an input does to it, and where the loop has only
just begun. -/
structure StopLoop (σ α ι : Type*) extends InputLoop σ α ι where
  signal : σ → Watch Bool
  signalInput : ι → Option (WatchInput Bool)
  fresh : σ → Prop

namespace StopLoop

variable {σ α ι : Type*}

/-- What the owner does among other inputs. -/
def signals (L : StopLoop σ α ι) (is : List ι) : List (WatchInput Bool) :=
  is.filterMap L.signalInput

/-- The signal is changed by its inputs, and seen by a step, which leaves the loop when it is to
stop. A passage that does not leave the loop uses an input up, or has found that the owner is
gone. -/
structure Lawful (L : StopLoop σ α ι) : Prop extends L.Accounts where
  init_seen : (L.signal L.system.init).seen = (L.signal L.system.init).version
  init_dropped : (L.signal L.system.init).dropped = false
  init_fresh : L.fresh L.system.init
  input : ∀ {s s' : σ} {a : α} {i : ι}, L.system.next s a = some s' → L.input a = some i →
    match L.signalInput i with
    | some j => (L.signal s).receive j = some (L.signal s')
    | none => L.signal s' = L.signal s
  step : ∀ {s s' : σ} {a : α}, L.system.next s a = some s' → L.input a = none →
    L.signal s' = L.signal s ∨ (L.signal s).seen ≠ (L.signal s).version ∧
      L.signal s' = (L.signal s).see ∧ ((L.signal s).value = true → L.left s' = true)
  passage : ∀ {s s' : σ} {a : α}, L.system.next s a = some s' → L.passes s a = true →
    L.left s' = true ∨ L.unused s' < L.unused s ∨
      (L.signal s).dropped = true ∧ (L.signal s).seen = (L.signal s).version
  /-- A loop that has only just begun gets all inputs. -/
  supplied : ∀ {s : σ} (i : ι), L.fresh s →
    (∀ j, L.signalInput i = some j → (L.signal s).dropped = false) →
      ∃ a s', L.input a = some i ∧ L.system.next s a = some s' ∧ L.fresh s'
  /-- Without an owner and a change to stop, it comes to a cycle. -/
  cycles : ∀ {s : σ}, L.fresh s → (L.signal s).dropped = true →
    (L.signal s).value = false ∨ (L.signal s).seen = (L.signal s).version ∧
      (L.signal s).value = (L.signal L.system.init).value →
    ∃ as t cycle, L.system.runFrom s as = some t ∧ L.inputs as = [] ∧
      L.system.runFrom t cycle = some t ∧ L.inputs cycle = [] ∧ 0 < L.passages t cycle

/-- What is known about the signal after what the owner has done. -/
structure Tracks (L : StopLoop σ α ι) (past : List (WatchInput Bool)) (s : σ) : Prop where
  seen_le : (L.signal s).seen ≤ (L.signal s).version
  dropped : (L.signal s).dropped = true ↔ .dropped ∈ past
  last : .dropped ∈ past → ∃ before, past = before ++ [.dropped] ∧ .dropped ∉ before
  value : ∀ {b : Bool}, lastChange past = some b → (L.signal s).value = b
  /-- A change to stop has not been seen, or the loop is left. -/
  alert : lastChange past = some true →
    L.left s = true ∨ (L.signal s).seen ≠ (L.signal s).version
  quiet : lastChange past = none → (L.signal s).seen = (L.signal s).version ∧
    (L.signal s).value = (L.signal L.system.init).value

variable {L : StopLoop σ α ι}

lemma signals_inputs_concat (as : List α) (a : α) :
    L.signals (L.inputs (as ++ [a])) =
      L.signals (L.inputs as) ++ ((L.input a).bind L.signalInput).toList := by
  rw [InputLoop.inputs_concat, signals, List.filterMap_append, signals]
  cases h : L.input a with
  | none => simp
  | some i => cases h' : L.signalInput i <;> simp [h']

/-- What is known after a change. -/
lemma Tracks.change {past : List (WatchInput Bool)} {s s' : σ} (h : L.Tracks past s) {b : Bool}
    (hthere : .dropped ∉ past)
    (hsignal : L.signal s' =
      { L.signal s with value := b, version := (L.signal s).version + 1 }) :
    L.Tracks (past ++ [.change b]) s' where
  seen_le := by
    rw [hsignal]
    exact Nat.le_succ_of_le h.seen_le
  dropped := by
    rw [hsignal]
    simp [h.dropped]
  last hmem := by simp [hthere] at hmem
  value hc := by
    rw [lastChange_concat_change] at hc
    rw [hsignal]
    exact Option.some.inj hc
  alert _ := by
    rw [hsignal]
    exact .inr (Nat.ne_of_lt (Nat.lt_succ_of_le h.seen_le))
  quiet hnone := by simp at hnone

/-- What is known when the owner is gone. -/
lemma Tracks.drop {past : List (WatchInput Bool)} {s s' : σ} (h : L.Tracks past s)
    (hthere : .dropped ∉ past) (hsignal : L.signal s' = { L.signal s with dropped := true })
    (hleft : L.left s = true → L.left s' = true) : L.Tracks (past ++ [.dropped]) s' where
  seen_le := by
    rw [hsignal]
    exact h.seen_le
  dropped := by
    rw [hsignal]
    simp
  last _ := ⟨past, rfl, hthere⟩
  value hc := by
    rw [lastChange_concat_dropped] at hc
    rw [hsignal]
    exact h.value hc
  alert hc := by
    rw [lastChange_concat_dropped] at hc
    rw [hsignal]
    exact (h.alert hc).imp_left hleft
  quiet hnone := by
    rw [lastChange_concat_dropped] at hnone
    rw [hsignal]
    exact h.quiet hnone

/-- What is known after the owner has done something. -/
lemma Tracks.receive {past : List (WatchInput Bool)} {s s' : σ} {j : WatchInput Bool}
    (h : L.Tracks past s) (hj : (L.signal s).receive j = some (L.signal s'))
    (hleft : L.left s = true → L.left s' = true) : L.Tracks (past ++ [j]) s' := by
  obtain ⟨hdropped, hcases⟩ := Watch.receive_cases hj
  have hthere : .dropped ∉ past := by
    rw [← h.dropped, hdropped]
    decide
  rcases hcases with ⟨b, rfl, hsignal⟩ | ⟨rfl, hsignal⟩
  · exact h.change hthere hsignal
  · exact h.drop hthere hsignal hleft

/-- What is known after a step that sees the signal. -/
lemma Tracks.see {past : List (WatchInput Bool)} {s s' : σ} (h : L.Tracks past s)
    (hseen : (L.signal s).seen ≠ (L.signal s).version)
    (hsignal : L.signal s' = (L.signal s).see)
    (hstop : (L.signal s).value = true → L.left s' = true) : L.Tracks past s' where
  seen_le := by
    rw [hsignal]
    exact le_rfl
  dropped := by
    rw [hsignal]
    exact h.dropped
  last := h.last
  value hc := by
    rw [hsignal]
    exact h.value hc
  alert hc := .inl (hstop (h.value hc))
  -- without a change there is nothing that has not been seen
  quiet hnone := absurd (h.quiet hnone).1 hseen

/-- What is known after a step that leaves the signal alone. -/
lemma Tracks.of_signal_eq {past : List (WatchInput Bool)} {s s' : σ} (h : L.Tracks past s)
    (hsignal : L.signal s' = L.signal s) (hleft : L.left s = true → L.left s' = true) :
    L.Tracks past s' where
  seen_le := hsignal ▸ h.seen_le
  dropped := hsignal ▸ h.dropped
  last := h.last
  value hc := hsignal ▸ h.value hc
  alert hc := hsignal ▸ (h.alert hc).imp_left hleft
  quiet hnone := hsignal ▸ h.quiet hnone

/-- What is known after a step of the loop. -/
lemma Tracks.step {past : List (WatchInput Bool)} {s s' : σ} (h : L.Tracks past s)
    (hstep : L.signal s' = L.signal s ∨ (L.signal s).seen ≠ (L.signal s).version ∧
      L.signal s' = (L.signal s).see ∧ ((L.signal s).value = true → L.left s' = true))
    (hleft : L.left s = true → L.left s' = true) : L.Tracks past s' := by
  rcases hstep with hsignal | ⟨hseen, hsignal, hstop⟩
  · exact h.of_signal_eq hsignal hleft
  · exact h.see hseen hsignal hstop

namespace Lawful

/-- What is known after a run. -/
lemma tracks (h : L.Lawful) {as : List α} {s : σ} (hrun : L.system.run as = some s) :
    L.Tracks (L.signals (L.inputs as)) s := by
  induction as using List.reverseRecOn generalizing s with
  | nil =>
    obtain rfl : L.system.init = s := by simpa [System.run] using hrun
    refine ⟨h.init_seen.le, ?_, ?_, ?_, ?_, ?_⟩
    · simp [h.init_dropped, signals, InputLoop.inputs]
    · simp [signals, InputLoop.inputs]
    · simp [signals, InputLoop.inputs]
    · simp [signals, InputLoop.inputs]
    · exact fun _ => ⟨h.init_seen, rfl⟩
  | append_singleton as a ih =>
    obtain ⟨u, hu, hnext⟩ := InputLoop.run_concat.mp hrun
    have htracks := ih hu
    have hleft := h.leaves hnext
    rw [signals_inputs_concat]
    cases ha : L.input a with
    | none =>
      simp only [Option.bind_none, Option.toList_none, List.append_nil]
      exact htracks.step (h.step hnext ha) hleft
    | some i =>
      have hinput := h.input hnext ha
      cases hi : L.signalInput i with
      | none =>
        simp only [hi] at hinput
        simp only [Option.bind_some, hi, Option.toList_none, List.append_nil]
        exact htracks.of_signal_eq hinput hleft
      | some j =>
        simp only [hi] at hinput
        simp only [Option.bind_some, hi, Option.toList_some]
        exact htracks.receive hinput hleft

/-- A loop that is stopped first does not spin.

**Proof sketch.** A passage that uses nothing up has found that the owner is gone, and has seen the
last change. This was to stop, and the loop is left when it is seen. -/
lemma neverSpins_of_stopsFirst (h : L.Lawful) {is : List ι} (hstops : StopsFirst (L.signals is)) :
    L.NeverSpins is := by
  refine InputLoop.neverSpins_of_uses h.toAccounts fun {as s s' a} hrun his hnext hpass => ?_
  rcases h.passage hnext hpass with hleft | hlt | ⟨hdropped, hseen⟩
  · exact .inl hleft
  · exact .inr hlt
  · exfalso
    have htracks := h.tracks hrun
    obtain ⟨before, hpast, hbefore⟩ := htracks.last (htracks.dropped.mp hdropped)
    have hinputs : L.inputs as <+: is := by
      rw [InputLoop.inputs_concat] at his
      exact (List.prefix_append _ _).trans his
    have hpast' : L.signals (L.inputs as) <+: L.signals is := hinputs.filterMap _
    have hchange : lastChange (L.signals (L.inputs as)) = some true := by
      rw [hpast, lastChange_concat_dropped]
      rw [hpast] at hpast'
      exact hstops before hpast' hbefore
    rcases htracks.alert hchange with hleft | hne
    · rw [(h.passes hpass).2] at hleft
      cases hleft
    · exact hne hseen

/-- A loop that has only just begun gets inputs, up to the one with which the owner goes. -/
lemma exists_run_of_inputs (h : L.Lawful) {is : List ι}
    (hlast : ∀ before after, L.signals is = before ++ after → after ≠ [] → .dropped ∉ before) :
    ∃ as s, L.system.run as = some s ∧ L.inputs as = is ∧ L.fresh s := by
  induction is using List.reverseRecOn with
  | nil => exact ⟨[], L.system.init, rfl, rfl, h.init_fresh⟩
  | append_singleton is i ih =>
    have hconcat : L.signals (is ++ [i]) = L.signals is ++ L.signals [i] := List.filterMap_append
    obtain ⟨as, s, hrun, hinputs, hfresh⟩ := ih fun before after heq hne =>
      hlast before (after ++ L.signals [i]) (by rw [hconcat, heq, List.append_assoc])
        (List.append_ne_nil_of_left_ne_nil hne _)
    have hthere : ∀ j, L.signalInput i = some j → (L.signal s).dropped = false := by
      intro j hj
      have hmem := hlast (L.signals is) (L.signals [i]) hconcat (by simp [signals, hj])
      rw [← hinputs, ← (h.tracks hrun).dropped] at hmem
      simpa using hmem
    obtain ⟨a, s', ha, hnext, hfresh'⟩ := h.supplied i hfresh hthere
    refine ⟨as ++ [a], s', InputLoop.run_concat.mpr ⟨s, hrun, hnext⟩, ?_, hfresh'⟩
    rw [InputLoop.inputs_concat, hinputs, ha, Option.toList_some]

/-- A loop that is not stopped first passes any number of times.

**Proof sketch.** It gets the inputs before it goes on, the last of them that its owner is gone. The
last change was not to stop, or there was none. -/
lemma exists_run_of_not_stopsFirst (h : L.Lawful) {is : List ι}
    (hstops : ¬ StopsFirst (L.signals is)) (n : ℕ) :
    ∃ as s, L.system.run as = some s ∧ L.inputs as <+: is ∧
      n ≤ L.passages L.system.init as := by
  simp only [StopsFirst, not_forall] at hstops
  obtain ⟨before, ⟨after, heq⟩, hbefore, hchange⟩ := hstops
  obtain ⟨is₁, is₂, rfl, hsignals, -⟩ := List.filterMap_eq_append_iff.mp heq.symm
  have hlast : ∀ before' after', L.signals is₁ = before' ++ after' → after' ≠ [] →
      .dropped ∉ before' := by
    intro before' after' heq' hne hmem
    have hpast' : before' <+: before := by
      rw [signals, hsignals] at heq'
      rcases List.eq_nil_or_concat after' with rfl | ⟨after', j, rfl⟩
      · exact absurd rfl hne
      · rw [List.concat_eq_append, ← List.append_assoc] at heq'
        obtain ⟨rfl, -⟩ := List.append_inj' heq' rfl
        exact List.prefix_append _ _
    exact hbefore (hpast'.subset hmem)
  obtain ⟨as, s, hrun, hinputs, hfresh⟩ := h.exists_run_of_inputs hlast
  have htracks := h.tracks hrun
  have hpast : L.signals (L.inputs as) = before ++ [.dropped] := by
    rw [hinputs]
    exact hsignals
  have hdropped : (L.signal s).dropped = true := by
    rw [htracks.dropped, hpast]
    simp
  have hvalue : (L.signal s).value = false ∨ (L.signal s).seen = (L.signal s).version ∧
      (L.signal s).value = (L.signal L.system.init).value := by
    cases hc : lastChange before with
    | none => exact .inr (htracks.quiet (by rw [hpast, lastChange_concat_dropped, hc]))
    | some b =>
      cases b with
      | true => exact absurd hc hchange
      | false => exact .inl (htracks.value (by rw [hpast, lastChange_concat_dropped, hc]))
  obtain ⟨bs, t, cycle, hbs, hbsInputs, hcycle, hcycleInputs, hpass⟩ :=
    h.cycles hfresh hdropped hvalue
  have hrun' : L.system.run (as ++ bs) = some t := by
    rw [System.run] at hrun ⊢
    rw [System.runFrom_append, hrun, Option.bind_some, hbs]
  obtain ⟨cs, hcs, hcsInputs, hle⟩ :=
    InputLoop.exists_run_of_cycle hrun' hcycle hcycleInputs hpass n
  refine ⟨cs, t, hcs, ?_, hle⟩
  rw [hcsInputs, InputLoop.inputs, List.filterMap_append]
  rw [InputLoop.inputs] at hinputs hbsInputs
  rw [hinputs, hbsInputs, List.append_nil]
  exact List.prefix_append _ _

/-- **A loop with a stop signal** does not spin if and only if its owner goes only when its last
change has been to stop. -/
theorem neverSpins_iff (h : L.Lawful) (is : List ι) :
    L.NeverSpins is ↔ StopsFirst (L.signals is) := by
  refine ⟨fun hspins => ?_, h.neverSpins_of_stopsFirst⟩
  by_contra hstops
  obtain ⟨n, hn⟩ := hspins.finite
  obtain ⟨as, s, hrun, his, hle⟩ := h.exists_run_of_not_stopsFirst hstops (n + 1)
  exact absurd (hn hrun his) (by omega)

end Lawful

end StopLoop

end Automata
