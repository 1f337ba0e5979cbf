import Mathlib.Data.List.Nodup
import Signalrr.Automata.System
import Signalrr.Hub.MessageBus

set_option relaxedAutoImplicit false
set_option autoImplicit false

/-!
# What waiting calls observe

Any sequence of the operations of `src/bus.rs` on the table of waiting calls. A registration opens a
channel and puts its sender into the table; the receiver of the channel observes what is sent to it,
and the end of the channel when the sender leaves the table.

## Main definitions

* `Signalrr.Hub.PendingCalls` — the table, the channels opened so far and everything sent to them.
* `Signalrr.Hub.PendingCalls.observe` — what the receiver of a channel has observed.
* `Signalrr.Hub.streamObservation`, `singleObservation` — what it should observe, from the
  operations after its registration.

## Main results

* `Signalrr.Hub.PendingCalls.Waits.step` — what one operation does to a waiting call.
* `Signalrr.Hub.PendingCalls.observe_registered` — what the receiver of a registration observes,
  from the operations that name its id alone.

## Design

A channel is named by the number of channels opened before it. A result that is sent is observed
even when it is read later, so `observe` lists everything sent to the channel; `closed` says that
nothing follows. For a single call `closed` with no result is the cancellation the receiver of a
one-shot channel sees when its sender is dropped.
-/

namespace Signalrr.Hub

/-- The operations on the table of waiting calls. -/
inductive PendingOp where
  | registerPending (id : String)
  | registerStream (id : String)
  | sendStreamItem (id : String) (item : Except String Value)
  | completeInvocation (id : String) (result : Except String Value)
  | removePending (id : String)
  | cancelAllPending (error : String)

namespace PendingOp

/-- The operation names the id, or all ids. -/
def names (id : String) : PendingOp → Bool
  | registerPending i | registerStream i | sendStreamItem i _ | completeInvocation i _ |
    removePending i => i = id
  | cancelAllPending _ => true

/-- The operation ends a call that waits under the id. -/
def ends (id : String) : PendingOp → Bool
  | completeInvocation i _ | removePending i => i = id
  | cancelAllPending _ => true
  | registerPending _ | registerStream _ | sendStreamItem _ _ => false

/-- The item the operation sends for the id. -/
def item? (id : String) : PendingOp → Option (Except String Value)
  | sendStreamItem i item => if i = id then some item else none
  | _ => none

/-- The error with which the operation ends a stream, if it carries one. -/
def error? : PendingOp → Option (Except String Value)
  | completeInvocation _ (.error e) => some (.error e)
  | cancelAllPending e => some (.error e)
  | _ => none

/-- The result with which the operation resolves a single call, if it carries one. -/
def result? : PendingOp → Option (Except String Value)
  | completeInvocation _ result => some result
  | cancelAllPending e => some (.error e)
  | _ => none

end PendingOp

/-- What the receiver of a channel observes: the results sent to it, in order, and whether the
channel has ended behind them. -/
structure Observation where
  results : List (Except String Value)
  closed : Bool

/-- What a stream should observe of the operations after its registration: the items sent for its id
before the first operation that ends it, the error of that operation, and then the end. -/
def streamObservation (id : String) (ops : List PendingOp) : Observation where
  results := (ops.takeWhile fun op => !op.ends id).filterMap (PendingOp.item? id) ++
    ((ops.find? (PendingOp.ends id)).bind PendingOp.error?).toList
  closed := ops.any (PendingOp.ends id)

/-- What a single call should observe: the result of the first operation that ends it, or the end
alone. -/
def singleObservation (id : String) (ops : List PendingOp) : Observation where
  results := ((ops.find? (PendingOp.ends id)).bind PendingOp.result?).toList
  closed := ops.any (PendingOp.ends id)

/-- The table of waiting calls in use. -/
structure PendingCalls where
  table : PendingTable
  /-- How many channels have been opened. -/
  opened : ℕ
  /-- Everything sent to the channels. -/
  delivered : List Delivery

namespace PendingCalls

/-- One operation. -/
def next (s : PendingCalls) : PendingOp → Option PendingCalls
  | .registerPending id =>
    some { s with table := s.table.registerPending id s.opened, opened := s.opened + 1 }
  | .registerStream id =>
    some { s with table := s.table.registerStream id s.opened, opened := s.opened + 1 }
  | .sendStreamItem id item =>
    some { s with delivered := s.delivered ++ s.table.sendStreamItem id item }
  | .completeInvocation id result =>
    some { s with
      table := (s.table.completeInvocation id result).1
      delivered := s.delivered ++ (s.table.completeInvocation id result).2 }
  | .removePending id => some { s with table := (s.table.removePending id).1 }
  | .cancelAllPending error =>
    some { s with
      table := (s.table.cancelAllPending error).1
      delivered := s.delivered ++ (s.table.cancelAllPending error).2 }

/-- The runs of the table. -/
def system : Automata.System PendingCalls PendingOp := ⟨⟨[], 0, []⟩, next⟩

/-- No id is registered again while it is present. -/
def RegistersAbsent (s : PendingCalls) : PendingOp → Prop
  | .registerPending id | .registerStream id => s.table.lookup id = none
  | _ => True

instance (s : PendingCalls) (op : PendingOp) : Decidable (s.RegistersAbsent op) :=
  match op with
  | .registerPending id | .registerStream id =>
    inferInstanceAs (Decidable (s.table.lookup id = none))
  | .sendStreamItem _ _ | .completeInvocation _ _ | .removePending _ | .cancelAllPending _ =>
    inferInstanceAs (Decidable True)

/-- What deliveries bring to a channel. -/
def resultsFor (tx : ℕ) (ds : List Delivery) : List (Except String Value) :=
  (ds.filter fun d => d.tx = tx).map Delivery.result

/-- What has been sent to a channel. -/
def sentTo (s : PendingCalls) (tx : ℕ) : List (Except String Value) := resultsFor tx s.delivered

/-- What the receiver of a channel has observed. -/
def observe (s : PendingCalls) (tx : ℕ) : Observation where
  results := s.sentTo tx
  closed := s.table.all fun e => e.2.tx ≠ tx

/-! ## The table -/

/-- Ids and channels in the table are distinct, and the channels have been opened. -/
structure Distinct (s : PendingCalls) : Prop where
  ids : (s.table.map Prod.fst).Nodup
  channels : (s.table.map fun e => e.2.tx).Nodup
  opened : ∀ e ∈ s.table, e.2.tx < s.opened

variable {s s' : PendingCalls} {op : PendingOp}

/-- An id that is not found is in no entry. -/
lemma ne_of_lookup_eq_none {table : PendingTable} {id : String} (h : table.lookup id = none)
    {e : String × PendingInvocation} (he : e ∈ table) : e.1 ≠ id := by
  rintro rfl
  have := List.lookup_eq_none_iff.mp h e he
  simp at this

/-- Inserting an absent id appends an entry. -/
lemma insert_of_absent {table : PendingTable} {id : String} (h : table.lookup id = none)
    (p : PendingInvocation) : table.insert id p = table ++ [(id, p)] := by
  rw [PendingTable.insert, List.filter_eq_self.mpr]
  intro e he
  simpa using ne_of_lookup_eq_none h he

/-- Registering an absent id under a new channel. -/
lemma Distinct.insert (h : s.Distinct) {id : String} (hid : s.table.lookup id = none)
    {p : PendingInvocation} (hp : p.tx = s.opened) :
    Distinct { s with table := s.table.insert id p, opened := s.opened + 1 } := by
  rw [insert_of_absent hid]
  refine ⟨?_, ?_, ?_⟩
  · simp only [List.map_append, List.map_cons, List.map_nil]
    refine List.nodup_append.mpr ⟨h.ids, List.nodup_singleton _, ?_⟩
    rintro _ ha _ hb rfl
    obtain ⟨e, he, rfl⟩ := List.mem_map.mp ha
    exact ne_of_lookup_eq_none hid he (List.mem_singleton.mp hb)
  · simp only [List.map_append, List.map_cons, List.map_nil]
    refine List.nodup_append.mpr ⟨h.channels, List.nodup_singleton _, ?_⟩
    rintro _ ha _ hb rfl
    obtain ⟨e, he, hetx⟩ := List.mem_map.mp ha
    have := h.opened e he
    have := List.mem_singleton.mp hb
    omega
  · intro e he
    rcases List.mem_append.mp he with he | he
    · exact (h.opened e he).trans (Nat.lt_succ_self _)
    · rw [List.mem_singleton.mp he, hp]
      exact Nat.lt_succ_self _

/-- Taking entries out of the table. -/
lemma Distinct.sublist (h : s.Distinct) {table : PendingTable} (hsub : table.Sublist s.table)
    (delivered : List Delivery) : Distinct ⟨table, s.opened, delivered⟩ :=
  ⟨h.ids.sublist (hsub.map _), h.channels.sublist (hsub.map _), fun e he =>
    h.opened e (hsub.subset he)⟩

/-- A completion only takes an entry out. -/
lemma completeInvocation_sublist (table : PendingTable) (id : String)
    (result : Except String Value) : (table.completeInvocation id result).1.Sublist table := by
  unfold PendingTable.completeInvocation
  split
  · exact List.Sublist.refl _
  · exact List.filter_sublist
  · exact List.filter_sublist

/-- **One operation** keeps ids and channels distinct. -/
lemma Distinct.next (h : s.Distinct) (hok : s.RegistersAbsent op) (hstep : next s op = some s') :
    s'.Distinct := by
  cases op with
  | registerPending id =>
    cases hstep
    exact h.insert hok rfl
  | registerStream id =>
    cases hstep
    exact h.insert hok rfl
  | sendStreamItem id item =>
    cases hstep
    exact h.sublist (List.Sublist.refl _) _
  | completeInvocation id result =>
    cases hstep
    exact h.sublist (completeInvocation_sublist _ _ _) _
  | removePending id =>
    cases hstep
    exact h.sublist List.filter_sublist _
  | cancelAllPending error =>
    cases hstep
    exact h.sublist (List.nil_sublist _) _

/-! ## Waiting calls -/

/-- A call waits under an id. -/
structure Waits (s : PendingCalls) (id : String) (p : PendingInvocation) : Prop where
  distinct : s.Distinct
  entry : (id, p) ∈ s.table

/-- The entry of an id that is found under it. -/
lemma Waits.lookup {id : String} {p : PendingInvocation} (h : s.Waits id p) :
    s.table.lookup id = some p := by
  cases hl : s.table.lookup id with
  | none => exact absurd rfl (ne_of_lookup_eq_none hl h.entry)
  | some q =>
    have hq := PendingTable.mem_of_lookup hl
    have heq := List.inj_on_of_nodup_map h.distinct.ids hq h.entry rfl
    cases heq
    rfl

/-- Two ids have different channels. -/
lemma Waits.tx_ne {id i : String} {p q : PendingInvocation} (h : s.Waits id p)
    (hq : (i, q) ∈ s.table) (hi : i ≠ id) : q.tx ≠ p.tx := by
  intro heq
  have := List.inj_on_of_nodup_map h.distinct.channels hq h.entry heq
  exact hi (congrArg Prod.fst this)

/-- No call waits on the channel, and none will. -/
structure Gone (s : PendingCalls) (tx : ℕ) : Prop where
  distinct : s.Distinct
  opened : tx < s.opened
  absent : ∀ e ∈ s.table, e.2.tx ≠ tx

/-- Deliveries to other channels. -/
lemma resultsFor_eq_nil {tx : ℕ} {ds : List Delivery} (h : ∀ d ∈ ds, d.tx ≠ tx) :
    resultsFor tx ds = [] := by
  rw [resultsFor, List.filter_eq_nil_iff.mpr, List.map_nil]
  simpa using h

/-- Deliveries one after the other. -/
lemma resultsFor_append (tx : ℕ) (ds es : List Delivery) :
    resultsFor tx (ds ++ es) = resultsFor tx ds ++ resultsFor tx es := by
  simp [resultsFor]

/-- Further deliveries to other channels. -/
lemma resultsFor_append_of_ne {tx : ℕ} (ds : List Delivery) {es : List Delivery}
    (h : ∀ d ∈ es, d.tx ≠ tx) : resultsFor tx (ds ++ es) = resultsFor tx ds := by
  rw [resultsFor_append, resultsFor_eq_nil h, List.append_nil]

/-- What `cancel_all_pending` sends to a waiting call. -/
lemma Waits.resultsFor_cancelAll {id : String} {p : PendingInvocation} (h : s.Waits id p)
    (error : String) :
    resultsFor p.tx (s.table.cancelAllPending error).2 = [.error error] := by
  have hone : ∀ {table : PendingTable}, (table.map fun e => e.2.tx).Nodup → (id, p) ∈ table →
      table.filter (fun e => e.2.tx = p.tx) = [(id, p)] := by
    intro table hnd hmem
    induction table with
    | nil => cases hmem
    | cons e rest ih =>
      obtain ⟨hnot, hnd⟩ := List.nodup_cons.mp hnd
      rcases List.mem_cons.mp hmem with rfl | hmem
      · rw [List.filter_cons_of_pos (by simp), List.filter_eq_nil_iff.mpr]
        intro f hf heq
        exact hnot (List.mem_map.mpr ⟨f, hf, by simpa using heq⟩)
      · rw [List.filter_cons_of_neg, ih hnd hmem]
        intro heq
        exact hnot (List.mem_map.mpr ⟨_, hmem, (by simpa using heq : e.2.tx = p.tx).symm⟩)
  have hf := hone h.distinct.channels h.entry
  simp only [resultsFor, PendingTable.cancelAllPending, List.filter_map, List.map_map]
  simp only [Function.comp_def]
  rw [hf]
  rfl

/-- The results an operation that does not end the call brings to it. -/
def midResults (p : PendingInvocation) (id : String) (op : PendingOp) :
    List (Except String Value) :=
  match p with
  | .single _ => []
  | .stream _ => (op.item? id).toList

/-- The results an operation that ends the call brings to it. -/
def lastResults (p : PendingInvocation) (op : PendingOp) : List (Except String Value) :=
  match p with
  | .single _ => op.result?.toList
  | .stream _ => op.error?.toList

/-- A channel on which nobody waits is not reached any more. -/
lemma Gone.step {tx : ℕ} (h : s.Gone tx) (hok : s.RegistersAbsent op)
    (hstep : next s op = some s') : s'.Gone tx ∧ s'.sentTo tx = s.sentTo tx := by
  have hd := h.distinct.next hok hstep
  have hins : ∀ {id : String} {q : PendingInvocation}, q.tx = s.opened →
      ∀ e ∈ s.table.insert id q, e.2.tx ≠ tx := by
    intro id q hq e he
    rcases PendingTable.mem_insert.mp he with ⟨he, -⟩ | rfl
    · exact h.absent e he
    · have := h.opened
      dsimp only
      omega
  cases op with
  | registerPending id =>
    cases hstep
    exact ⟨⟨hd, Nat.lt_succ_of_lt h.opened, hins rfl⟩, rfl⟩
  | registerStream id =>
    cases hstep
    exact ⟨⟨hd, Nat.lt_succ_of_lt h.opened, hins rfl⟩, rfl⟩
  | sendStreamItem id item =>
    cases hstep
    refine ⟨⟨hd, h.opened, h.absent⟩, ?_⟩
    refine resultsFor_append_of_ne _ fun d hdel => ?_
    obtain ⟨q, hq, htx⟩ := PendingTable.delivered_sendStreamItem hdel
    exact htx ▸ h.absent _ hq
  | completeInvocation id result =>
    cases hstep
    refine ⟨⟨hd, h.opened, fun e he => h.absent e (PendingTable.mem_completeInvocation he)⟩, ?_⟩
    refine resultsFor_append_of_ne _ fun d hdel => ?_
    obtain ⟨q, hq, htx⟩ := PendingTable.delivered_completeInvocation hdel
    exact htx ▸ h.absent _ hq
  | removePending id =>
    cases hstep
    exact ⟨⟨hd, h.opened, fun e he => h.absent e (PendingTable.mem_erase.mp he).1⟩, rfl⟩
  | cancelAllPending error =>
    cases hstep
    refine ⟨⟨hd, h.opened, by simp [PendingTable.cancelAllPending]⟩, ?_⟩
    refine resultsFor_append_of_ne _ fun d hdel => ?_
    obtain ⟨e, he, rfl⟩ := List.mem_map.mp hdel
    exact h.absent e he

/-- Taking the entry of a waiting call out of the table. -/
lemma Waits.gone_erase {id : String} {p : PendingInvocation} (h : s.Waits id p)
    (delivered : List Delivery) : Gone ⟨s.table.erase id, s.opened, delivered⟩ p.tx where
  distinct := h.distinct.sublist List.filter_sublist _
  opened := h.distinct.opened _ h.entry
  absent := fun e he => by
    obtain ⟨he, hne⟩ := PendingTable.mem_erase.mp he
    exact h.tx_ne he hne

/-- **What one operation does to a waiting call**: an operation that ends it takes it out of the
table and sends its last results, any other one leaves it there and sends an item or nothing.

**Proof sketch.** An operation that names the id finds the entry of the call. One that names another
id reaches the channel of another entry, and channels are distinct. -/
lemma Waits.step {id : String} {p : PendingInvocation} (h : s.Waits id p)
    (hok : s.RegistersAbsent op) (hstep : next s op = some s') :
    (op.ends id = false ∧ s'.Waits id p ∧
      s'.sentTo p.tx = s.sentTo p.tx ++ midResults p id op) ∨
    (op.ends id = true ∧ s'.Gone p.tx ∧ s'.sentTo p.tx = s.sentTo p.tx ++ lastResults p op) := by
  have hd := h.distinct.next hok hstep
  have hmid : ∀ {o : PendingOp}, o.item? id = none → midResults p id o = [] := by
    intro o ho
    cases p <;> simp [midResults, ho]
  cases op with
  | registerPending i =>
    cases hstep
    have hi := ne_of_lookup_eq_none hok h.entry
    exact .inl ⟨rfl, ⟨hd, PendingTable.mem_insert.mpr (.inl ⟨h.entry, hi⟩)⟩,
      by rw [hmid rfl, List.append_nil]; rfl⟩
  | registerStream i =>
    cases hstep
    have hi := ne_of_lookup_eq_none hok h.entry
    exact .inl ⟨rfl, ⟨hd, PendingTable.mem_insert.mpr (.inl ⟨h.entry, hi⟩)⟩,
      by rw [hmid rfl, List.append_nil]; rfl⟩
  | sendStreamItem i item =>
    cases hstep
    refine .inl ⟨rfl, ⟨hd, h.entry⟩, ?_⟩
    rw [sentTo, resultsFor_append, sentTo]
    congr 1
    by_cases hi : i = id
    · subst hi
      cases p <;> simp [PendingTable.sendStreamItem, h.lookup, midResults, PendingOp.item?,
        resultsFor, PendingInvocation.tx]
    · rw [hmid (by simp [PendingOp.item?, hi])]
      refine resultsFor_eq_nil fun d hdel => ?_
      obtain ⟨q, hq, htx⟩ := PendingTable.delivered_sendStreamItem hdel
      exact htx ▸ h.tx_ne hq hi
  | completeInvocation i result =>
    cases hstep
    by_cases hi : i = id
    · subst hi
      refine .inr ⟨by simp [PendingOp.ends], ?_, ?_⟩
      · have htable : (s.table.completeInvocation i result).1 = s.table.erase i := by
          cases p <;> simp [PendingTable.completeInvocation, h.lookup]
        rw [htable]
        exact h.gone_erase _
      · rw [sentTo, resultsFor_append, sentTo]
        congr 1
        cases p <;> cases result <;> simp [PendingTable.completeInvocation, h.lookup, lastResults,
          PendingOp.result?, PendingOp.error?, resultsFor, PendingInvocation.tx]
    · refine .inl ⟨by simp [PendingOp.ends, hi], ⟨hd, ?_⟩, ?_⟩
      · unfold PendingTable.completeInvocation
        split
        · exact h.entry
        · exact PendingTable.mem_erase.mpr ⟨h.entry, fun heq => hi heq.symm⟩
        · exact PendingTable.mem_erase.mpr ⟨h.entry, fun heq => hi heq.symm⟩
      · rw [hmid rfl, List.append_nil]
        refine resultsFor_append_of_ne _ fun d hdel => ?_
        obtain ⟨q, hq, htx⟩ := PendingTable.delivered_completeInvocation hdel
        exact htx ▸ h.tx_ne hq hi
  | removePending i =>
    cases hstep
    by_cases hi : i = id
    · subst hi
      refine .inr ⟨by simp [PendingOp.ends], h.gone_erase _, ?_⟩
      cases p <;> simp [lastResults, PendingOp.result?, PendingOp.error?, sentTo]
    · refine .inl ⟨by simp [PendingOp.ends, hi], ⟨hd, ?_⟩, by rw [hmid rfl, List.append_nil]; rfl⟩
      exact PendingTable.mem_erase.mpr ⟨h.entry, fun heq => hi heq.symm⟩
  | cancelAllPending error =>
    cases hstep
    refine .inr ⟨rfl, ⟨hd, h.distinct.opened _ h.entry,
      by simp [PendingTable.cancelAllPending]⟩, ?_⟩
    rw [sentTo, resultsFor_append, h.resultsFor_cancelAll, sentTo]
    cases p <;> rfl

/-! ## Runs -/

/-- What a waiting call should observe of the operations after its registration. -/
def expected (p : PendingInvocation) (id : String) (ops : List PendingOp) : Observation :=
  match p with
  | .single _ => singleObservation id ops
  | .stream _ => streamObservation id ops

@[simp] lemma expected_nil (p : PendingInvocation) (id : String) :
    expected p id [] = ⟨[], false⟩ := by
  cases p <;> rfl

/-- The first operation ends the call. -/
lemma expected_cons_of_ends (p : PendingInvocation) {id : String} {op : PendingOp}
    (h : op.ends id = true) (ops : List PendingOp) :
    expected p id (op :: ops) = ⟨lastResults p op, true⟩ := by
  cases p <;> simp [expected, singleObservation, streamObservation, lastResults, h]

/-- The first operation does not end the call. -/
lemma expected_cons_of_not_ends (p : PendingInvocation) {id : String} {op : PendingOp}
    (h : op.ends id = false) (ops : List PendingOp) :
    expected p id (op :: ops) =
      ⟨midResults p id op ++ (expected p id ops).results, (expected p id ops).closed⟩ := by
  cases p with
  | single tx => simp [expected, singleObservation, midResults, h]
  | stream tx =>
    cases hitem : op.item? id <;>
      simp [expected, streamObservation, midResults, h, hitem]

/-- Operations that do not name the id do not matter. -/
lemma expected_filter_names (p : PendingInvocation) (id : String) (ops : List PendingOp) :
    expected p id (ops.filter (PendingOp.names id)) = expected p id ops := by
  induction ops with
  | nil => rfl
  | cons op ops ih =>
    cases hn : op.names id with
    | false =>
      have hend : op.ends id = false := by
        cases op <;> simp_all [PendingOp.names, PendingOp.ends]
      have hitem : op.item? id = none := by
        cases op <;> simp_all [PendingOp.names, PendingOp.item?]
      have hmid : midResults p id op = [] := by cases p <;> simp [midResults, hitem]
      rw [List.filter_cons_of_neg (by simp [hn]), ih, expected_cons_of_not_ends p hend, hmid,
        List.nil_append]
    | true =>
      rw [List.filter_cons_of_pos hn]
      cases hend : op.ends id with
      | false => rw [expected_cons_of_not_ends p hend, expected_cons_of_not_ends p hend, ih]
      | true => rw [expected_cons_of_ends p hend, expected_cons_of_ends p hend]

variable {t : PendingCalls} {ops : List PendingOp}

/-- A channel on which nobody waits stays as it is. -/
lemma Gone.run {tx : ℕ} (h : s.Gone tx) (hrun : system.runFrom s ops = some t)
    (hm : system.MeetsFrom RegistersAbsent s ops) : t.observe tx = ⟨s.sentTo tx, true⟩ := by
  have hinv : t.Gone tx ∧ t.sentTo tx = s.sentTo tx :=
    Automata.System.invariant_of_meetsFrom (I := fun u => u.Gone tx ∧ u.sentTo tx = s.sentTo tx)
      (fun u op u' hu hok hstep =>
        ⟨(hu.1.step hok hstep).1, (hu.1.step hok hstep).2.trans hu.2⟩) ⟨h, rfl⟩ hrun hm
  have hclosed : t.table.all (fun e => e.2.tx ≠ tx) = true := by
    simpa using hinv.1.absent
  rw [observe, hinv.2, hclosed]

/-- **What a waiting call observes** of any operations.

**Proof sketch.** Induction on the operations: one that does not end the call adds its item, the
first one that ends it adds its last results, and nothing reaches the channel afterwards. -/
lemma Waits.run {id : String} {p : PendingInvocation} (h : s.Waits id p)
    (hrun : system.runFrom s ops = some t) (hm : system.MeetsFrom RegistersAbsent s ops) :
    t.observe p.tx =
      ⟨s.sentTo p.tx ++ (expected p id ops).results, (expected p id ops).closed⟩ := by
  induction ops generalizing s with
  | nil =>
    obtain rfl : s = t := by simpa using hrun
    have hopen : s.table.all (fun e => e.2.tx ≠ p.tx) = false := by
      rw [List.all_eq_false]
      exact ⟨_, h.entry, by simp⟩
    rw [observe, hopen, expected_nil, List.append_nil]
  | cons op ops ih =>
    simp only [Automata.System.runFrom_cons, Option.bind_eq_some_iff] at hrun
    obtain ⟨u, hu, hrest⟩ := hrun
    rcases h.step hm.1 hu with ⟨hend, hw, hsent⟩ | ⟨hend, hg, hsent⟩
    · rw [ih hw hrest (hm.2 u hu), hsent, expected_cons_of_not_ends p hend, List.append_assoc]
    · rw [hg.run hrest (hm.2 u hu), hsent, expected_cons_of_ends p hend]

/-- Only channels that have been opened have been sent to. -/
structure Started (s : PendingCalls) : Prop where
  distinct : s.Distinct
  sent : ∀ d ∈ s.delivered, d.tx < s.opened

/-- One operation sends to the channels of entries. -/
lemma Started.next (h : s.Started) (hok : s.RegistersAbsent op) (hstep : next s op = some s') :
    s'.Started := by
  refine ⟨h.distinct.next hok hstep, ?_⟩
  have hto : ∀ {ds : List Delivery}, (∀ d ∈ ds, ∃ e ∈ s.table, e.2.tx = d.tx) →
      ∀ d ∈ s.delivered ++ ds, d.tx < s.opened := by
    intro ds hds d hd
    rcases List.mem_append.mp hd with hd | hd
    · exact h.sent d hd
    · obtain ⟨e, he, htx⟩ := hds d hd
      exact htx ▸ h.distinct.opened e he
  cases op with
  | registerPending id =>
    cases hstep
    exact fun d hd => Nat.lt_succ_of_lt (h.sent d hd)
  | registerStream id =>
    cases hstep
    exact fun d hd => Nat.lt_succ_of_lt (h.sent d hd)
  | sendStreamItem id item =>
    cases hstep
    refine hto fun d hd => ?_
    obtain ⟨q, hq, htx⟩ := PendingTable.delivered_sendStreamItem hd
    exact ⟨_, hq, htx⟩
  | completeInvocation id result =>
    cases hstep
    refine hto fun d hd => ?_
    obtain ⟨q, hq, htx⟩ := PendingTable.delivered_completeInvocation hd
    exact ⟨_, hq, htx⟩
  | removePending id =>
    cases hstep
    exact h.sent
  | cancelAllPending error =>
    cases hstep
    refine hto fun d hd => ?_
    obtain ⟨e, he, rfl⟩ := List.mem_map.mp hd
    exact ⟨e, he, rfl⟩

/-- A new channel is empty. -/
lemma Started.sentTo_opened (h : s.Started) : s.sentTo s.opened = [] :=
  resultsFor_eq_nil fun d hd => (h.sent d hd).ne

/-- A registration of an id, single or stream. -/
def register (p : ℕ → PendingInvocation) (s : PendingCalls) (id : String) : PendingCalls :=
  { s with table := s.table.insert id (p s.opened), opened := s.opened + 1 }

/-- What the receiver of a registration observes of the operations after it. -/
lemma observe_of_register {p : ℕ → PendingInvocation} (hp : ∀ tx, (p tx).tx = tx) {id : String}
    {pre post : List PendingOp} (hop : ∀ u : PendingCalls, PendingCalls.next u op =
      some (register p u id) ∧ (u.RegistersAbsent op ↔ u.table.lookup id = none))
    (hpre : system.run pre = some s) (hrun : system.run (pre ++ op :: post) = some t)
    (hm : system.Meets RegistersAbsent (pre ++ op :: post)) :
    t.observe s.opened = expected (p s.opened) id (post.filter (PendingOp.names id)) := by
  obtain ⟨hmpre, hmop⟩ := Automata.System.meetsFrom_append hm hpre
  have hinit : Started system.init :=
    ⟨⟨by simp [system], by simp [system], by simp [system]⟩, by simp [system]⟩
  have hs : s.Started := Automata.System.invariant_of_meets (I := Started) hinit
    (fun _ _ _ hu hok hstep => hu.next hok hstep) hpre hmpre
  obtain ⟨hnext, habsent⟩ := hop s
  have hid := habsent.mp hmop.1
  have hrun' : system.runFrom (register p s id) post = some t := by
    have hsplit := hrun
    rw [Automata.System.run, Automata.System.runFrom_append] at hsplit
    rw [Automata.System.run] at hpre
    rw [hpre, Option.bind_some, Automata.System.runFrom_cons] at hsplit
    rwa [show system.next s op = some (register p s id) from hnext, Option.bind_some] at hsplit
  have hw : (register p s id).Waits id (p s.opened) :=
    ⟨hs.distinct.insert hid (hp _), PendingTable.mem_insert.mpr (.inr rfl)⟩
  have hobs := hw.run hrun' (hmop.2 _ hnext)
  have hnil : (register p s id).sentTo (p s.opened).tx = [] := by
    rw [hp]
    exact hs.sentTo_opened
  rw [hnil, List.nil_append, hp] at hobs
  rw [hobs, expected_filter_names]

/-- **The table routes every message to its call and nothing else**: in every run in which no id is
registered again while it is present, what the receiver of a registration observes is determined by
the operations after it that name its id or all ids. A stream gets the items sent for its id before
the first operation that ends it, then the error that operation carries, then the end; a single call
gets the result or error of that operation, or the end alone. -/
theorem observe_registered {id : String} {pre post : List PendingOp} {op : PendingOp}
    {s t : PendingCalls} (hop : op = .registerStream id ∨ op = .registerPending id)
    (hpre : system.run pre = some s) (hrun : system.run (pre ++ op :: post) = some t)
    (hm : system.Meets RegistersAbsent (pre ++ op :: post)) :
    (op = .registerStream id →
      t.observe s.opened = streamObservation id (post.filter (PendingOp.names id))) ∧
    (op = .registerPending id →
      t.observe s.opened = singleObservation id (post.filter (PendingOp.names id))) ∧
    ∀ {pre' post' : List PendingOp} {s' t' : PendingCalls}, system.run pre' = some s' →
      system.run (pre' ++ op :: post') = some t' →
      system.Meets RegistersAbsent (pre' ++ op :: post') →
      post'.filter (PendingOp.names id) = post.filter (PendingOp.names id) →
        t'.observe s'.opened = t.observe s.opened := by
  have hstream : op = .registerStream id → ∀ {pre post : List PendingOp} {s t : PendingCalls},
      system.run pre = some s → system.run (pre ++ op :: post) = some t →
      system.Meets RegistersAbsent (pre ++ op :: post) →
        t.observe s.opened = streamObservation id (post.filter (PendingOp.names id)) := by
    rintro rfl pre post s t hpre hrun hm
    exact observe_of_register (p := .stream) (fun _ => rfl) (fun _ => ⟨rfl, Iff.rfl⟩) hpre hrun hm
  have hsingle : op = .registerPending id → ∀ {pre post : List PendingOp} {s t : PendingCalls},
      system.run pre = some s → system.run (pre ++ op :: post) = some t →
      system.Meets RegistersAbsent (pre ++ op :: post) →
        t.observe s.opened = singleObservation id (post.filter (PendingOp.names id)) := by
    rintro rfl pre post s t hpre hrun hm
    exact observe_of_register (p := .single) (fun _ => rfl) (fun _ => ⟨rfl, Iff.rfl⟩) hpre hrun hm
  refine ⟨fun h => hstream h hpre hrun hm, fun h => hsingle h hpre hrun hm, ?_⟩
  intro pre' post' s' t' hpre' hrun' hm' heq
  rcases hop with h | h
  · rw [hstream h hpre hrun hm, hstream h hpre' hrun' hm', heq]
  · rw [hsingle h hpre hrun hm, hsingle h hpre' hrun' hm', heq]

/-- A stream and a single call, interleaved: the stream ends with the error that all calls get. -/
theorem observe_registered_interleaved :
    let post : List PendingOp := [.registerPending "2", .sendStreamItem "1" (.ok .null),
      .sendStreamItem "2" (.ok .null), .completeInvocation "2" (.ok (.bool true)),
      .cancelAllPending "gone", .sendStreamItem "1" (.ok .null)]
    ∃ t, system.run ([] ++ .registerStream "1" :: post) = some t ∧
      t.observe 0 = ⟨[.ok .null, .error "gone"], true⟩ := by
  intro post
  have hrun : system.run ([] ++ .registerStream "1" :: post) = some _ := rfl
  exact ⟨_, hrun, (observe_registered (.inl rfl) rfl hrun (by decide)).1 rfl⟩

end PendingCalls

end Signalrr.Hub
