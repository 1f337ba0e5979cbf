import Mathlib
import Signalrr.HubConnection.CallSteps

set_option relaxedAutoImplicit false
set_option autoImplicit false

/-!
# Invocation ids

`next_invocation_id` in `src/hub_connection/runtime.rs` counts per runtime, while the pending table
of the bus outlives runtimes. As long as every id of a connection comes from the same counter, the
ids of the connection are `1, 2, 3, …`, no registration replaces an entry of the pending table, and
answers reach the calls they are meant for. A stateful resume stores a new runtime for the same
connection, and its counter starts over.

## Main definitions

* `Signalrr.HubConnection.idsUpTo` — the first ids of a counter.
* `Signalrr.HubConnection.View.FirstToIssue` — the condition on a step: ids are taken from a runtime
  whose predecessors have given none on the connection.
* `Signalrr.HubConnection.IdInvariant` — what the ids, the calls and the table have to do with each
  other.

## Main results

* `Signalrr.HubConnection.ids_unique_of_firstToIssue` — ids are unique and answers are delivered to
  the right calls in every run whose steps meet the condition.
* `Signalrr.HubConnection.ids_reused` — they are not in general: a resume is enough.
-/

namespace Signalrr.HubConnection

open Hub

/-! ## The ids of a counter -/

/-- The first `n` ids of a counter. -/
def idsUpTo (n : ℕ) : List String := (List.range n).map fun m => toString (m + 1)

/-- The ids of a counter are different. -/
lemma toString_injective : Function.Injective fun n : ℕ => toString n :=
  fun _ _ h => Nat.repr_injective h

/-- The next id. -/
lemma idsUpTo_succ (n : ℕ) : idsUpTo (n + 1) = idsUpTo n ++ [toString (n + 1)] := by
  simp [idsUpTo, List.range_succ]

/-- Ids of a counter are not repeated. -/
lemma nodup_idsUpTo (n : ℕ) : (idsUpTo n).Nodup := by
  refine List.Nodup.map (fun a b h => ?_) List.nodup_range
  have := toString_injective h
  omega

@[simp] lemma length_idsUpTo (n : ℕ) : (idsUpTo n).length = n := by simp [idsUpTo]

/-- The upload streams of a call get the next ids of the counter.

**Proof sketch.** Induction on the arguments; a stream takes one id, a value takes none. -/
lemma idsUpTo_replaceStreamingParams (arguments : List HubArgument) (n : ℕ) :
    idsUpTo n ++ (replaceStreamingParams arguments n).2.1 =
      idsUpTo (replaceStreamingParams arguments n).2.2 := by
  induction arguments generalizing n with
  | nil => simp [replaceStreamingParams]
  | cons argument rest ih =>
    cases argument with
    | value value => exact ih n
    | stream =>
      have hrest := ih (n + 1)
      rw [idsUpTo_succ, List.append_assoc] at hrest
      exact hrest

/-- How many ids the upload streams of a call need does not depend on the counter. -/
lemma length_replaceStreamingParams (arguments : List HubArgument) (m n : ℕ) :
    (replaceStreamingParams arguments m).2.1.length =
      (replaceStreamingParams arguments n).2.1.length := by
  induction arguments generalizing m n with
  | nil => rfl
  | cons argument rest ih =>
    cases argument with
    | value value => exact ih m n
    | stream => simpa [replaceStreamingParams] using ih (m + 1) (n + 1)

/-! ## The condition -/

namespace View

/-- The ids handed out on a connection. -/
def issuedOn (v : View) (k : ℕ) : List String :=
  (v.log.issued.filter fun e => e.1 = k).map Prod.snd

/-- The step of a call that takes ids from the runtime, unless there is none to take. -/
def takesIds (c : Call) : Bool :=
  match c.pc with
  | .takeId => true
  | .takeStreamIds => !(replaceStreamingParams c.arguments 0).2.1.isEmpty
  | _ => false

/-- The condition on a step: when a call takes ids, no earlier runtime of the connection has handed
out any, so the runtime has counted them all. -/
def FirstToIssue (v : View) : CoreAction → Prop
  | .call i _ => ∀ c ∈ v.calls[i]?, takesIds c = true →
      ∀ rt ∈ v.runtime, (v.issuedOn rt.connection).length = rt.invocationId
  | _ => True

instance (v : View) : (a : CoreAction) → Decidable (v.FirstToIssue a)
  | .call i _ => inferInstanceAs (Decidable (∀ c ∈ v.calls[i]?, takesIds c = true →
      ∀ rt ∈ v.runtime, (v.issuedOn rt.connection).length = rt.invocationId))
  | .op _ | .newCall .. | .roomDropped _ | .cancelHandle _ | .dropHandle _ | .handle ..
  | .produce .. | .upload .. | .receive .. | .cancelStream _ => .isTrue trivial

end View

/-! ## The invariant -/

/-- The ids handed out, the ids of the calls, the entries of the pending table and the log agree. -/
structure IdInvariant (v : View) : Prop where
  /-- The ids of a connection are the first ones of a counter. -/
  issued : ∀ k, ∃ n, v.issuedOn k = idsUpTo n
  nodup : v.log.issued.Nodup
  /-- The id of a call was handed out on its connection. -/
  id_issued : ∀ (i : ℕ) c id, v.calls[i]? = some c → c.id = some id →
    ∃ k, c.idConnection = some k ∧ (k, id) ∈ v.log.issued
  /-- No id of a connection is given to two calls. -/
  distinct : ∀ (i j : ℕ) c d id, v.calls[i]? = some c → v.calls[j]? = some d → c.id = some id →
    d.id = some id → c.idConnection = d.idConnection → i = j
  /-- An entry was registered by the call it is for, under the id of that call. -/
  entry : ∀ e ∈ v.pending, ∃ c, v.calls[e.2.tx]? = some c ∧ c.id = some e.1 ∧ c.registered = true
  invoked : ∀ e ∈ v.log.invoked, ∃ c, v.calls[e.2]? = some c ∧ c.id = some e.1
  delivered : ∀ e ∈ v.log.delivered, ∃ c, v.calls[e.2]? = some c ∧ c.id = some e.1
  overwritten : (∃ k, ∀ e ∈ v.log.issued, e.1 = k) → v.log.overwritten = []

namespace IdInvariant

variable {v v' : View} {a : CoreAction} {i : ℕ} {c c' : Call}

/-- On a single connection, calls with the same id are the same. -/
lemma eq_of_id (h : IdInvariant v) {k : ℕ} (hk : ∀ e ∈ v.log.issued, e.1 = k) {i j : ℕ} {c d : Call}
    {id : String} (hi : v.calls[i]? = some c) (hj : v.calls[j]? = some d) (hc : c.id = some id)
    (hd : d.id = some id) : i = j := by
  obtain ⟨k₁, hk₁, hm₁⟩ := h.id_issued i c id hi hc
  obtain ⟨k₂, hk₂, hm₂⟩ := h.id_issued j d id hj hd
  refine h.distinct i j c d id hi hj hc hd ?_
  rw [hk₁, hk₂]
  exact congrArg some ((hk _ hm₁).trans (hk _ hm₂).symm)

/-- A change of the log that the invariant does not mention. -/
lemma congr_log (h : IdInvariant v) {log : Log} (hi : log.issued = v.log.issued)
    (hin : log.invoked = v.log.invoked) (hd : log.delivered = v.log.delivered)
    (ho : log.overwritten = v.log.overwritten) : IdInvariant { v with log := log } where
  issued k := by simpa [View.issuedOn, hi] using h.issued k
  nodup := by simpa [hi] using h.nodup
  id_issued := by simpa [hi] using h.id_issued
  distinct := h.distinct
  entry := h.entry
  invoked := by simpa [hin] using h.invoked
  delivered := by simpa [hd] using h.delivered
  overwritten := by simpa [hi, ho] using h.overwritten

/-- Entries are removed. -/
lemma pending_subset (h : IdInvariant v) {pending : PendingTable}
    (hp : ∀ e ∈ pending, e ∈ v.pending) :
    IdInvariant { v with pending := pending } :=
  { h with entry := fun e he => h.entry e (hp e he) }

/-- An id is removed from the table. -/
lemma erase (h : IdInvariant v) (id : String) :
    IdInvariant { v with pending := v.pending.erase id } :=
  h.pending_subset fun _ he => (PendingTable.mem_erase.mp he).1

/-- A call goes on with its id. -/
lemma setCall (h : IdInvariant v) (hi : v.calls[i]? = some c) (hid : c'.id = c.id)
    (hconn : c'.idConnection = c.idConnection) (hreg : c.registered = true → c'.registered = true) :
    IdInvariant (v.setCall i c') := by
  -- the call at each place before the step, with the same id
  have hback : ∀ {j : ℕ} {d : Call}, (v.setCall i c').calls[j]? = some d →
      ∃ d₀ : Call, v.calls[j]? = some d₀ ∧ d.id = d₀.id ∧ d.idConnection = d₀.idConnection := by
    intro j d hd
    rcases View.getElem?_setCall hd with ⟨rfl, rfl⟩ | ⟨-, hd⟩
    · exact ⟨c, hi, hid, hconn⟩
    · exact ⟨d, hd, rfl, rfl⟩
  have hforth : ∀ {j : ℕ} {d : Call}, v.calls[j]? = some d →
      ∃ d' : Call, (v.setCall i c').calls[j]? = some d' ∧ d'.id = d.id ∧
        (d.registered = true → d'.registered = true) := by
    intro j d hd
    by_cases hj : j = i
    · subst hj
      obtain rfl : c = d := by simpa [hi] using hd
      exact ⟨c', View.getElem?_setCall_self hi, hid, hreg⟩
    · exact ⟨d, by rwa [View.getElem?_setCall_ne hj], rfl, fun hr => hr⟩
  refine ⟨h.issued, h.nodup, ?_, ?_, ?_, ?_, ?_, h.overwritten⟩
  · intro j d id hd hdid
    obtain ⟨d₀, hd₀, hid₀, hc₀⟩ := hback hd
    rw [hc₀]
    exact h.id_issued j d₀ id hd₀ (hid₀ ▸ hdid)
  · intro j₁ j₂ d₁ d₂ id hd₁ hd₂ hid₁ hid₂ hcc
    obtain ⟨e₁, he₁, hi₁, hc₁⟩ := hback hd₁
    obtain ⟨e₂, he₂, hi₂, hc₂⟩ := hback hd₂
    exact h.distinct j₁ j₂ e₁ e₂ id he₁ he₂ (hi₁ ▸ hid₁) (hi₂ ▸ hid₂) (by rw [← hc₁, ← hc₂, hcc])
  · intro e he
    obtain ⟨d, hd, hdid, hdr⟩ := h.entry e he
    obtain ⟨d', hd', hid', hr'⟩ := hforth hd
    exact ⟨d', hd', hid'.trans hdid, hr' hdr⟩
  · intro e he
    obtain ⟨d, hd, hdid⟩ := h.invoked e he
    obtain ⟨d', hd', hid', -⟩ := hforth hd
    exact ⟨d', hd', hid'.trans hdid⟩
  · intro e he
    obtain ⟨d, hd, hdid⟩ := h.delivered e he
    obtain ⟨d', hd', hid', -⟩ := hforth hd
    exact ⟨d', hd', hid'.trans hdid⟩

/-- The runtime does not matter. -/
lemma set_runtime (h : IdInvariant v) (runtime : Option HubRuntime) :
    IdInvariant { v with runtime := runtime } := { h with }

/-- Ids are handed out in order: they are new, and the connection has counted one more of them. -/
lemma issue (h : IdInvariant v) {k n : ℕ} {ids : List String}
    (hcount : (v.issuedOn k).length = n) {m : ℕ} (hids : idsUpTo n ++ ids = idsUpTo m)
    (runtime : Option HubRuntime) :
    IdInvariant
      { v with
        runtime := runtime
        log := { v.log with issued := v.log.issued ++ ids.map fun id => (k, id) } } := by
  have hk : v.issuedOn k = idsUpTo n := by
    obtain ⟨l, hl⟩ := h.issued k
    rw [hl, length_idsUpTo] at hcount
    rw [hl, hcount]
  have hnodup : (idsUpTo n ++ ids).Nodup := hids ▸ nodup_idsUpTo m
  refine ⟨?_, ?_, ?_, h.distinct, h.entry, h.invoked, h.delivered, ?_⟩
  · intro j
    by_cases hj : j = k
    · subst hj
      refine ⟨m, ?_⟩
      rw [← hids, ← hk]
      simp [View.issuedOn, List.filter_map, Function.comp_def]
    · obtain ⟨l, hl⟩ := h.issued j
      have hkj : k ≠ j := fun e => hj e.symm
      refine ⟨l, ?_⟩
      rw [← hl]
      simp [View.issuedOn, List.filter_map, Function.comp_def, hkj]
  · refine List.nodup_append'.mpr ⟨h.nodup, ?_, ?_⟩
    · exact (List.nodup_append.mp hnodup).2.1.map fun a b hab => (Prod.mk.inj hab).2
    · -- an id of the connection is one of the first `n`
      rintro e he hnew
      obtain ⟨id, hid, rfl⟩ := List.mem_map.mp hnew
      have hold : id ∈ v.issuedOn k := List.mem_map.mpr ⟨(k, id), by simp [he], rfl⟩
      rw [hk] at hold
      exact (List.nodup_append.mp hnodup).2.2 id hold id hid rfl
  · intro i c id hi hid
    obtain ⟨j, hj, hm⟩ := h.id_issued i c id hi hid
    exact ⟨j, hj, List.mem_append_left _ hm⟩
  · rintro ⟨j, hj⟩
    exact h.overwritten ⟨j, fun e he => hj e (List.mem_append_left _ he)⟩

/-- A call without an id gets one that no other call of the connection has. -/
lemma setId (h : IdInvariant v) (hi : v.calls[i]? = some c) (hnone : c.id = none) {k : ℕ}
    {id : String} (hmem : (k, id) ∈ v.log.issued)
    (hnew : ∀ (j : ℕ) d, v.calls[j]? = some d → d.id = some id → d.idConnection ≠ some k)
    (hid : c'.id = some id) (hconn : c'.idConnection = some k) : IdInvariant (v.setCall i c') := by
  have hne : ∀ {j : ℕ} {d : Call} {x : String}, v.calls[j]? = some d → d.id = some x → j ≠ i := by
    rintro j d x hd hdid rfl
    obtain rfl : c = d := by simpa [hi] using hd
    simp [hnone] at hdid
  refine ⟨h.issued, h.nodup, ?_, ?_, ?_, ?_, ?_, h.overwritten⟩
  · intro j d x hd hdx
    rcases View.getElem?_setCall hd with ⟨-, rfl⟩ | ⟨-, hd⟩
    · obtain rfl : id = x := by simpa [hid] using hdx
      exact ⟨k, hconn, hmem⟩
    · exact h.id_issued j d x hd hdx
  · intro j₁ j₂ d₁ d₂ x hd₁ hd₂ hx₁ hx₂ hcc
    rcases View.getElem?_setCall hd₁ with ⟨rfl, rfl⟩ | ⟨-, he₁⟩ <;>
      rcases View.getElem?_setCall hd₂ with ⟨hj, he₂⟩ | ⟨-, he₂⟩
    · exact hj.symm
    · obtain rfl : id = x := by simpa [hid] using hx₁
      exact absurd (hcc.symm.trans hconn) (hnew j₂ d₂ he₂ hx₂)
    · subst he₂
      obtain rfl : id = x := by simpa [hid] using hx₂
      exact absurd (hcc.trans hconn) (hnew j₁ d₁ he₁ hx₁)
    · exact h.distinct j₁ j₂ d₁ d₂ x he₁ he₂ hx₁ hx₂ hcc
  · intro e he
    obtain ⟨d, hd, hdid, hdr⟩ := h.entry e he
    exact ⟨d, by rwa [View.getElem?_setCall_ne (hne hd hdid)], hdid, hdr⟩
  · intro e he
    obtain ⟨d, hd, hdid⟩ := h.invoked e he
    exact ⟨d, by rwa [View.getElem?_setCall_ne (hne hd hdid)], hdid⟩
  · intro e he
    obtain ⟨d, hd, hdid⟩ := h.delivered e he
    exact ⟨d, by rwa [View.getElem?_setCall_ne (hne hd hdid)], hdid⟩

/-- The invariant holds initially. -/
lemma init : IdInvariant Core.new.view where
  issued _ := ⟨0, rfl⟩
  nodup := List.nodup_nil
  id_issued := by simp [Core.new, Core.view]
  distinct := by simp [Core.new, Core.view]
  entry := by simp [Core.new, Core.view]
  invoked := by simp [Core.new, Core.view]
  delivered := by simp [Core.new, Core.view]
  overwritten _ := rfl

/-- A new call has no id. -/
lemma newCall (h : IdInvariant v) (kind : CallKind) (target : String)
    (arguments : List HubArgument) :
    IdInvariant { v with calls := v.calls ++ [.new kind target arguments] } := by
  have hold : ∀ {j : ℕ} {d : Call} {x : String},
      (v.calls ++ [Call.new kind target arguments])[j]? = some d → d.id = some x →
        v.calls[j]? = some d := by
    intro j d x hd hdx
    rcases getElem?_newCall hd with ⟨rfl, -⟩ | hd
    · simp [Call.new] at hdx
    · exact hd
  have hkeep : ∀ {j : ℕ} {d : Call}, v.calls[j]? = some d →
      (v.calls ++ [Call.new kind target arguments])[j]? = some d := by
    intro j d hd
    rw [List.getElem?_append_left (List.getElem?_eq_some_iff.mp hd).1]
    exact hd
  refine ⟨h.issued, h.nodup, ?_, ?_, ?_, ?_, ?_, h.overwritten⟩
  · intro j d x hd hdx
    exact h.id_issued j d x (hold hd hdx) hdx
  · intro j₁ j₂ d₁ d₂ x hd₁ hd₂ hx₁ hx₂ hcc
    exact h.distinct j₁ j₂ d₁ d₂ x (hold hd₁ hx₁) (hold hd₂ hx₂) hx₁ hx₂ hcc
  · intro e he
    obtain ⟨d, hd, hrest⟩ := h.entry e he
    exact ⟨d, hkeep hd, hrest⟩
  · intro e he
    obtain ⟨d, hd, hrest⟩ := h.invoked e he
    exact ⟨d, hkeep hd, hrest⟩
  · intro e he
    obtain ⟨d, hd, hrest⟩ := h.delivered e he
    exact ⟨d, hkeep hd, hrest⟩

/-- The upload streams of a call get ids. -/
lemma takeStreamIds (h : IdInvariant v) {outcome : Except Error Unit} {rt : HubRuntime}
    (hok : v.FirstToIssue (.call i outcome)) (hi : v.calls[i]? = some c)
    (hpc : c.pc = .takeStreamIds) (hrt : v.runtime = some rt) {values : List Value}
    {ids : List String} {counter : ℕ}
    (hr : replaceStreamingParams c.arguments rt.invocationId = (values, ids, counter)) :
    IdInvariant
      { v with
        runtime := some { rt with invocationId := counter }
        log := { v.log with
          issued := v.log.issued ++ ids.map fun id => (rt.connection, id) } } := by
  have hids := idsUpTo_replaceStreamingParams c.arguments rt.invocationId
  rw [hr] at hids
  by_cases hnil : ids = []
  · subst hnil
    simpa using h.set_runtime (some { rt with invocationId := counter })
  · have hlen := length_replaceStreamingParams c.arguments 0 rt.invocationId
    rw [hr] at hlen
    have htakes : View.takesIds c = true := by
      have hpos := List.length_pos_of_ne_nil hnil
      simp only [View.takesIds, hpc, Bool.not_eq_true', List.isEmpty_eq_false_iff]
      apply List.ne_nil_of_length_pos
      rw [hlen]
      exact hpos
    exact h.issue (hok c hi htakes rt hrt) hids _

/-- A registration replaces no entry, because no other call of the connection has its id. -/
lemma register (h : IdInvariant v) (hi : v.calls[i]? = some c) (hpc : c.pc = .register)
    {id : String} (hid : c.id = some id) {p : PendingInvocation} (hp : p.tx = i)
    (hc' : c'.id = c.id)
    (hconn : c'.idConnection = c.idConnection) (hreg : c'.registered = true) :
    IdInvariant
      (View.setCall
        { v with
          pending := v.pending.insert id p
          log := { v.log with
            overwritten := v.log.overwritten ++ v.pending.entries id } } i c') := by
  have hset := h.setCall hi hc' hconn fun _ => hreg
  refine { hset with entry := ?_, overwritten := ?_ }
  · intro e he
    rcases PendingTable.mem_insert.mp he with ⟨he, -⟩ | rfl
    · exact hset.entry e he
    · rw [hp]
      exact ⟨c', View.getElem?_setCall_self hi, hc'.trans hid, hreg⟩
  · rintro ⟨k, hk⟩
    have hnil : v.pending.entries id = [] := by
      refine List.eq_nil_iff_forall_not_mem.mpr fun e he => ?_
      obtain ⟨hmem, rfl⟩ := PendingTable.mem_entries.mp he
      obtain ⟨d, hd, hdid, hdr⟩ := h.entry e hmem
      obtain rfl := h.eq_of_id hk hi hd hid hdid
      obtain rfl : c = d := by simpa [hi] using hd
      simp [Call.registered, hpc] at hdr
    show v.log.overwritten ++ v.pending.entries id = []
    rw [hnil, List.append_nil]
    exact h.overwritten ⟨k, hk⟩

/-- The id of a call is taken from the runtime. -/
lemma takeId (h : IdInvariant v) (hwf : v.WellFormed) {outcome : Except Error Unit}
    {rt : HubRuntime} (hok : v.FirstToIssue (.call i outcome)) (hi : v.calls[i]? = some c)
    (hpc : c.pc = .takeId)
    (hrt : v.runtime = some rt) :
    IdInvariant
      (View.setCall
        { v with
          runtime := some { rt with invocationId := rt.invocationId + 1 }
          log := { v.log with
            issued := v.log.issued ++ [(rt.connection, toString (rt.invocationId + 1))] } }
        i { c with
          id := some (toString (rt.invocationId + 1))
          idConnection := some rt.connection
          pc := .register }) := by
  have hissue := h.issue (hok c hi (by simp [View.takesIds, hpc]) rt hrt)
    (idsUpTo_succ rt.invocationId).symm (some { rt with invocationId := rt.invocationId + 1 })
  refine hissue.setId hi ((hwf i c hi).early (by simp [Call.early, hpc]))
    (List.mem_append_right _ (List.mem_singleton_self _)) ?_ rfl rfl
  -- the id was not handed out before
  intro j d hd hdid hdk
  obtain ⟨k, hk, hm⟩ := h.id_issued j d _ hd hdid
  obtain rfl : k = rt.connection := by simpa [hk] using hdk
  exact (List.nodup_append.mp hissue.nodup).2.2 _ hm _ (List.mem_singleton_self _) rfl

/-- **Steps keep the invariant** when ids are taken from a runtime that has counted them all. -/
theorem step (hwf : v.WellFormed) (h : IdInvariant v) (hok : v.FirstToIssue a)
    (hstep : ViewStep v a v') : IdInvariant v' := by
  cases hstep with
  | keep => exact h
  | cancelAllPending => exact h.pending_subset (by simp)
  | storeRuntime | takeRuntime => exact h.set_runtime _
  | newCall kind target arguments => exact h.newCall kind target arguments
  | quiet _ hi hq =>
    have hq := hq (hwf _ _ hi)
    exact h.setCall hi hq.id hq.idConnection hq.registered
  | takeStreamIds _ hi hpc hrt hr hnew =>
    refine (h.takeStreamIds hok hi hpc hrt hr).setCall hi rfl rfl ?_
    simp [Call.registered, hpc]
  | takeId _ hi hpc hrt => exact h.takeId hwf hok hi hpc hrt
  | register _ hi hpc hid hp hh => exact h.register hi hpc hid hp rfl rfl rfl
  | @sendThrough i _ c rt hi hpc hrt pc hnew =>
    have hreg : ({ c with sentOn := some rt.connection, pc := pc } : Call).registered = true := by
      rcases hnew with ⟨e, rfl⟩ | rfl | ⟨b, rfl⟩
      · cases hci : c.id <;> simp [Core.failedPc, Call.registered, hci]
      · rfl
      · rfl
    have hset : IdInvariant (v.setCall i { c with sentOn := some rt.connection, pc := pc }) :=
      h.setCall hi rfl rfl fun _ => hreg
    refine { hset with invoked := fun e he => ?_ }
    rcases List.mem_append.mp he with he | he
    · exact hset.invoked e he
    · obtain ⟨id, hid, rfl⟩ := Option.map_eq_some_iff.mp (Option.mem_toList.mp he)
      exact ⟨_, View.getElem?_setCall_self hi, hid⟩
  | cleanup _ hi hpc hh => exact (h.erase _).setCall hi rfl rfl fun _ => rfl
  | @handleRemove i _ c _ hi hc hnew =>
    refine setCall ?_ hi rfl rfl fun hr => hr
    exact (h.erase (c.id.getD "")).congr_log rfl rfl rfl rfl
  | handleSend _ hi hc hrt hnew =>
    refine setCall ?_ hi rfl rfl fun hr => hr
    exact h.congr_log rfl rfl rfl rfl
  | upload _ hi hup hrt hcmd =>
    refine setCall ?_ hi rfl rfl fun hr => hr
    exact h.congr_log rfl rfl rfl rfl
  | receive b message outcome hp hd =>
    refine { h.pending_subset hp with delivered := fun e he => ?_ }
    rcases List.mem_append.mp he with he | he
    · exact h.delivered e he
    · obtain ⟨p, hp, htx⟩ := hd e he
      obtain ⟨c, hc, hcid, -⟩ := h.entry _ hp
      exact ⟨c, htx ▸ hc, hcid⟩
  | cancelStream id => exact h.erase id

end IdInvariant

/-! ## Runs -/

/-- **Ids are unique**: in every run in which ids are only taken from a runtime none of whose
predecessors has handed out ids on the same connection, the ids of a connection are different; and
when the run is on one connection, no registration replaces an entry, and what is delivered for an
id is delivered to the call that sent the invocation with that id. -/
theorem ids_unique_of_firstToIssue {options : ConnectionOptions} {as : List Action} {w : World}
    (hrun : (World.system options).run as = some w)
    (hm : (World.system options).Meets
      (World.OnCore options fun c => c.view.FirstToIssue) as) :
    w.core.log.issued.Nodup ∧
      ∀ k, (∀ e ∈ w.core.log.issued, e.1 = k) →
        w.core.log.overwritten = [] ∧
          ∀ id tx i, (id, tx) ∈ w.core.log.delivered → (id, i) ∈ w.core.log.invoked → tx = i := by
  have h := (World.view_invariant IdInvariant.init
    (fun v a v' hwf hI hok hstep => IdInvariant.step hwf hI hok hstep) hrun hm).2
  refine ⟨h.nodup, fun k hk => ⟨h.overwritten ⟨k, hk⟩, ?_⟩⟩
  intro id tx i hd hi
  obtain ⟨c, hc, hcid⟩ := h.delivered _ hd
  obtain ⟨d, hdc, hdid⟩ := h.invoked _ hi
  exact h.eq_of_id hk hc hdc hcid hdid

/-- `ids_unique_of_firstToIssue` applies to a connection with two invocations. -/
theorem ids_unique_of_two_calls :
    ∃ w, (World.system .plain).run
        (World.startRun .resumable ++ World.callRun 0 6 .invoke [] ++
          World.callRun 1 6 .invoke []) = some w ∧
      w.core.log.issued = [(0, "1"), (0, "2")] ∧ w.core.log.issued.Nodup ∧
      w.core.log.overwritten = [] := by
  obtain ⟨w, hw, hissued⟩ := Option.map_eq_some_iff.mp (show ((World.system .plain).run
    (World.startRun .resumable ++ World.callRun 0 6 .invoke [] ++
      World.callRun 1 6 .invoke [])).map (fun w => w.core.log.issued) = some [(0, "1"), (0, "2")]
    by rfl)
  have hunique := ids_unique_of_firstToIssue hw (by decide +kernel)
  exact ⟨w, hw, hissued, hunique.1, (hunique.2 0 (by simp [hissued])).1⟩

/-- **Ids are reused**: an invocation waits for its answer, the transport drops and is resumed, and
the next invocation on the same connection gets the same id and replaces the entry of the first. -/
theorem ids_reused :
    ¬ ∀ (options : ConnectionOptions) (as : List Action) (w : World),
      (World.system options).run as = some w →
        w.core.log.issued.Nodup ∧
          ∀ k, (∀ e ∈ w.core.log.issued, e.1 = k) →
            w.core.log.overwritten = [] ∧
              ∀ id tx i, (id, tx) ∈ w.core.log.delivered → (id, i) ∈ w.core.log.invoked →
                tx = i := by
  intro h
  obtain ⟨w, hw, hlog⟩ := Option.map_eq_some_iff.mp (show ((World.system .plain).run
    (World.startRun .resumable ++ World.callRun 0 6 .invoke [] ++
      World.supervisorRun 9 .dropped ++ World.callRun 1 4 .invoke [])).map
        (fun w => (w.core.log.issued, w.core.log.overwritten)) =
      some ([(0, "1"), (0, "1")], [("1", .single 0)]) by rfl)
  obtain ⟨hissued, hover⟩ := Prod.mk.inj hlog
  have hnil := ((h _ _ w hw).2 0 (by simp [hissued])).1
  simp [hover] at hnil

end Signalrr.HubConnection
