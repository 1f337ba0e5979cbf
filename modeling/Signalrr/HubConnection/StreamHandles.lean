import Signalrr.HubConnection.CallSteps

set_option relaxedAutoImplicit false
set_option autoImplicit false

/-!
# Stream handles

A `HubMethodStream`, `src/hub_connection/stream.rs`, knows its call only by an id. When it is
cancelled or dropped it removes the entry with this id from the pending table, and if there was one
it sends a `CancelInvocation` through the runtime of that moment. Since the id counter starts over
with every runtime, the entry can belong to another call, and since the runtime is replaced, the
message can go to another connection.

## Main definitions

* `Signalrr.HubConnection.View.HandlesApart` — the condition on a step: ids that are still held are
  not handed out again, and a runtime of another connection is only stored when the handles have
  nothing left to cancel.
* `Signalrr.HubConnection.Call.Detached` — the call is not running on the current connection.
* `Signalrr.HubConnection.HandleInvariant` — what the handles, the table and the runtime have to do
  with each other.

## Main results

* `Signalrr.HubConnection.handles_act_on_own_calls` — handles act on their own calls in every run
  whose steps meet the condition.
* `Signalrr.HubConnection.handle_acts_on_other_call` — they do not in general: a reconnect is
  enough.
-/

namespace Signalrr.HubConnection

open Hub

/-! ## The condition -/

namespace View

/-- The call has an entry in the table, or its handle is about to send `CancelInvocation`. -/
def cancellable (v : View) (c : Call) : Bool :=
  c.cancels || v.pending.any fun e => c.id = some e.1

/-- The condition on a step: an id that is handed out to a call is not held by another one, and when
a runtime is stored, no call that holds its id and was sent on another connection is cancellable. -/
def HandlesApart (v : View) : CoreAction → Prop
  | .call i _ => ∀ c ∈ v.calls[i]?, c.pc = .takeId → ∀ rt ∈ v.runtime, ∀ d ∈ v.calls,
      d.holdsId = true → d.id ≠ some (toString (rt.invocationId + 1))
  | .op (.storeRuntime connection _ _ _) => ∀ c ∈ v.calls, c.holdsId = true →
      ∀ k ∈ c.sentOn, k ≠ connection → v.cancellable c = false
  | _ => True

instance (v : View) : (a : CoreAction) → Decidable (v.HandlesApart a)
  | .call i _ => inferInstanceAs (Decidable (∀ c ∈ v.calls[i]?, c.pc = .takeId → ∀ rt ∈ v.runtime,
      ∀ d ∈ v.calls, d.holdsId = true → d.id ≠ some (toString (rt.invocationId + 1))))
  | .op (.storeRuntime connection _ _ _) => inferInstanceAs (Decidable (∀ c ∈ v.calls,
      c.holdsId = true → ∀ k ∈ c.sentOn, k ≠ connection → v.cancellable c = false))
  | .op (.control _) | .op (.cancelAllPending _) | .op .takeRuntime | .op (.storeBuffer _)
  | .op .clearBuffer | .op (.disconnectBuffer _) | .op (.shutdownRuntime ..)
  | .op (.closeTransport _) | .op .connect | .op .reopen
  | .newCall .. | .roomDropped _ | .cancelHandle _ | .dropHandle _ | .handle .. | .produce ..
  | .upload .. | .receive .. | .cancelStream _ => .isTrue trivial

end View

/-! ## The invariant -/

/-- The call is not running on the current connection: it has returned without being sent, or was
sent on another one. -/
def Call.Detached (c : Call) (runtime : Option HubRuntime) : Prop :=
  (c.sentOn = none ∧ ∃ e, c.pc = .returned e) ∨
    ∃ k rt, c.sentOn = some k ∧ runtime = some rt ∧ k ≠ rt.connection

/-- Of the runtime, only its connection matters. -/
lemma Call.Detached.congr {c : Call} {runtime runtime' : Option HubRuntime}
    (hrt : runtime'.map HubRuntime.connection = runtime.map HubRuntime.connection)
    (h : c.Detached runtime') : c.Detached runtime := by
  rcases h with h | ⟨k, rt, hk, rfl, hne⟩
  · exact .inl h
  · obtain ⟨rt', hrt', heq⟩ := Option.map_eq_some_iff.mp hrt.symm
    exact .inr ⟨k, rt', hk, hrt', heq ▸ hne⟩

/-- What handles rely on. -/
structure HandleInvariant (v : View) : Prop where
  /-- No id is held twice. -/
  distinct : ∀ (i j : ℕ) c d, v.calls[i]? = some c → v.calls[j]? = some d → c.holdsId = true →
    d.holdsId = true → c.id = d.id → i = j
  /-- An entry under an id that is held is the one of its holder. -/
  entry : ∀ (i : ℕ) c, v.calls[i]? = some c → c.holdsId = true → c.registered = true →
    ∀ e ∈ v.pending, c.id = some e.1 → e.2.tx = i
  /-- A holder that is not running on the current connection has nothing left to cancel. -/
  detached : ∀ (i : ℕ) c, v.calls[i]? = some c → c.holdsId = true → c.Detached v.runtime →
    v.cancellable c = false
  removals : ∀ e ∈ v.log.removals, e.2 = e.1
  cancels : ∀ e ∈ v.log.cancels, ∃ c, v.calls[e.1]? = some c ∧ c.sentOn = some e.2

namespace HandleInvariant

variable {v v' : View} {a : CoreAction} {i : ℕ} {c c' : Call}

/-- What is left of the table is cancellable only if it was before. -/
lemma cancellable_of_subset {pending : PendingTable} (hp : ∀ e ∈ pending, e ∈ v.pending)
    (h : v.cancellable c = false) : View.cancellable { v with pending := pending } c = false := by
  simp only [View.cancellable, Bool.or_eq_false_iff, List.any_eq_false] at h ⊢
  exact ⟨h.1, fun e he => h.2 e (hp e he)⟩

/-- Entries are removed. -/
lemma pending_subset (h : HandleInvariant v) {pending : PendingTable}
    (hp : ∀ e ∈ pending, e ∈ v.pending) : HandleInvariant { v with pending := pending } where
  distinct := h.distinct
  entry i c hi hc hr e he := h.entry i c hi hc hr e (hp e he)
  detached i c hi hc hd := cancellable_of_subset hp (h.detached i c hi hc hd)
  removals := h.removals
  cancels := h.cancels

/-- **A step of one call.** The other holders keep their ids and entries, because no id is held
twice. -/
lemma set (h : HandleInvariant v) (hi : v.calls[i]? = some c) (pending : PendingTable)
    (runtime : Option HubRuntime) (log : Log)
    (hrt : runtime.map HubRuntime.connection = v.runtime.map HubRuntime.connection)
    (hp : ∀ e ∈ pending, e ∈ v.pending ∨ c.holdsId = true ∧ c.id = some e.1)
    (hid : c'.holdsId = true → c.holdsId = true ∧ c'.id = c.id ∨
      ∀ d ∈ v.calls, d.holdsId = true → d.id ≠ c'.id)
    (hentry : c'.holdsId = true → c'.registered = true →
      ∀ e ∈ pending, c'.id = some e.1 → e.2.tx = i)
    (hdetached : c'.holdsId = true → c'.Detached v.runtime →
      View.cancellable { v with pending := pending } c' = false)
    (hsent : ∀ k, c.sentOn = some k → c'.sentOn = some k)
    (hremovals : ∀ e ∈ log.removals, e ∈ v.log.removals ∨ e.2 = e.1)
    (hcancels : ∀ e ∈ log.cancels, e ∈ v.log.cancels ∨ e.1 = i ∧ c'.sentOn = some e.2) :
    HandleInvariant
      (View.setCall { v with pending := pending, runtime := runtime, log := log } i c') := by
  -- an entry under an id that another call holds was there before
  have hold : ∀ {j : ℕ} {d : Call} {e}, j ≠ i → v.calls[j]? = some d → d.holdsId = true →
      e ∈ pending → d.id = some e.1 → e ∈ v.pending := by
    intro j d e hj hd hdh he hde
    rcases hp e he with he | ⟨hch, hce⟩
    · exact he
    · exact absurd (h.distinct j i d c hd hi hdh hch (hde.trans hce.symm)) hj
  refine ⟨?_, ?_, ?_, fun e he => (hremovals e he).elim (h.removals e) id, ?_⟩
  · intro j₁ j₂ d₁ d₂ hd₁ hd₂ hh₁ hh₂ hids
    rcases View.getElem?_setCall hd₁ with ⟨rfl, rfl⟩ | ⟨hj₁, he₁⟩ <;>
      rcases View.getElem?_setCall hd₂ with ⟨hj₂, he₂⟩ | ⟨hj₂, he₂⟩
    · exact hj₂.symm
    · rcases hid hh₁ with ⟨hch, hcid⟩ | hnew
      · exact h.distinct _ _ c d₂ hi he₂ hch hh₂ (hcid ▸ hids)
      · exact absurd hids.symm (hnew d₂ (List.mem_of_getElem? he₂) hh₂)
    · subst he₂
      rcases hid hh₂ with ⟨hch, hcid⟩ | hnew
      · rw [hj₂]
        exact h.distinct _ _ d₁ c he₁ hi hh₁ hch (hids.trans hcid)
      · exact absurd hids (hnew d₁ (List.mem_of_getElem? he₁) hh₁)
    · exact h.distinct _ _ d₁ d₂ he₁ he₂ hh₁ hh₂ hids
  · intro j d hd hdh hdr e he hde
    rcases View.getElem?_setCall hd with ⟨rfl, rfl⟩ | ⟨hj, hd⟩
    · exact hentry hdh hdr e he hde
    · exact h.entry j d hd hdh hdr e (hold hj hd hdh he hde) hde
  · intro j d hd hdh hdet
    have hdet₀ : d.Detached v.runtime := hdet.congr hrt
    rcases View.getElem?_setCall hd with ⟨rfl, rfl⟩ | ⟨hj, hd⟩
    · exact hdetached hdh hdet₀
    · have hc := h.detached j d hd hdh hdet₀
      simp only [View.cancellable, Bool.or_eq_false_iff, List.any_eq_false, decide_eq_true_eq]
        at hc ⊢
      exact ⟨hc.1, fun e he hde => hc.2 e (hold hj hd hdh he hde) hde⟩
  · intro e he
    rcases hcancels e he with he | ⟨rfl, hs⟩
    · obtain ⟨d, hd, hds⟩ := h.cancels e he
      by_cases hj : e.1 = i
      · subst hj
        obtain rfl : c = d := by simpa [hi] using hd
        exact ⟨c', View.getElem?_setCall_self hi, hsent _ hds⟩
      · exact ⟨d, by rwa [View.getElem?_setCall_ne hj], hds⟩
    · exact ⟨c', View.getElem?_setCall_self hi, hs⟩

/-- A call goes on that keeps its id, its connection and its entry. -/
lemma setCall (h : HandleInvariant v) (hi : v.calls[i]? = some c) (runtime : Option HubRuntime)
    (log : Log) (hrt : runtime.map HubRuntime.connection = v.runtime.map HubRuntime.connection)
    (hid : c'.holdsId = true → c.holdsId = true ∧ c'.id = c.id ∧
      (c'.registered = true → c.registered = true) ∧
      (c'.Detached v.runtime → c.Detached v.runtime) ∧ (c'.cancels = true → c.cancels = true))
    (hsent : ∀ k, c.sentOn = some k → c'.sentOn = some k)
    (hremovals : log.removals = v.log.removals) (hcancels : log.cancels = v.log.cancels) :
    HandleInvariant (View.setCall { v with runtime := runtime, log := log } i c') := by
  refine h.set hi v.pending runtime log hrt (fun e he => .inl he) ?_ ?_ ?_ hsent
    (fun e he => .inl (hremovals ▸ he)) (fun e he => .inl (hcancels ▸ he))
  · intro hh
    obtain ⟨hch, hcid, -⟩ := hid hh
    exact .inl ⟨hch, hcid⟩
  · intro hh hr e he hce
    obtain ⟨hch, hcid, hreg, -⟩ := hid hh
    exact h.entry i c hi hch (hreg hr) e he (hcid ▸ hce)
  · intro hh hdet
    obtain ⟨hch, hcid, -, hd, hcan⟩ := hid hh
    have hc := h.detached i c hi hch (hd hdet)
    simp only [View.cancellable, Bool.or_eq_false_iff] at hc ⊢
    rw [hcid]
    exact ⟨by_contra fun hne => by simp [hcan (by simpa using hne)] at hc, hc.2⟩

/-- A call goes on quietly. -/
lemma setQuiet (h : HandleInvariant v) (hi : v.calls[i]? = some c) (hq : c.Quiet c') :
    HandleInvariant (v.setCall i c') := by
  refine h.setCall hi v.runtime v.log rfl ?_ (fun k hk => hq.sentOn.trans hk) rfl rfl
  intro hh
  refine ⟨hq.holdsId hh, hq.id, hq.held hh, ?_, hq.cancels⟩
  rintro (⟨hs, hr⟩ | ⟨k, rt, hk, hrt, hne⟩)
  · exact .inl ⟨hq.sentOn ▸ hs, hq.returned hh hs hr⟩
  · exact .inr ⟨k, rt, hq.sentOn ▸ hk, hrt, hne⟩

/-- The id of a call is taken from the runtime. -/
lemma takeId (h : HandleInvariant v) {outcome : Except Error Unit} {rt : HubRuntime}
    (hwf : v.WellFormed) (hok : v.HandlesApart (.call i outcome)) (hi : v.calls[i]? = some c)
    (hpc : c.pc = .takeId) (hrt : v.runtime = some rt) (log : Log)
    (hremovals : log.removals = v.log.removals) (hcancels : log.cancels = v.log.cancels) :
    HandleInvariant
      (View.setCall
        { v with runtime := some { rt with invocationId := rt.invocationId + 1 }, log := log }
        i { c with
          id := some (toString (rt.invocationId + 1))
          idConnection := some rt.connection
          pc := .register }) := by
  have hnone := (hwf i c hi).unsent (by simp [Call.unsent, hpc])
  refine h.set hi v.pending _ log (by simp [hrt]) (fun e he => .inl he) ?_ ?_ ?_ (fun k hk => hk)
    (fun e he => .inl (hremovals ▸ he)) (fun e he => .inl (hcancels ▸ he))
  · exact fun _ => .inr (hok c hi hpc rt hrt)
  · intro _ hr
    simp [Call.registered] at hr
  · rintro - (⟨-, e, he⟩ | ⟨k, rt', hk, -⟩)
    · cases he
    · simp [hnone.1] at hk

/-- A call registers its id; the only entry under it is then its own. -/
lemma register (h : HandleInvariant v) (hwf : v.WellFormed) (hi : v.calls[i]? = some c)
    (hpc : c.pc = .register) {id : String} (hid : c.id = some id) {p : PendingInvocation}
    (hp : p.tx = i) (handle : HandlePc) (log : Log) (hremovals : log.removals = v.log.removals)
    (hcancels : log.cancels = v.log.cancels) :
    HandleInvariant
      (View.setCall { v with pending := v.pending.insert id p, log := log }
        i { c with handle := handle, pc := .sendThrough }) := by
  have hholds : c.holdsId = true := by simp [Call.holdsId, hpc]
  have hnone := (hwf i c hi).unsent (by simp [Call.unsent, hpc])
  refine h.set hi _ v.runtime log rfl ?_ (fun _ => .inl ⟨hholds, rfl⟩) ?_ ?_ (fun k hk => hk)
    (fun e he => .inl (hremovals ▸ he)) (fun e he => .inl (hcancels ▸ he))
  · intro e he
    rcases PendingTable.mem_insert.mp he with ⟨he, -⟩ | rfl
    · exact .inl he
    · exact .inr ⟨hholds, hid⟩
  · intro _ _ e he hce
    have hide : id = e.1 := by simpa [hid] using hce
    rcases PendingTable.mem_insert.mp he with ⟨-, hne⟩ | heq
    · exact absurd hide.symm hne
    · rw [heq]
      exact hp
  · rintro - (⟨-, e, he⟩ | ⟨k, rt, hk, -⟩)
    · cases he
    · simp [hnone.1] at hk

/-- A call or its handle removes the entry with its id; there is none left afterwards. -/
lemma remove (h : HandleInvariant v) (hi : v.calls[i]? = some c) (log : Log) {id : String}
    (hcid : c.id = some id) (hid : c'.id = c.id) (hholds : c'.holdsId = true → c.holdsId = true)
    (hsent : c'.sentOn = c.sentOn)
    (hcan : c'.Detached v.runtime → c'.cancels = false)
    (hremovals : ∀ e ∈ log.removals, e ∈ v.log.removals ∨ e.2 = e.1)
    (hcancels : log.cancels = v.log.cancels) :
    HandleInvariant (View.setCall { v with pending := v.pending.erase id, log := log } i c') := by
  have hnone : ∀ e ∈ v.pending.erase id, c'.id ≠ some e.1 := by
    intro e he heq
    have : id = e.1 := by simpa [hid, hcid] using heq
    exact (PendingTable.mem_erase.mp he).2 this.symm
  refine h.set hi _ v.runtime log rfl (fun e he => .inl (PendingTable.mem_erase.mp he).1)
    (fun hh => .inl ⟨hholds hh, hid⟩) ?_ ?_ (fun k hk => hsent.trans hk) hremovals
    (fun e he => .inl (hcancels ▸ he))
  · intro _ _ e he heq
    exact absurd heq (hnone e he)
  · intro _ hdet
    simp only [View.cancellable, Bool.or_eq_false_iff, List.any_eq_false, decide_eq_true_eq]
    exact ⟨hcan hdet, hnone⟩

/-- A handle removes the entry with its id, which is the one of its call. -/
lemma handleRemove (h : HandleInvariant v) (hwf : v.WellFormed) (hi : v.calls[i]? = some c)
    (hc : c.handle = .cancelling ∨ c.handle = .dropping) {handle : HandlePc}
    (hnew : v.pending.entries (c.id.getD "") ≠ [] ∨
      ({ c with handle := handle } : Call).cancels = false) :
    HandleInvariant
      (View.setCall
        { v with
          pending := v.pending.erase (c.id.getD "")
          log := { v.log with removals := v.log.removals ++
            (v.pending.entries (c.id.getD "")).map fun e => (i, e.2.tx) } }
        i { c with handle := handle }) := by
  have hholds : c.holdsId = true := by
    rcases hc with hc | hc <;> simp [Call.holdsId, Call.handleAlive, hc]
  obtain ⟨id, hid⟩ := Option.isSome_iff_exists.mp ((hwf i c hi).holdsId hholds)
  have hreg : c.registered = true := by
    by_contra hr
    have := (hwf i c hi).handle (by simpa using hr)
    rcases hc with hc | hc <;> simp [hc] at this
  have hget : c.id.getD "" = id := by simp [hid]
  rw [hget] at hnew ⊢
  refine h.remove hi _ hid rfl (fun _ => hholds) rfl ?_ ?_ rfl
  · intro hdet
    refine hnew.resolve_left fun hne => ?_
    -- a detached call has no entry
    obtain ⟨e, he⟩ := List.exists_mem_of_ne_nil _ hne
    obtain ⟨hmem, heq⟩ := PendingTable.mem_entries.mp he
    have hnone := h.detached i c hi hholds hdet
    simp only [View.cancellable, Bool.or_eq_false_iff, List.any_eq_false,
      decide_eq_true_eq] at hnone
    exact hnone.2 e hmem (heq ▸ hid)
  · intro x hx
    rcases List.mem_append.mp hx with hx | hx
    · exact .inl hx
    · obtain ⟨e, he, rfl⟩ := List.mem_map.mp hx
      obtain ⟨hmem, heq⟩ := PendingTable.mem_entries.mp he
      exact .inr (h.entry i c hi hholds hreg e hmem (heq ▸ hid))

/-- A call whose send has failed removes its entry and drops its handle. -/
lemma cleanup (h : HandleInvariant v) (hwf : v.WellFormed) (hi : v.calls[i]? = some c)
    {error : Error} (hpc : c.pc = .cleanup error) {handle : HandlePc}
    (hh : handle = c.handle ∨ c.handle = .live ∧ handle = .dropping) :
    HandleInvariant
      (View.setCall { v with pending := v.pending.erase (c.id.getD "") }
        i { c with handle := handle, pc := .returned (some error) }) := by
  obtain ⟨id, hid⟩ := Option.isSome_iff_exists.mp ((hwf i c hi).cleanup error hpc)
  have hdropped := (hwf i c hi).dropped
  have hget : c.id.getD "" = id := by simp [hid]
  rw [hget]
  refine h.remove hi v.log hid rfl ?_ rfl ?_ (fun e he => .inl he) rfl
  · rcases hh with rfl | ⟨hl, rfl⟩
    · simp [Call.holdsId, Call.handleAlive, hpc]
    · simp [Call.holdsId, Call.handleAlive, hl]
  · intro _
    rcases hh with rfl | ⟨-, rfl⟩
    · unfold Call.cancels
      split <;> simp_all
    · rfl

/-- A handle sends `CancelInvocation` on the connection of its call. -/
lemma handleSend (h : HandleInvariant v) (hwf : v.WellFormed) (hi : v.calls[i]? = some c)
    (hc : c.cancels = true) {rt : HubRuntime} (hrt : v.runtime = some rt) (handle : HandlePc) :
    HandleInvariant
      (View.setCall
        { v with log := { v.log with cancels := v.log.cancels ++ [(i, rt.connection)] } }
        i { c with handle := handle }) := by
  have hne : c.handle ≠ .none ∧ c.handle ≠ .live := by
    constructor <;> intro hh <;> simp [Call.cancels, hh] at hc
  have hholds : c.holdsId = true := by
    unfold Call.cancels at hc
    unfold Call.holdsId Call.handleAlive
    split at hc <;> simp_all
  have hattached : ¬ c.Detached v.runtime := by
    intro hdet
    simpa [View.cancellable, hc] using h.detached i c hi hholds hdet
  have hsent : c.sentOn = some rt.connection := by
    cases hs : c.sentOn with
    | none => exact absurd (.inl ⟨hs, (hwf i c hi).dropped hne.1 hne.2⟩) hattached
    | some k =>
      by_cases hk : k = rt.connection
      · rw [hk]
      · exact absurd (.inr ⟨k, rt, hs, hrt, hk⟩) hattached
  refine h.set hi v.pending v.runtime _ rfl (fun e he => .inl he) (fun _ => .inl ⟨hholds, rfl⟩)
    ?_ ?_ (fun k hk => hk) (fun e he => .inl he) ?_
  · intro _ hr e he hce
    exact h.entry i c hi hholds hr e he hce
  · intro _ hdet
    exact absurd hdet hattached
  · intro e he
    rcases List.mem_append.mp he with he | he
    · exact .inl he
    · obtain rfl := List.mem_singleton.mp he
      exact .inr ⟨rfl, hsent⟩

/-- A runtime is stored while the calls of other connections have nothing left to cancel. -/
lemma storeRuntime (h : HandleInvariant v) {connection transport : ℕ} {b : Option ℕ}
    {writes : Option (ℕ → Except Error Unit)}
    (hok : v.HandlesApart (.op (.storeRuntime connection transport b writes))) :
    HandleInvariant { v with runtime := some ⟨connection, transport, b, 0⟩ } := by
  refine ⟨h.distinct, h.entry, ?_, h.removals, h.cancels⟩
  rintro i c hi hc (⟨hs, hr⟩ | ⟨k, rt, hk, hrt, hne⟩)
  · exact h.detached i c hi hc (.inl ⟨hs, hr⟩)
  · obtain rfl := Option.some.inj hrt
    exact hok c (List.mem_of_getElem? hi) hc k hk hne

/-- Without a runtime, only calls that were not sent are detached. -/
lemma takeRuntime (h : HandleInvariant v) : HandleInvariant { v with runtime := none } := by
  refine ⟨h.distinct, h.entry, ?_, h.removals, h.cancels⟩
  rintro i c hi hc (hs | ⟨k, rt, hk, hrt, -⟩)
  · exact h.detached i c hi hc (.inl hs)
  · cases hrt

/-- A new call holds no id. -/
lemma newCall (h : HandleInvariant v) (kind : CallKind) (target : String)
    (arguments : List HubArgument) :
    HandleInvariant { v with calls := v.calls ++ [.new kind target arguments] } := by
  have hold : ∀ {j : ℕ} {d : Call},
      (v.calls ++ [Call.new kind target arguments])[j]? = some d → d.holdsId = true →
        v.calls[j]? = some d := by
    intro j d hd hdh
    rcases getElem?_newCall hd with ⟨rfl, -⟩ | hd
    · simp [Call.new, Call.holdsId, Call.handleAlive] at hdh
    · exact hd
  refine ⟨?_, ?_, ?_, h.removals, ?_⟩
  · intro j₁ j₂ d₁ d₂ hd₁ hd₂ hh₁ hh₂ hids
    exact h.distinct j₁ j₂ d₁ d₂ (hold hd₁ hh₁) (hold hd₂ hh₂) hh₁ hh₂ hids
  · intro j d hd hdh
    exact h.entry j d (hold hd hdh) hdh
  · intro j d hd hdh
    exact h.detached j d (hold hd hdh) hdh
  · intro e he
    obtain ⟨d, hd, hds⟩ := h.cancels e he
    refine ⟨d, ?_, hds⟩
    rw [List.getElem?_append_left (List.getElem?_eq_some_iff.mp hd).1]
    exact hd

/-- The invariant holds initially. -/
lemma init : HandleInvariant Core.new.view where
  distinct := by simp [Core.new, Core.view]
  entry := by simp [Core.new, Core.view]
  detached := by simp [Core.new, Core.view]
  removals := by simp [Core.new, Core.view]
  cancels := by simp [Core.new, Core.view]

/-- **Steps keep the invariant** when they meet the condition. -/
theorem step (hwf : v.WellFormed) (h : HandleInvariant v) (hok : v.HandlesApart a)
    (hstep : ViewStep v a v') : HandleInvariant v' := by
  cases hstep with
  | keep => exact h
  | cancelAllPending => exact h.pending_subset (by simp)
  | storeRuntime => exact h.storeRuntime hok
  | takeRuntime => exact h.takeRuntime
  | newCall kind target arguments => exact h.newCall kind target arguments
  | quiet _ hi hq => exact h.setQuiet hi (hq (hwf _ _ hi))
  | @takeStreamIds i _ c rt hi hpc hrt values ids counter pc hr hnew =>
    have hnone := (hwf i c hi).handle (by simp [Call.registered, hpc])
    refine h.setCall hi _ _ (by simp [hrt]) ?_ (fun k hk => hk) rfl rfl
    rcases hnew with rfl | rfl <;> simp [Call.holdsId, Call.handleAlive, hnone]
  | takeId _ hi hpc hrt => exact h.takeId hwf hok hi hpc hrt _ rfl rfl
  | @register i _ c id hi hpc hid p hp handle hh =>
    exact h.register hwf hi hpc hid hp handle _ rfl rfl
  | @sendThrough i _ c rt hi hpc hrt pc hnew =>
    have hunsent := (hwf i c hi).unsent (by simp [Call.unsent, hpc])
    refine h.setCall hi v.runtime _ rfl ?_ (by simp [hunsent.1]) rfl rfl
    intro hh
    refine ⟨?_, rfl, fun _ => by simp [Call.registered, hpc], ?_, fun hc => hc⟩
    · have hpc' : pc ≠ .register := by
        rcases hnew with ⟨e, rfl⟩ | rfl | ⟨b, rfl⟩
        · cases hci : c.id <;> simp [Core.failedPc, hci]
        · simp
        · simp
      simpa [Call.holdsId, Call.handleAlive, hpc', hpc] using hh
    · rintro (⟨hs, -⟩ | ⟨k, rt', hk, hrt', hne⟩)
      · cases hs
      · obtain rfl := Option.some.inj hk
        obtain rfl := Option.some.inj (hrt.symm.trans hrt')
        exact absurd rfl hne
  | cleanup _ hi hpc hh => exact h.cleanup hwf hi hpc hh
  | handleRemove _ hi hc hnew => exact h.handleRemove hwf hi hc hnew
  | handleSend _ hi hc hrt hnew => exact h.handleSend hwf hi hc hrt _
  | upload _ hi hup hrt hcmd =>
    exact h.setCall hi v.runtime _ rfl
      (fun hh => ⟨hh, rfl, fun hr => hr, fun hd => hd, fun hc => hc⟩) (fun k hk => hk) rfl rfl
  | receive b message outcome hp hd =>
    exact { h.pending_subset hp with }
  | cancelStream id => exact h.pending_subset fun e he => (PendingTable.mem_erase.mp he).1

end HandleInvariant

/-! ## Runs -/

/-- **Handles act on their own calls**: in every run in which no id is handed out that is still
held, and runtimes of other connections are stored only when handles have nothing left to cancel,
the entries removed by a handle are those of its call, and its `CancelInvocation` is sent on the
connection its call was sent on. -/
theorem handles_act_on_own_calls {options : ConnectionOptions} {as : List Action} {w : World}
    (hrun : (World.system options).run as = some w)
    (hm : (World.system options).Meets
      (World.OnCore options fun c => c.view.HandlesApart) as) :
    (∀ e ∈ w.core.log.removals, e.2 = e.1) ∧
      ∀ e ∈ w.core.log.cancels, ∃ c, w.core.calls[e.1]? = some c ∧ c.sentOn = some e.2 := by
  have h := (World.view_invariant HandleInvariant.init
    (fun v a v' hwf hI hok hstep => HandleInvariant.step hwf hI hok hstep) hrun hm).2
  exact ⟨h.removals, h.cancels⟩

/-- A stream is started and its handle dropped; after a reconnect an invocation follows. -/
def dropThenReconnect : List Action :=
  World.startRun {} ++ World.callRun 0 6 .stream [] ++
    [.core (.dropHandle 0), .core (.handle 0 (.ok ())), .core (.handle 0 (.ok ()))] ++
    World.supervisorRun 27 .lost ++ World.callRun 1 6 .invoke []

/-- `handles_act_on_own_calls` applies to a handle that is dropped before a reconnect. -/
theorem handles_act_on_own_calls_reconnect :
    ∃ w, (World.system .retrying).run dropThenReconnect = some w ∧
      w.core.log.removals = [(0, 0)] ∧ w.core.log.cancels = [(0, 0)] ∧
      (∀ e ∈ w.core.log.removals, e.2 = e.1) ∧
      ∀ e ∈ w.core.log.cancels, ∃ c, w.core.calls[e.1]? = some c ∧ c.sentOn = some e.2 := by
  obtain ⟨w, hw, hlog⟩ := Option.map_eq_some_iff.mp (show
    ((World.system .retrying).run dropThenReconnect).map
      (fun w => (w.core.log.removals, w.core.log.cancels)) = some ([(0, 0)], [(0, 0)]) by rfl)
  obtain ⟨hremovals, hcancels⟩ := Prod.mk.inj hlog
  exact ⟨w, hw, hremovals, hcancels, handles_act_on_own_calls hw (by decide +kernel)⟩

/-- A stream is started, and its handle is dropped after a reconnect, when an invocation on the new
connection has got the same id. -/
def reconnectThenDrop : List Action :=
  World.startRun {} ++ World.callRun 0 6 .stream [] ++ World.supervisorRun 27 .lost ++
    World.callRun 1 6 .invoke [] ++
    [.core (.dropHandle 0), .core (.handle 0 (.ok ())), .core (.handle 0 (.ok ()))]

/-- **A handle acts on another call**: it removes the entry of an invocation that was made after a
reconnect, and sends `CancelInvocation` on the new connection. -/
theorem handle_acts_on_other_call :
    ¬ ∀ (options : ConnectionOptions) (as : List Action) (w : World),
      (World.system options).run as = some w →
        (∀ e ∈ w.core.log.removals, e.2 = e.1) ∧
          ∀ e ∈ w.core.log.cancels, ∃ c, w.core.calls[e.1]? = some c ∧ c.sentOn = some e.2 := by
  intro h
  obtain ⟨w, hw, hlog⟩ := Option.map_eq_some_iff.mp (show
    ((World.system .retrying).run reconnectThenDrop).map
      (fun w => (w.core.log.removals, w.core.log.cancels)) = some ([(0, 1)], [(0, 1)]) by rfl)
  obtain ⟨hremovals, -⟩ := Prod.mk.inj hlog
  have hown := (h _ _ w hw).1 (0, 1) (by simp [hremovals])
  cases hown

end Signalrr.HubConnection
