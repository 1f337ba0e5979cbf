import Signalrr.HubConnection.CallSteps

set_option relaxedAutoImplicit false
set_option autoImplicit false

/-!
# Lost calls

When a connection is lost and cannot be resumed, the supervisor cancels the waiting calls with
`cancel_all_pending`, once, before it ends or replaces the connection. A call takes its id and
registers it in two steps, so it can register after that, and nobody cancels it then.

## Main definitions

* `Signalrr.HubConnection.View.EntriesOutside` — no entry is for one of the given connections.
* `Signalrr.HubConnection.World.RegistersInTime` — the condition on a step: a call registers its id
  before a supervisor has cancelled the calls of the connection the id is from.
* `Signalrr.HubConnection.SupervisorPc.lost` — the places of a supervisor between cancelling the
  calls and finishing.

## Main results

* `Signalrr.HubConnection.Supervisor.step_cases` — what a step of a supervisor does to its record of
  cancelled and finished connections.
* `Signalrr.HubConnection.no_entry_of_finished` — no entry is left for a connection whose loss has
  been handled, in every run whose steps meet the condition.
* `Signalrr.HubConnection.entry_of_finished` — there can be one in general.
-/

namespace Signalrr.HubConnection

open Hub

/-! ## Entries and connections -/

/-- Every entry was registered by its call, with an id that is not from one of the given
connections. -/
def View.EntriesOutside (gone : ℕ → Prop) (v : View) : Prop :=
  ∀ e ∈ v.pending, ∃ c, v.calls[e.2.tx]? = some c ∧ c.registered = true ∧
    ∀ k, c.idConnection = some k → ¬ gone k

namespace EntriesOutside

variable {gone : ℕ → Prop} {v v' : View} {a : CoreAction} {i : ℕ} {c c' : Call}

/-- **A step of one call** that keeps the connection of its id once it is registered. Entries are
removed, or added for the call itself. -/
lemma set (h : v.EntriesOutside gone) (hi : v.calls[i]? = some c) (pending : PendingTable)
    (runtime : Option HubRuntime) (log : Log)
    (hp : ∀ e ∈ pending, e ∈ v.pending ∨
      e.2.tx = i ∧ c'.registered = true ∧ ∀ k, c'.idConnection = some k → ¬ gone k)
    (hc : c.registered = true → c'.registered = true ∧ c'.idConnection = c.idConnection) :
    (View.setCall { v with pending := pending, runtime := runtime, log := log } i
      c').EntriesOutside gone := by
  intro e he
  rcases hp e he with he | ⟨rfl, hnew⟩
  · obtain ⟨d, hd, hdr, hdk⟩ := h e he
    by_cases hj : e.2.tx = i
    · subst hj
      obtain rfl : c = d := by simpa [hi] using hd
      obtain ⟨hr, hk⟩ := hc hdr
      exact ⟨c', View.getElem?_setCall_self hi, hr, hk ▸ hdk⟩
    · exact ⟨d, by rwa [View.getElem?_setCall_ne hj], hdr, hdk⟩
  · exact ⟨c', View.getElem?_setCall_self hi, hnew⟩

/-- A step of a call that does not register it. -/
lemma setCall (h : v.EntriesOutside gone) (hi : v.calls[i]? = some c) (pending : PendingTable)
    (runtime : Option HubRuntime) (log : Log) (hp : ∀ e ∈ pending, e ∈ v.pending)
    (hc : c.registered = true → c'.registered = true ∧ c'.idConnection = c.idConnection) :
    (View.setCall { v with pending := pending, runtime := runtime, log := log } i
      c').EntriesOutside gone :=
  set h hi pending runtime log (fun e he => .inl (hp e he)) hc

/-- **Steps keep the entries outside** when a registration is. -/
theorem step (hwf : v.WellFormed) (h : v.EntriesOutside gone)
    (hok : ∀ i outcome c, a = .call i outcome → v.calls[i]? = some c → c.pc = .register →
      ∀ k, c.idConnection = some k → ¬ gone k)
    (hstep : ViewStep v a v') : v'.EntriesOutside gone := by
  cases hstep with
  | keep => exact h
  | cancelAllPending => exact fun e he => absurd he (List.not_mem_nil)
  | storeRuntime | takeRuntime => exact h
  | newCall kind target arguments =>
    intro e he
    obtain ⟨d, hd, hrest⟩ := h e he
    refine ⟨d, ?_, hrest⟩
    rw [List.getElem?_append_left (List.getElem?_eq_some_iff.mp hd).1]
    exact hd
  | quiet _ hi hq =>
    have hq := hq (hwf _ _ hi)
    exact setCall h hi v.pending v.runtime v.log (fun e he => he)
      fun hr => ⟨hq.registered hr, hq.idConnection⟩
  | takeStreamIds _ hi hpc hrt hr hnew =>
    exact setCall h hi v.pending _ _ (fun e he => he) (by simp [Call.registered, hpc])
  | takeId _ hi hpc hrt =>
    exact setCall h hi v.pending _ _ (fun e he => he) (by simp [Call.registered, hpc])
  | @register i _ c id hi hpc hid p hp handle hh =>
    refine set h hi _ v.runtime _ ?_ (fun _ => ⟨rfl, rfl⟩)
    intro e he
    rcases PendingTable.mem_insert.mp he with ⟨he, -⟩ | rfl
    · exact .inl he
    · exact .inr ⟨hp, rfl, hok i _ c rfl hi hpc⟩
  | @sendThrough i _ c rt hi hpc hrt pc hnew =>
    refine setCall h hi v.pending v.runtime _ (fun e he => he) fun _ => ⟨?_, rfl⟩
    rcases hnew with ⟨e, rfl⟩ | rfl | ⟨b, rfl⟩
    · cases hci : c.id <;> simp [Core.failedPc, Call.registered, hci]
    · rfl
    · rfl
  | cleanup _ hi hpc hh =>
    exact setCall h hi _ v.runtime v.log (fun e he => (PendingTable.mem_erase.mp he).1)
      fun _ => ⟨rfl, rfl⟩
  | handleRemove _ hi hc hnew =>
    exact setCall h hi _ v.runtime _ (fun e he => (PendingTable.mem_erase.mp he).1)
      fun hr => ⟨hr, rfl⟩
  | handleSend _ hi hc hrt hnew =>
    exact setCall h hi v.pending v.runtime _ (fun e he => he) fun hr => ⟨hr, rfl⟩
  | upload _ hi hup hrt hcmd =>
    exact setCall h hi v.pending v.runtime _ (fun e he => he) fun hr => ⟨hr, rfl⟩
  | receive b message outcome hp hd => exact fun e he => h e (hp e he)
  | cancelStream id => exact fun e he => h e (PendingTable.mem_erase.mp he).1

end EntriesOutside

/-! ## Supervisors -/

/-- The places of a supervisor that has cancelled the waiting calls and has not finished. -/
def SupervisorPc.lost : SupervisorPc → Bool
  | .setDisconnected _ | .giveUp _ | .disconnectBuffer _ | .takeRuntime _ | .abortRuntime ..
  | .firstDelay _ | .setReconnecting _ | .invokeReconnecting _ | .recheckClosing _ | .recheckState _
  | .sleep _ | .loopClosing _ | .loopStop _ | .loopState _ | .connect _ | .setConnectionId ..
  | .storeBuffer .. | .setResume .. | .startRuntime .. | .ping .. | .storeRuntime ..
  | .nextDelay _ => true
  | _ => false

namespace Supervisor

variable {options : ConnectionOptions} {c : Core} {s s' : Supervisor} {env : Env} {e : Effect}

/-- A supervisor that finishes has cancelled the calls of its connection. -/
structure Cancels (s : Supervisor) : Prop where
  lost : s.pc.lost = true → s.connection ∈ s.cancelled
  finished : ∀ k ∈ s.finished, k ∈ s.cancelled

/-- What a step does to the records of a supervisor. -/
theorem step_cases (h : s.step options c env = some (e, s')) :
    (s'.cancelled = s.cancelled ∧ (s'.pc.lost = true → s.pc.lost = true ∧
        s'.connection = s.connection) ∨
      s'.cancelled = s.cancelled ++ [s.connection] ∧ s'.connection = s.connection ∧
        ∃ error, e.op = .cancelAllPending error) ∧
    (s'.finished = s.finished ∨ s.pc.lost = true ∧ s'.finished = s.finished ++ [s.connection]) := by
  unfold step at h
  split at h
  all_goals
    rename_i hpc
    repeat' split at h
    all_goals cases h
    all_goals simp [hpc, SupervisorPc.lost, failed]

/-- Steps keep the records of a supervisor in order. -/
lemma Cancels.step (hs : s.Cancels) (h : s.step options c env = some (e, s')) : s'.Cancels := by
  obtain ⟨hc, hf⟩ := step_cases h
  have hmono : ∀ k ∈ s.cancelled, k ∈ s'.cancelled := by
    intro k hk
    rcases hc with ⟨hc, -⟩ | ⟨hc, -⟩
    · exact hc ▸ hk
    · exact hc ▸ List.mem_append_left _ hk
  constructor
  · intro hl
    rcases hc with ⟨hc, hlost⟩ | ⟨hc, hconn, -⟩
    · obtain ⟨hl₀, hconn⟩ := hlost hl
      rw [hc, hconn]
      exact hs.lost hl₀
    · rw [hc, hconn]
      exact List.mem_append_right _ (List.mem_singleton_self _)
  · intro k hk
    rcases hf with hf | ⟨hl, hf⟩
    · exact hmono k (hs.finished k (hf ▸ hk))
    · rcases List.mem_append.mp (hf ▸ hk) with hk | hk
      · exact hmono k (hs.finished k hk)
      · obtain rfl := List.mem_singleton.mp hk
        exact hmono _ (hs.lost hl)

end Supervisor

/-! ## Runs -/

namespace World

/-- A supervisor has cancelled the calls of connection `k`. -/
def Gone (w : World) (k : ℕ) : Prop := ∃ s ∈ w.supervisors, k ∈ s.cancelled

/-- The condition on a step: when a call registers its id, no supervisor has cancelled the calls of
the connection the id is from. -/
def RegistersInTime (w : World) : Action → Prop
  | .core (.call i _) => ∀ c ∈ w.core.calls[i]?, c.pc = .register →
      ∀ k ∈ c.idConnection, ∀ s ∈ w.supervisors, k ∉ s.cancelled
  | _ => True

instance (w : World) : (a : Action) → Decidable (w.RegistersInTime a)
  | .core (.call i _) => inferInstanceAs (Decidable (∀ c ∈ w.core.calls[i]?, c.pc = .register →
      ∀ k ∈ c.idConnection, ∀ s ∈ w.supervisors, k ∉ s.cancelled))
  | .core (.op _) | .core (.newCall ..) | .core (.roomDropped _) | .core (.cancelHandle _)
  | .core (.dropHandle _) | .core (.handle ..) | .core (.produce ..) | .core (.upload ..)
  | .core (.receive ..) | .core (.cancelStream _)
  | .newStart | .newClose | .start .. | .close .. | .supervisor .. | .supervisorEnds _ =>
    .isTrue trivial

/-- The supervisors keep their records, and no entry is for a connection whose calls were
cancelled. -/
structure LostInvariant (w : World) : Prop where
  wellFormed : w.core.view.WellFormed
  cancels : ∀ s ∈ w.supervisors, s.Cancels
  entries : w.core.view.EntriesOutside w.Gone

variable {options : ConnectionOptions} {w w' : World} {a : Action}

/-- The supervisors after the effect of a step. -/
lemma mem_supervisors_apply {e : Effect} {s : Supervisor}
    (h : s ∈ (w.apply options e).supervisors) :
    (∃ s₀ ∈ w.supervisors, s = s₀ ∨ s = { s₀ with aborted := true }) ∨
      s.pc = .select ∧ s.cancelled = [] ∧ s.finished = [] := by
  rcases List.mem_append.mp h with h | h
  · refine .inl ?_
    cases ha : e.abort with
    | none => exact ⟨s, by simpa [ha] using h, .inl rfl⟩
    | some k =>
      rw [ha] at h
      obtain ⟨j, hj⟩ := List.getElem?_of_mem h
      rw [List.getElem?_modify] at hj
      obtain ⟨s₀, hs₀, hs⟩ := Option.map_eq_some_iff.mp hj
      refine ⟨s₀, List.mem_of_getElem? hs₀, ?_⟩
      split at hs
      · exact .inr hs.symm
      · exact .inl hs.symm
  · cases hs : e.spawn with
    | none => simp [hs] at h
    | some k =>
      rw [hs] at h
      obtain rfl := List.mem_singleton.mp h
      exact .inr ⟨rfl, rfl, rfl⟩

/-- Where the supervisors after a step come from: they were there with the same records, they are
new, or they took the step. -/
lemma supervisor_of_next (h : next options w a = some w') {s' : Supervisor}
    (hs' : s' ∈ w'.supervisors) :
    (∃ s ∈ w.supervisors, s'.cancelled = s.cancelled ∧ s'.finished = s.finished ∧
      (s'.pc.lost = true → s.pc.lost = true ∧ s'.connection = s.connection)) ∨
    (s'.cancelled = [] ∧ s'.finished = [] ∧ s'.pc.lost = false) ∨
    ∃ s ∈ w.supervisors, ∃ env e, s.step options w.core env = some (e, s') ∧
      w'.core = w.core.applyOp options e.op := by
  -- a supervisor that did not take the step
  have hsame : ∀ {s : Supervisor}, s ∈ w.supervisors → ∃ s₀ ∈ w.supervisors,
      s.cancelled = s₀.cancelled ∧ s.finished = s₀.finished ∧
      (s.pc.lost = true → s₀.pc.lost = true ∧ s.connection = s₀.connection) :=
    fun {s} hs => ⟨s, hs, rfl, rfl, fun hl => ⟨hl, rfl⟩⟩
  have happly : ∀ {e : Effect} {s : Supervisor}, s ∈ (w.apply options e).supervisors →
      (∃ s₀ ∈ w.supervisors, s.cancelled = s₀.cancelled ∧ s.finished = s₀.finished ∧
        (s.pc.lost = true → s₀.pc.lost = true ∧ s.connection = s₀.connection)) ∨
      (s.cancelled = [] ∧ s.finished = [] ∧ s.pc.lost = false) := by
    intro e s hs
    rcases mem_supervisors_apply hs with ⟨s₀, hs₀, rfl | rfl⟩ | ⟨hpc, hc, hf⟩
    · exact .inl (hsame hs₀)
    · exact .inl ⟨s₀, hs₀, rfl, rfl, fun hl => ⟨hl, rfl⟩⟩
    · exact .inr ⟨hc, hf, by simp [hpc, SupervisorPc.lost]⟩
  cases step_of_next h with
  | newStart | newClose | core => exact .inl (hsame hs')
  | start hi hr => exact (happly hs').imp_right .inl
  | close hi hr => exact (happly hs').imp_right .inl
  | supervisor hk _ hr =>
    rcases List.mem_or_eq_of_mem_set hs' with hs' | rfl
    · exact (happly hs').imp_right .inl
    · exact .inr (.inr ⟨_, List.mem_of_getElem? hk, _, _, hr, rfl⟩)
  | supervisorEnds hk _ =>
    rcases List.mem_or_eq_of_mem_set hs' with hs' | rfl
    · exact .inl (hsame hs')
    · exact .inl ⟨_, List.mem_of_getElem? hk, rfl, rfl, by simp [SupervisorPc.lost]⟩

/-- The invariant holds initially. -/
lemma LostInvariant.init : LostInvariant new where
  wellFormed := fun i c hi => by simp [new, Core.new, Core.view] at hi
  cancels := by simp [new]
  entries := fun e he => by simp [new, Core.new, Core.view] at he

/-- **Steps keep the invariant** when calls register in time.

**Proof sketch.** A connection is added to the cancelled ones only together with the removal of all
entries. Otherwise the entries stay outside by `EntriesOutside.step`. -/
theorem LostInvariant.step (hw : LostInvariant w) (hok : w.RegistersInTime a)
    (h : next options w a = some w') : LostInvariant w' := by
  refine ⟨?_, ?_, ?_⟩
  · rcases core_of_next h with ⟨ca, -, hcore⟩ | hcore
    · exact (viewStep_of_next hcore).wellFormed hw.wellFormed
    · rw [hcore]
      exact hw.wellFormed
  · intro s' hs'
    rcases supervisor_of_next h hs' with
      ⟨s, hs, hc, hf, hl⟩ | ⟨hc, hf, hl⟩ | ⟨s, hs, env, e, hstep, -⟩
    · refine ⟨fun hlost => ?_, fun k hk => hc ▸ (hw.cancels s hs).finished k (hf ▸ hk)⟩
      obtain ⟨hl₀, hconn⟩ := hl hlost
      rw [hc, hconn]
      exact (hw.cancels s hs).lost hl₀
    · exact ⟨fun hlost => by simp [hl] at hlost, fun k hk => by simp [hf] at hk⟩
    · exact (hw.cancels s hs).step hstep
  · by_cases hgone : ∀ k, w'.Gone k → w.Gone k
    · -- no connection was added to the cancelled ones
      have hentries : w'.core.view.EntriesOutside w.Gone := by
        rcases core_of_next h with ⟨ca, hca, hcore⟩ | hcore
        · refine EntriesOutside.step hw.wellFormed hw.entries ?_ (viewStep_of_next hcore)
          rintro i outcome c rfl hi hpc k hk ⟨s, hs, hks⟩
          have ha : a = .core (.call i outcome) := by
            cases a <;> simp [coreAction, Option.bind_eq_some_iff] at hca
            exact congrArg _ hca
          subst ha
          exact hok c hi hpc k hk s hs hks
        · rw [hcore]
          exact hw.entries
      intro e he
      obtain ⟨c, hc, hr, hk⟩ := hentries e he
      exact ⟨c, hc, hr, fun k hck hg => hk k hck (hgone k hg)⟩
    · -- the entries were removed with it
      push Not at hgone
      obtain ⟨k, ⟨s', hs', hk⟩, hnot⟩ := hgone
      rcases supervisor_of_next h hs' with ⟨s, hs, hc, -⟩ | ⟨hc, -⟩ | ⟨s, hs, env, e, hstep, hcore⟩
      · exact absurd ⟨s, hs, hc ▸ hk⟩ hnot
      · simp [hc] at hk
      · rcases (Supervisor.step_cases hstep).1 with ⟨hc, -⟩ | ⟨-, -, error, hop⟩
        · exact absurd ⟨s, hs, hc ▸ hk⟩ hnot
        · intro x hx
          rw [hcore, hop] at hx
          cases hx

end World

/-- **No lost call is left**: in every run in which calls register before a supervisor has cancelled
the calls of their connection, the table has no entry for a connection whose loss a supervisor has
finished handling. -/
theorem no_entry_of_finished {options : ConnectionOptions} {as : List Action} {w : World}
    (hrun : (World.system options).run as = some w)
    (hm : (World.system options).Meets World.RegistersInTime as) :
    ∀ s ∈ w.supervisors, ∀ k ∈ s.finished, ∀ e ∈ w.core.pending,
      ∃ c, w.core.calls[e.2.tx]? = some c ∧ c.idConnection ≠ some k := by
  have h := Automata.System.invariant_of_meets World.LostInvariant.init
    (fun w a w' hw hok hnext => World.LostInvariant.step hw hok hnext) hrun hm
  intro s hs k hk e he
  obtain ⟨c, hc, -, hout⟩ := h.entries e he
  exact ⟨c, hc, fun hck => hout k hck ⟨s, hs, (h.cancels s hs).finished k hk⟩⟩

/-- An invocation waits when the connection is lost; another one follows after the reconnect. -/
def invokeAcrossReconnect : List Action :=
  World.startRun {} ++ World.callRun 0 6 .invoke [] ++ World.supervisorRun 27 .lost ++
    World.callRun 1 6 .invoke []

/-- `no_entry_of_finished` applies to a reconnect with a waiting invocation. -/
theorem no_entry_of_finished_reconnect :
    ∃ w, (World.system .retrying).run invokeAcrossReconnect = some w ∧
      w.supervisors.map Supervisor.finished = [[0]] ∧ w.core.pending = [("1", .single 1)] ∧
      ∀ s ∈ w.supervisors, ∀ k ∈ s.finished, ∀ e ∈ w.core.pending,
        ∃ c, w.core.calls[e.2.tx]? = some c ∧ c.idConnection ≠ some k := by
  obtain ⟨w, hw, hlog⟩ := Option.map_eq_some_iff.mp (show
    ((World.system .retrying).run invokeAcrossReconnect).map
      (fun w => (w.supervisors.map Supervisor.finished, w.core.pending)) =
        some ([[0]], [("1", .single 1)]) by rfl)
  obtain ⟨hfinished, hpending⟩ := Prod.mk.inj hlog
  exact ⟨w, hw, hfinished, hpending, no_entry_of_finished hw (by decide +kernel)⟩

/-- An invocation has taken its id when the connection is lost for good, and goes on. -/
def registerAfterLoss : List Action :=
  World.startRun {} ++ World.callRun 0 3 .invoke [] ++ World.supervisorRun 7 .lost ++
    List.replicate 3 (.core (.call 0 (.ok ())))

/-- **A lost call is left**: an invocation registers after the supervisor has cancelled the waiting
calls. The connection is disconnected, and the invocation waits for a response. -/
theorem entry_of_finished :
    ¬ ∀ (options : ConnectionOptions) (as : List Action) (w : World),
      (World.system options).run as = some w →
        ∀ s ∈ w.supervisors, ∀ k ∈ s.finished, ∀ e ∈ w.core.pending,
          ∃ c, w.core.calls[e.2.tx]? = some c ∧ c.idConnection ≠ some k := by
  intro h
  obtain ⟨w, hw, hlog⟩ := Option.map_eq_some_iff.mp (show
    ((World.system .plain).run registerAfterLoss).map
      (fun w => (w.supervisors.map Supervisor.finished, w.core.pending,
        w.core.calls.map fun c => (c.idConnection, c.pc))) =
        some ([[0]], [("1", .single 0)], [(some 0, .awaitResponse)]) by rfl)
  simp only [Prod.mk.injEq] at hlog
  obtain ⟨hfinished, hpending, hcalls⟩ := hlog
  obtain ⟨s, hs, hk⟩ := List.mem_map.mp (show [0] ∈ w.supervisors.map Supervisor.finished by
    simp [hfinished])
  obtain ⟨c, hc, hne⟩ := h _ _ w hw s hs 0 (by simp [hk]) ("1", .single 0) (by simp [hpending])
  have hfirst := congrArg (fun l => l[0]?) hcalls
  simp only [List.getElem?_map] at hfirst
  rw [show w.core.calls[0]? = some c from hc] at hfirst
  exact hne (congrArg Prod.fst (Option.some.inj hfirst))

end Signalrr.HubConnection
