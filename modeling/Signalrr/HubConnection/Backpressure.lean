import Signalrr.HubConnection.ConnectOperation
import Signalrr.HubConnection.StoredSenders

set_option relaxedAutoImplicit false
set_option autoImplicit false

/-!
# Waiting for room in a full buffer

`send_through` in `src/hub_connection/mod.rs` waits on a one-shot channel when the message it has
stored fills the buffer of a stateful connection. When the connection has ended nothing is
acknowledged any more: the call goes on only if the last reference to the buffer is dropped. `close`
drops the runtime and the buffer; the other ways to end a connection leave them in place.

## Main definitions

* `Signalrr.HubConnection.World.Waiting` — a call waits on a sender that is still there.
* `Signalrr.HubConnection.World.Idle` — no `start`, no `close` and no supervisor is at work.
* `Signalrr.HubConnection.World.EndsReleased` — the condition on the steps: where they end a
  connection without dropping its buffer, or go on after its end, no sender is stored.

## Main results

* `Signalrr.HubConnection.World.EndInvariant.step` — what holds while tasks shut the connection down
  and after it has ended.
* `Signalrr.HubConnection.senders_released_of_disconnected` — under the condition no call waits once
  the connection has ended.
* `Signalrr.HubConnection.waiting_after_end` — in general calls do.
-/

namespace Signalrr.HubConnection

open Hub

/-! ## Places -/

/-- A shutdown has taken the runtime and has not set the state. -/
def ShutdownPc.takenRuntime : ShutdownPc → Bool
  | closeRuntime _ | clearBuffer | clearResume | clearConnectionId | clearHandshakeData
  | clearInitialMessages | setDisconnected => true
  | _ => false

/-- A shutdown has cleared the buffer and has not set the state. -/
def ShutdownPc.clearedBuffer : ShutdownPc → Bool
  | clearResume | clearConnectionId | clearHandshakeData | clearInitialMessages
  | setDisconnected => true
  | _ => false

/-- A `start` is about to end the connection without a shutdown. -/
def StartPc.ends : StartPc → Bool
  | stopped | failState _ => true
  | _ => false

/-- A supervisor is about to end the connection. -/
def SupervisorPc.ends : SupervisorPc → Bool
  | setDisconnected _ | giveUp _ => true
  | _ => false

/-- A supervisor is about to store a runtime. -/
def SupervisorPc.storesRuntime : SupervisorPc → Bool
  | storeRuntime .. | resumeStore .. => true
  | _ => false

/-- A `start` has not begun or has returned. -/
def StartPc.idle : StartPc → Bool
  | readState | returned _ => true
  | _ => false

/-- A `close` has not begun, waits for another one or has returned. -/
def ClosePc.idle : ClosePc → Bool
  | readState | register | waiting | notified | returned _ => true
  | _ => false

/-- A supervisor waits for an event or has ended. -/
def SupervisorPc.idle : SupervisorPc → Bool
  | select | ended => true
  | _ => false

/-! ## Steps of the tasks -/

section Tasks

variable {options : ConnectionOptions} {c : Core} {env : Env} {e : Effect} {receivers : Bool}
  {i n b : ℕ}

/-- The fields during a shutdown. -/
structure Core.ShutDown (c : Core) (s : ShutdownPc) : Prop where
  runtime : s.takenRuntime = true → c.runtime = none
  messageBuffer : s.clearedBuffer = true → c.Released [c.messageBuffer]

/-- The steps of a shutdown empty the fields. -/
lemma Core.ShutDown.step {s s' : ShutdownPc} (h : c.ShutDown s)
    (hs : s.step options c env = some (e, s')) : (c.applyOp options e.op).ShutDown s' := by
  cases s with
  | closeRuntime rt =>
    have hrt := h.runtime rfl
    obtain ⟨buffers, hcore, -⟩ := shutdown_eq options c rt env.write env.outcome
    simp only [ShutdownPc.step, Option.some.injEq, Prod.mk.injEq] at hs
    obtain ⟨rfl, rfl⟩ := hs
    refine ⟨fun _ => by simp only [applyOp, hcore, hrt], fun hb => ?_⟩
    split at hb <;> cases hb
  | takeRuntime =>
    cases hs
    refine ⟨fun _ => rfl, fun hb => ?_⟩
    split at hb <;> cases hb
  | clearBuffer =>
    cases hs
    exact ⟨fun _ => h.runtime rfl, fun _ => by simp [Released, applyOp]⟩
  | clearResume | clearConnectionId | clearHandshakeData | clearInitialMessages =>
    cases hs
    exact ⟨fun _ => h.runtime rfl, fun _ => h.messageBuffer rfl⟩
  | abortSupervisor | dispose | cancelAll | setDisconnected | invokeClosed | notify =>
    cases hs
    constructor <;> intro hs <;> cases hs
  | returned => cases hs

/-- Other tasks do not fill the fields during a shutdown, as long as they store no runtime. -/
lemma Core.ShutDown.applyOp {s : ShutdownPc} {op : Op} (h : c.ShutDown s)
    (hop : s.takenRuntime = true → op.storesRuntime = false) :
    (c.applyOp options op).ShutDown s := by
  refine ⟨fun hs => ?_, fun hs => ?_⟩
  · rcases runtime_applyOp options c (hop hs) with hrt | hrt
    · rw [hrt, h.runtime hs]
    · exact hrt
  · refine (h.messageBuffer hs).applyOp fun b hb => ?_
    have hbuf := (List.mem_singleton.mp hb).symm
    exact (messageBuffer_applyOp hbuf).imp_left fun hold => by simp [hold]

/-- Calls, handles, upload tasks and receive tasks do not fill the fields during a shutdown. -/
lemma Core.ShutDown.of_next {s : ShutdownPc} {c' : Core} {ca : CoreAction} (h : c.ShutDown s)
    (ha : ∀ op, ca ≠ .op op) (hnext : c.next options ca = some c') : c'.ShutDown s := by
  have hsame := sameLifecycle_of_next ha hnext
  refine ⟨fun hs => ?_, fun hs => ?_⟩
  · simpa [h.runtime hs] using hsame.runtime
  · have hrt : c.runtime = none := by
      refine h.runtime ?_
      cases s <;> first | rfl | cases hs
    rw [hsame.messageBuffer]
    intro r hr b hb
    -- without a runtime nothing is sent
    have hfits : ∀ m ∈ c.sends ca, c.Fits options m := fun m _ rt hrt' => by simp [hrt] at hrt'
    exact senders_of_next ha hfits hnext (h.messageBuffer hs r hr b hb)

/-- A shutdown stores no runtime. -/
lemma ShutdownPc.step_storesRuntime {s s' : ShutdownPc} (h : s.step options c env = some (e, s')) :
    e.op.storesRuntime = false := by
  cases s <;> cases h <;> rfl

/-- A shutdown sets the state in one step. -/
lemma ShutdownPc.step_state {s s' : ShutdownPc} (h : s.step options c env = some (e, s'))
    (hd : (e.op.onControl c.control).state = .disconnected) :
    c.control.state = .disconnected ∨ s = setDisconnected := by
  cases s <;> cases h <;>
    simp_all [Op.onControl, Effect.skip, Effect.control, Control.invokeClosed]
  split at hd <;> exact hd

/-- A shutdown refers to the buffer of the runtime it has taken. -/
lemma ShutdownPc.step_owned {s s' : ShutdownPc} (h : s.step options c env = some (e, s'))
    (hb : World.ownedByShutdown s' = some b) :
    World.ownedByShutdown s = some b ∨ some b ∈ c.bufferRefs := by
  cases s with
  | takeRuntime =>
    cases h
    refine .inr ?_
    split at hb
    · cases hb
    · rename_i rt hrt
      simpa [Core.bufferRefs, hrt] using .inr hb.symm
  | closeRuntime rt =>
    cases h
    split at hb <;> cases hb
  | returned => cases h
  | _ =>
    cases h
    cases hb

/-- `start` stores the runtime it has built. -/
lemma StartPc.step_storesRuntime {pc pc' : StartPc}
    (h : pc.step options c receivers n i env = some (e, pc')) (hop : e.op.storesRuntime = true) :
    ∃ m r, pc = storeRuntime m r ∧ e.op = .storeRuntime m.connection m.transport r none := by
  cases pc with
  | shutdown s =>
    rcases step_shutdown h with ⟨rfl, -⟩ | ⟨s', hs, -⟩
    · cases hop
    · rw [ShutdownPc.step_storesRuntime hs] at hop
      cases hop
  | storeRuntime m r =>
    cases h
    exact ⟨m, r, rfl, rfl⟩
  | _ =>
    simp only [step] at h
    repeat' split at h
    all_goals cases h
    all_goals cases hop

/-- The steps of `start` that set the state to `Disconnected`. -/
lemma StartPc.step_state {pc pc' : StartPc}
    (h : pc.step options c receivers n i env = some (e, pc'))
    (hd : (e.op.onControl c.control).state = .disconnected) :
    c.control.state = .disconnected ∨ pc.ends = true ∨
      pc.shutdown? = some .setDisconnected := by
  cases pc with
  | shutdown s =>
    rcases step_shutdown h with ⟨rfl, -⟩ | ⟨s', hs, -⟩
    · exact .inl hd
    · exact (ShutdownPc.step_state hs hd).imp_right fun hs => .inr (congrArg some hs)
  | stopped | failState => exact .inr (.inl rfl)
  | sendStop =>
    cases h
    refine .inl ?_
    simp only [Effect.control, Op.onControl, Control.sendStop] at hd
    split at hd <;> exact hd
  | _ =>
    simp only [step] at h
    repeat' split at h
    all_goals cases h
    all_goals first | exact .inl hd | cases hd

/-- The buffers a `start` refers to are from the fields. -/
lemma StartPc.step_owned {pc pc' : StartPc}
    (h : pc.step options c receivers n i env = some (e, pc'))
    (hb : World.ownedByStart pc' = some b) :
    World.ownedByStart pc = some b ∨ some b ∈ c.bufferRefs := by
  cases pc with
  | shutdown s =>
    rcases step_shutdown h with ⟨-, result, rfl⟩ | ⟨s', hs, rfl⟩
    · cases hb
    · exact ShutdownPc.step_owned hs hb
  | startRuntime m =>
    simp only [step] at h
    split at h <;> cases h
    · cases hb
    · exact .inr (by simp_all [World.ownedByStart, Core.bufferRefs])
  | ping m r =>
    simp only [step] at h
    split at h <;> cases h
    · cases hb
    · exact .inl hb
  | _ =>
    simp only [step] at h
    repeat' split at h
    all_goals cases h
    all_goals cases hb

/-- `close` stores no runtime. -/
lemma ClosePc.step_storesRuntime {pc pc' : ClosePc}
    (h : pc.step options c receivers i env = some (e, pc')) : e.op.storesRuntime = false := by
  cases pc with
  | shutdown s =>
    rcases step_shutdown h with ⟨rfl, -⟩ | ⟨s', hs, -⟩
    · rfl
    · exact ShutdownPc.step_storesRuntime hs
  | lock =>
    simp only [step] at h
    split at h <;> cases h
    rfl
  | _ => cases h <;> rfl

/-- The steps of `close` that set the state to `Disconnected`. -/
lemma ClosePc.step_state {pc pc' : ClosePc}
    (h : pc.step options c receivers i env = some (e, pc'))
    (hd : (e.op.onControl c.control).state = .disconnected) :
    c.control.state = .disconnected ∨ pc.shutdown? = some .setDisconnected := by
  cases pc with
  | shutdown s =>
    rcases step_shutdown h with ⟨rfl, -⟩ | ⟨s', hs, -⟩
    · exact .inl hd
    · exact (ShutdownPc.step_state hs hd).imp_right (congrArg some)
  | lock =>
    simp only [step] at h
    split at h <;> cases h
    exact .inl hd
  | sendStop =>
    cases h
    refine .inl ?_
    simp only [Effect.control, Op.onControl, Control.sendStop] at hd
    split at hd <;> exact hd
  | _ => cases h <;> first | exact .inl hd | cases hd

/-- A supervisor stores a runtime at two places. -/
lemma Supervisor.step_storesRuntime {s s' : Supervisor} (h : s.step options c env = some (e, s'))
    (hop : e.op.storesRuntime = true) : s.pc.storesRuntime = true := by
  unfold step at h
  split at h
  all_goals
    rename_i hpc
    repeat' split at h
    all_goals cases h
    all_goals simp_all [Op.storesRuntime, SupervisorPc.storesRuntime, Effect.skip, Effect.control]

/-- A supervisor sets the state to `Disconnected` at one place. -/
lemma Supervisor.step_state {s s' : Supervisor} (h : s.step options c env = some (e, s'))
    (hd : (e.op.onControl c.control).state = .disconnected) :
    c.control.state = .disconnected ∨ s.pc.ends = true := by
  unfold step at h
  split at h
  all_goals
    rename_i hpc
    repeat' split at h
    all_goals cases h
    all_goals simp_all [Op.onControl, Effect.skip, Effect.control, SupervisorPc.ends,
      Control.invokeClosed]
  split at hd <;> exact hd

end Tasks

/-! ## Waiting calls -/

namespace World

/-- Call `i` waits for room in buffer `b`: its sender is stored in the buffer, which is there. -/
def Waiting (w : World) (i b : ℕ) : Prop :=
  w.core.calls[i]?.map Call.pc = some (.awaitRoom b) ∧ i ∈ w.core.senders b ∧ w.Owned b

/-- Every `start` has not begun or has returned, every `close` has not begun, waits for another one
or has returned, and every supervisor waits for an event or has ended. -/
structure Idle (w : World) : Prop where
  starts : ∀ pc ∈ w.starts, pc.idle = true
  closes : ∀ pc ∈ w.closes, pc.idle = true
  supervisors : ∀ s ∈ w.supervisors, s.pc.idle = true

/-- The references to buffers in the fields and in the calls of `start`: those through which a
buffer can stay or get back into the fields. -/
def sharedRefs (w : World) : List (Option ℕ) := w.core.bufferRefs ++ w.starts.map ownedByStart

/-- The places of all shutdowns. -/
def shutdowns (w : World) : List ShutdownPc :=
  w.starts.filterMap StartPc.shutdown? ++ w.closes.filterMap ClosePc.shutdown?

/-- The condition on a step. A step that ends the connection without a shutdown finds no sender in
the buffers; no supervisor stores a runtime after the connection has ended or while a shutdown has
taken it; and what is sent after the end fits into the buffer. -/
def EndsReleased (options : ConnectionOptions) (w : World) : Action → Prop
  | .start i _ => ∀ pc ∈ w.starts[i]?, pc.ends = true → w.core.Released w.sharedRefs
  | .supervisor k _ => ∀ s ∈ w.supervisors[k]?,
      (s.pc.ends = true → w.core.Released w.sharedRefs) ∧
      (s.pc.storesRuntime = true → w.core.control.state ≠ .disconnected ∧
        ∀ pc ∈ w.shutdowns, pc.takenRuntime = false)
  | .core a => w.core.control.state = .disconnected → ∀ m ∈ w.core.sends a, w.core.Fits options m
  | .newStart | .newClose | .close .. | .supervisorEnds _ => True

instance (options : ConnectionOptions) (w : World) :
    (a : Action) → Decidable (w.EndsReleased options a)
  | .start i _ => inferInstanceAs (Decidable
      (∀ pc ∈ w.starts[i]?, pc.ends = true → w.core.Released w.sharedRefs))
  | .supervisor k _ => inferInstanceAs (Decidable (∀ s ∈ w.supervisors[k]?,
      (s.pc.ends = true → w.core.Released w.sharedRefs) ∧
      (s.pc.storesRuntime = true → w.core.control.state ≠ .disconnected ∧
        ∀ pc ∈ w.shutdowns, pc.takenRuntime = false)))
  | .core a => inferInstanceAs (Decidable
      (w.core.control.state = .disconnected → ∀ m ∈ w.core.sends a, w.core.Fits options m))
  | .newStart | .newClose | .close .. | .supervisorEnds _ => .isTrue trivial

/-- What holds while tasks shut the connection down, and after it has ended. -/
structure EndInvariant (w : World) : Prop where
  lock : w.LockHeld
  shutDown : ∀ t s, w.shutdownPc t = some s → w.core.ShutDown s
  released : w.core.control.state = .disconnected → w.core.Released w.sharedRefs

variable {options : ConnectionOptions} {w w' : World} {a : Action} {t : Task} {e : Effect}

/-- A shutdown is at a place of the list. -/
lemma mem_shutdowns {s : ShutdownPc} (h : w.shutdownPc t = some s) : s ∈ w.shutdowns := by
  cases t with
  | start i =>
    obtain ⟨pc, hpc, hs⟩ := Option.bind_eq_some_iff.mp h
    exact List.mem_append_left _ (List.mem_filterMap.mpr ⟨pc, List.mem_of_getElem? hpc, hs⟩)
  | close i =>
    obtain ⟨pc, hpc, hs⟩ := Option.bind_eq_some_iff.mp h
    exact List.mem_append_right _ (List.mem_filterMap.mpr ⟨pc, List.mem_of_getElem? hpc, hs⟩)

/-- The invariant holds initially. -/
lemma EndInvariant.init : EndInvariant new where
  lock := .init
  shutDown := by rintro (i | i) s h <;> simp [shutdownPc, new] at h
  released := fun _ => by simp [Core.Released, sharedRefs, Core.bufferRefs, new, Core.new]

/-- A `start` that refers to a buffer is where it holds the lock. -/
lemma locked_of_ownedByStart {pc : StartPc} {b : ℕ} (h : ownedByStart pc = some b) :
    pc.locked = true := by
  cases pc <;> first | rfl | cases h

/-- **The end of a shutdown**: when a task sets the state at the end of its shutdown, no sender is
left.

**Proof sketch.** The fields have been emptied, and no `start` refers to a buffer: it would hold the
lock. -/
lemma EndInvariant.released_of_shutdown (h : EndInvariant w)
    (hs : w.shutdownPc t = some .setDisconnected) : w.core.Released w.sharedRefs := by
  obtain ⟨hrt, hbuf⟩ := h.shutDown t _ hs
  intro r hr b hb
  obtain rfl : r = some b := hb
  simp only [sharedRefs, Core.bufferRefs, List.mem_append, List.mem_cons, List.not_mem_nil,
    or_false] at hr
  rcases hr with (hr | hr) | hr
  · exact hbuf rfl _ (List.mem_singleton_self _) b hr.symm
  · simp [hrt rfl] at hr
  · obtain ⟨pc, hpc, hown⟩ := List.mem_map.mp hr
    obtain ⟨j, hj⟩ := List.getElem?_of_mem hpc
    have hl : w.locked (.start j) = true := by simp [locked, hj, locked_of_ownedByStart hown]
    obtain rfl := h.lock.eq hl (locked_of_shutdownPc hs)
    simp only [shutdownPc, hj, Option.bind_some] at hs
    cases pc <;> cases hs
    cases hown

/-- The shutdowns after a step of `start` or `close`.

**Proof sketch.** The task that takes the step goes on with its own shutdown. When another one is in
its shutdown it holds the lock, so the step changes nothing but `Control`. -/
lemma EndInvariant.shutDown_taskStep (h : EndInvariant w) (hs : TaskStep options w w' t e)
    {t' : Task} {s : ShutdownPc} (ht' : w'.shutdownPc t' = some s) : w'.core.ShutDown s := by
  rw [hs.core]
  by_cases htt : t' = t
  · subst htt
    rcases hs.shutdown s ht' with rfl | ⟨s₀, env, hs₀, hstep⟩
    · constructor <;> intro hs <;> cases hs
    · exact (h.shutDown t' s₀ hs₀).step hstep
  · rw [hs.shutdownPc_ne t' htt] at ht'
    have hl : w.locked t = false := by
      by_contra hl
      exact htt (h.lock.eq (locked_of_shutdownPc ht') (by simpa using hl))
    obtain ⟨control, hop⟩ := hs.unlocked hl
    exact (h.shutDown t' s ht').applyOp fun _ => by rw [hop]; rfl

/-- The references after a step of `start` are old ones, or one to a new buffer. -/
lemma sharedRefs_start {i n b : ℕ} {env : Env} {pc pc' : StartPc} {receivers : Bool}
    (hi : w.starts[i]? = some pc)
    (hr : pc.step options w.core receivers n i env = some (e, pc'))
    (hb : some b ∈ sharedRefs { w.apply options e with starts := w.starts.set i pc' }) :
    some b ∈ w.sharedRefs ∨ (w.core.applyOp options e.op).senders b = [] := by
  have hmem := List.mem_of_getElem? hi
  rcases List.mem_append.mp hb with hb | hb
  · cases hop : e.op.storesRuntime with
    | false => exact (Core.bufferRefs_applyOp hop hb).imp_left (List.mem_append_left _)
    | true =>
      -- the runtime refers to the buffer the `start` referred to
      obtain ⟨m, r, rfl, he⟩ := StartPc.step_storesRuntime hr hop
      simp only [apply, he, Core.bufferRefs, Core.runtime_storeRuntime, List.mem_cons,
        List.not_mem_nil, or_false] at hb ⊢
      rcases hb with hb | hb
      · exact (Core.messageBuffer_applyOp hb.symm).imp_left fun hold =>
          List.mem_append_left _ (by simp [Core.bufferRefs, hold])
      · exact .inl (List.mem_append_right _ (List.mem_map.mpr ⟨_, hmem, hb.symm⟩))
  · obtain ⟨x, hx, hown⟩ := List.mem_map.mp hb
    rcases List.mem_or_eq_of_mem_set hx with hx | rfl
    · exact .inl (List.mem_append_right _ (List.mem_map.mpr ⟨x, hx, hown⟩))
    · rcases StartPc.step_owned hr hown with hold | hold
      · exact .inl (List.mem_append_right _ (List.mem_map.mpr ⟨pc, hmem, hold⟩))
      · exact .inl (List.mem_append_left _ hold)

/-- The references after another step that stores no runtime. -/
lemma sharedRefs_apply {b : ℕ} (hop : e.op.storesRuntime = false)
    (hb : some b ∈ (w.core.applyOp options e.op).bufferRefs ++ w.starts.map ownedByStart) :
    some b ∈ w.sharedRefs ∨ (w.core.applyOp options e.op).senders b = [] := by
  rcases List.mem_append.mp hb with hb | hb
  · exact (Core.bufferRefs_applyOp hop hb).imp_left (List.mem_append_left _)
  · exact .inl (List.mem_append_right _ hb)

/-- **Steps keep the invariant** under the condition.

**Proof sketch.** A step that leaves the state `Disconnected` finds the buffers released: the state
was `Disconnected` before, the condition says so, or it is the last step of a shutdown
(`released_of_shutdown`). No step but a send stores a sender, and no step refers to a buffer that
was not referred to before, but for the supervisors the condition is about. -/
theorem EndInvariant.step (h : EndInvariant w) (hok : w.EndsReleased options a)
    (hstep : Step options w a w') : EndInvariant w' := by
  refine ⟨h.lock.step hstep, ?_, ?_⟩
  · intro t s hs
    cases hstep with
    | newStart => exact h.shutDown t s ((places_newStart w t).2 ▸ hs)
    | newClose => exact h.shutDown t s ((places_newClose w t).2 ▸ hs)
    | start hi hr => exact h.shutDown_taskStep (taskStep_start hi hr) hs
    | close hi hr => exact h.shutDown_taskStep (taskStep_close hi hr) hs
    | @supervisor k env s₀ s₁ e hk _ hr =>
      rw [(places_supervisor options w e _ t).2] at hs
      refine (h.shutDown t s hs).applyOp fun htaken => ?_
      by_contra hop
      have hpc := Supervisor.step_storesRuntime hr (by simpa using hop)
      have := ((hok s₀ hk).2 hpc).2 s (mem_shutdowns hs)
      simp [htaken] at this
    | supervisorEnds => exact h.shutDown t s hs
    | core ha hr => exact (h.shutDown t s hs).of_next (ne_op_of_coreEnabled ha) hr
  · intro hd
    cases hstep with
    | newStart =>
      intro r hr b hb
      obtain rfl : r = some b := hb
      refine h.released hd _ ?_ b rfl
      simp only [sharedRefs, List.map_append, List.mem_append] at hr ⊢
      rcases hr with hr | hr | hr
      · exact .inl hr
      · exact .inr hr
      · cases List.mem_singleton.mp hr
    | newClose => exact h.released hd
    | @start i env pc pc' e hi hr =>
      have hd' : (e.op.onControl w.core.control).state = .disconnected := by simpa [apply] using hd
      have hold : w.core.Released w.sharedRefs := by
        rcases StartPc.step_state hr hd' with hst | hends | hsh
        · exact h.released hst
        · exact hok pc hi hends
        · exact h.released_of_shutdown (t := .start i) (by simp [shutdownPc, hi, hsh])
      exact hold.applyOp fun b hb => sharedRefs_start hi hr hb
    | @close i env pc pc' e hi hr =>
      have hd' : (e.op.onControl w.core.control).state = .disconnected := by simpa [apply] using hd
      have hold : w.core.Released w.sharedRefs := by
        rcases ClosePc.step_state hr hd' with hst | hsh
        · exact h.released hst
        · exact h.released_of_shutdown (t := .close i) (by simp [shutdownPc, hi, hsh])
      exact hold.applyOp fun b hb => sharedRefs_apply (ClosePc.step_storesRuntime hr) hb
    | @supervisor k env s s' e hk _ hr =>
      have hd' : (e.op.onControl w.core.control).state = .disconnected := by simpa [apply] using hd
      have hold : w.core.Released w.sharedRefs := by
        rcases Supervisor.step_state hr hd' with hst | hends
        · exact h.released hst
        · exact (hok s hk).1 hends
      refine hold.applyOp fun b hb => sharedRefs_apply ?_ hb
      by_contra hop
      have hpc := Supervisor.step_storesRuntime hr (by simpa using hop)
      rcases Supervisor.step_state hr hd' with hst | hends
      · exact ((hok s hk).2 hpc).1 hst
      · cases hs : s.pc <;> simp [hs, SupervisorPc.ends, SupervisorPc.storesRuntime] at hends hpc
    | supervisorEnds => exact h.released hd
    | @core ca c hen hr =>
      have ha := ne_op_of_coreEnabled hen
      have hsame := sameLifecycle_of_next ha hr
      have hst : w.core.control.state = .disconnected := by simpa [hsame.control] using hd
      have hrefs : c.bufferRefs = w.core.bufferRefs := by
        have hrt := congrArg (·.bind HubRuntime.messageBuffer) hsame.runtime
        simp only [Option.bind_map] at hrt
        simp only [Core.bufferRefs, hsame.messageBuffer]
        exact congrArg (fun r => [_, r]) hrt
      intro r hr' b hb
      refine Core.senders_of_next ha (hok hst) hr (h.released hst r ?_ b hb)
      simpa [sharedRefs, hrefs] using hr'

end World

/-! ## Runs -/

namespace World

variable {w : World}

/-- When nothing is at work, the references to buffers are those of the fields. -/
lemma Idle.mem_sharedRefs (h : Idle w) {b : ℕ} (hb : w.Owned b) : some b ∈ w.sharedRefs := by
  simp only [Owned, owners, List.mem_cons, List.mem_append, List.mem_map] at hb
  rcases hb with hb | hb | (⟨pc, hpc, hb⟩ | ⟨pc, hpc, hb⟩) | ⟨s, hs, hb⟩
  · exact List.mem_append_left _ (by simp [Core.bufferRefs, hb])
  · exact List.mem_append_left _ (by simp [Core.bufferRefs, hb])
  · have hpc := h.starts pc hpc
    cases pc <;> simp [StartPc.idle] at hpc <;> cases hb
  · have hpc := h.closes pc hpc
    cases pc <;> simp [ClosePc.idle] at hpc <;> cases hb
  · have hpc := h.supervisors s hs
    cases hs : s.pc <;> simp [hs, SupervisorPc.idle] at hpc <;> simp [hs, ownedBySupervisor] at hb

end World

/-- **No call waits after the end**: in every run that meets the condition, when the connection is
disconnected and nothing is at work, no call waits for room, and no sender is stored in a buffer
that is still referred to. -/
theorem senders_released_of_disconnected {options : ConnectionOptions} {as : List Action}
    {w : World} (hrun : (World.system options).run as = some w)
    (hm : (World.system options).Meets (World.EndsReleased options) as) (hidle : w.Idle)
    (hd : w.core.control.state = .disconnected) :
    (∀ i b, ¬ w.Waiting i b) ∧ ∀ b, w.Owned b → w.core.senders b = [] := by
  have h := Automata.System.invariant_of_meets World.EndInvariant.init
    (fun w a w' hw hok hnext => World.EndInvariant.step hw hok (World.step_of_next hnext)) hrun hm
  have hrel : ∀ b, w.Owned b → w.core.senders b = [] := fun b hb =>
    h.released hd _ (hidle.mem_sharedRefs hb) b rfl
  refine ⟨?_, hrel⟩
  rintro i b ⟨-, hmem, hown⟩
  simp [hrel b hown] at hmem

/-- Options of a stateful connection whose buffer is filled by one message. -/
def ConnectionOptions.narrow : ConnectionOptions := ⟨.typeOnly, .text, 1, none⟩

/-- A `send` fills the buffer of a stateful connection and waits for room. -/
def fillBuffer : List Action := World.startRun .resumable ++ World.callRun 0 3 .send []

/-- A `send` waits for room when the connection is closed. -/
def closeFullBuffer : List Action := fillBuffer ++ .newClose :: List.replicate 20 (.close 0 {})

/-- What the two runs are compared on: whether everything is idle, the state, the places of the
calls, and the senders and owners of the buffer. -/
def World.summary (w : World) :
    (Bool × Bool × Bool) × HubConnectionState × List CallPc × List Waiter × Bool :=
  ((w.starts.all StartPc.idle, w.closes.all ClosePc.idle, w.supervisors.all fun s => s.pc.idle),
    w.core.control.state, w.core.calls.map Call.pc, w.core.senders 0, decide (w.Owned 0))

/-- Everything is idle when the summary says so. -/
lemma World.Idle.of_summary {w : World}
    (h : w.summary.1 = (true, true, true)) : w.Idle := by
  simp only [World.summary, Prod.mk.injEq, List.all_eq_true] at h
  exact ⟨h.1, h.2.1, h.2.2⟩

/-- `senders_released_of_disconnected` applies to a connection that is closed while a call waits:
its sender is dropped with the buffer. -/
theorem senders_released_of_closed :
    ∃ w, (World.system .narrow).run closeFullBuffer = some w ∧
      w.summary = ((true, true, true), .disconnected, [.awaitRoom 0], [0], false) ∧
      (∀ i b, ¬ w.Waiting i b) ∧ ∀ b, w.Owned b → w.core.senders b = [] := by
  obtain ⟨w, hw, hsum⟩ := Option.map_eq_some_iff.mp (show
    ((World.system .narrow).run closeFullBuffer).map World.summary =
      some ((true, true, true), .disconnected, [.awaitRoom 0], [0], false) by rfl)
  have hd : w.core.control.state = .disconnected := congrArg (fun x => x.2.1) hsum
  exact ⟨w, hw, hsum, senders_released_of_disconnected hw (by decide +kernel)
    (.of_summary (congrArg Prod.fst hsum)) hd⟩

/-- A `send` waits for room when the connection is lost for good. -/
def loseFullBuffer : List Action := fillBuffer ++ World.supervisorRun 7 .lost

/-- **A call waits after the end**: the connection is lost and there is no reconnect policy. The
supervisor sets the state to `Disconnected` and ends; the buffer stays in the fields, and the `send`
waits for room in it. -/
theorem waiting_after_end :
    ¬ ∀ (options : ConnectionOptions) (as : List Action) (w : World),
      (World.system options).run as = some w → w.Idle →
        w.core.control.state = .disconnected →
          (∀ i b, ¬ w.Waiting i b) ∧ ∀ b, w.Owned b → w.core.senders b = [] := by
  intro h
  obtain ⟨w, hw, hsum⟩ := Option.map_eq_some_iff.mp (show
    ((World.system .narrow).run loseFullBuffer).map World.summary =
      some ((true, true, true), .disconnected, [.awaitRoom 0], [0], true) by rfl)
  have hidle : w.Idle := .of_summary (congrArg Prod.fst hsum)
  simp only [World.summary, Prod.mk.injEq, decide_eq_true_eq] at hsum
  obtain ⟨-, hd, hcalls, hsenders, howned⟩ := hsum
  refine (h _ _ w hw hidle hd).1 0 0 ⟨?_, by simp [hsenders], howned⟩
  rw [← List.getElem?_map, hcalls]
  rfl

end Signalrr.HubConnection
