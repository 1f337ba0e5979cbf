import Signalrr.HubConnection.Lifecycle

set_option relaxedAutoImplicit false
set_option autoImplicit false

/-!
# What a step does to the calls

The properties of calls, stream handles and upload tasks depend on four of the shared fields: the
pending table, the runtime, the calls and the log. `View` is their part of a `Core`, and `ViewStep`
lists everything a step can do to it. Many steps move one call on without changing anything that
other calls can see; `Call.Quiet` says what such a step leaves alone.

## Main definitions

* `Signalrr.HubConnection.Call.registered`, `holdsId`, `announcing` — the stages of a call.
* `Signalrr.HubConnection.Call.WellFormed` — the place of a call agrees with its variables.
* `Signalrr.HubConnection.View`, `Signalrr.HubConnection.Core.view` — the fields calls work on.
* `Signalrr.HubConnection.ViewStep` — everything a step can do to the view.

## Main results

* `Signalrr.HubConnection.viewStep_of_next` — every step on the shared fields is a `ViewStep`.
* `Signalrr.HubConnection.ViewStep.wellFormed` — steps keep the calls well formed.
* `Signalrr.HubConnection.World.view_invariant` — invariants of the view hold along runs.
-/

namespace Signalrr.HubConnection

open Hub

/-! ## Stages of a call -/

namespace Call

/-- The call has not got its id yet. -/
def early (c : Call) : Bool :=
  match c.pc with
  | .checkConnected | .takeStreamIds | .takeId => true
  | _ => false

/-- The call has registered its id, or needs none. -/
def registered (c : Call) : Bool :=
  match c.pc with
  | .checkConnected | .takeStreamIds | .takeId | .register => false
  | _ => true

/-- The invocation has not been handed to a runtime. -/
def unsent (c : Call) : Bool :=
  match c.pc with
  | .checkConnected | .takeStreamIds | .takeId | .register | .sendThrough => true
  | _ => false

/-- The places a call comes to when its invocation was accepted. -/
def sent (c : Call) : Bool :=
  match c.pc with
  | .awaitRoom _ | .launch | .awaitResponse | .returned none => true
  | _ => false

/-- The upload task of the call has been started, if it needs one. -/
def launched (c : Call) : Bool :=
  match c.pc with
  | .awaitResponse | .returned _ => true
  | _ => false

/-- The stream handle has not done its work. -/
def handleAlive (c : Call) : Bool :=
  match c.handle with
  | .none | .done => false
  | _ => true

/-- The handle has removed an entry and goes on to send `CancelInvocation`. -/
def cancels (c : Call) : Bool :=
  match c.handle with
  | .cancelRemoved | .dropRemoved => true
  | _ => false

/-- The call is going to use its id on the pending table: it has not registered it yet, or its
handle is alive. -/
def holdsId (c : Call) : Bool := c.pc = .register || c.handleAlive

/-- The invocation has been sent, and messages of its upload streams may follow. -/
def announcing (c : Call) : Bool :=
  c.uploading || match c.pc with
    | .awaitRoom _ | .launch => !c.streamIds.isEmpty
    | _ => false

/-- The place of a call agrees with its variables. -/
structure WellFormed (c : Call) : Prop where
  early : c.early = true → c.id = none
  handle : c.registered = false → c.handle = .none
  holdsId : c.holdsId = true → c.id.isSome = true
  cleanup : ∀ e, c.pc = .cleanup e → c.id.isSome = true
  unsent : c.unsent = true →
    c.sentOn = none ∧ c.uploading = false ∧ c.producers = [] ∧ c.commands = []
  launched : c.launched = false → c.uploading = false
  producers : ∀ s ∈ c.producers, s ∈ c.streamIds
  commands : ∀ x ∈ c.commands, x.streamId ∈ c.streamIds
  sent : c.sent = true → c.sentOn ≠ none
  dropped : c.handle ≠ .none → c.handle ≠ .live → ∃ e, c.pc = .returned e

/-- `c'` is `c`, moved on without touching ids, connections and the pending table. -/
structure Quiet (c c' : Call) : Prop where
  id : c'.id = c.id
  idConnection : c'.idConnection = c.idConnection
  sentOn : c'.sentOn = c.sentOn
  streamIds : c'.streamIds = c.streamIds
  registered : c.registered = true → c'.registered = true
  holdsId : c'.holdsId = true → c.holdsId = true
  held : c'.holdsId = true → c'.registered = true → c.registered = true
  cancels : c'.cancels = true → c.cancels = true
  returned : c'.holdsId = true → c'.sentOn = none → (∃ e, c'.pc = .returned e) →
    ∃ e, c.pc = .returned e
  announcing : c'.announcing = true → c.announcing = true
  wellFormed : c'.WellFormed

/-- A call that has just been made is well formed. -/
lemma wellFormed_new (kind : CallKind) (target : String) (arguments : List HubArgument) :
    (new kind target arguments).WellFormed where
  early := fun _ => rfl
  handle := fun _ => rfl
  holdsId := by simp [new, Call.holdsId, handleAlive]
  cleanup := by simp [new]
  unsent := fun _ => ⟨rfl, rfl, rfl, rfl⟩
  launched := fun _ => rfl
  producers := by simp [new]
  commands := by simp [new]
  sent := by simp [new, Call.sent]
  dropped := by simp [new]

/-- A handle that was cancelled or dropped may go on to any place. -/
lemma WellFormed.setHandle {c : Call} (hc : c.WellFormed) (hlive : c.handle ≠ .live)
    (halive : c.handle ≠ .none ∧ c.handle ≠ .done) (h : HandlePc) :
    ({ c with handle := h } : Call).WellFormed := by
  have hh : c.holdsId = true := by
    unfold Call.holdsId handleAlive
    split <;> simp_all
  obtain ⟨e, he⟩ := hc.dropped halive.1 hlive
  exact { hc with
    handle := by simp [Call.registered, he]
    holdsId := fun _ => hc.holdsId hh
    dropped := fun _ _ => ⟨e, he⟩ }

section Quiet

variable {c : Call}

/-- A call finds the connection connected. -/
lemma quiet_check (hc : c.WellFormed) (hpc : c.pc = .checkConnected) :
    c.Quiet { c with pc := .takeStreamIds } := by
  have hl := hc.launched
  have hp := hc.producers
  have hx := hc.commands
  have hid := hc.early (by simp [Call.early, hpc])
  have hh := hc.handle (by simp [Call.registered, hpc])
  have hs := hc.unsent (by simp [Call.unsent, hpc])
  constructor
  case wellFormed =>
    constructor <;> simp_all [Call.registered, Call.holdsId, handleAlive, Call.sent, Call.launched]
  all_goals simp_all [Call.registered, Call.holdsId, handleAlive, Call.cancels, Call.announcing]

/-- A call fails before it has an id. -/
lemma quiet_fail (hc : c.WellFormed) (he : c.early = true) (error : Error) :
    c.Quiet { c with pc := .returned (some error) } := by
  have hl := hc.launched
  have hp := hc.producers
  have hx := hc.commands
  have hreg : c.registered = false := by
    unfold Call.early at he
    unfold Call.registered
    split at he <;> simp_all
  have hh := hc.handle hreg
  constructor
  case wellFormed =>
    constructor <;> simp_all [Call.early, Call.registered, Call.holdsId, handleAlive, Call.unsent,
      Call.sent, Call.launched]
  all_goals simp_all [Call.registered, Call.holdsId, handleAlive, Call.cancels, Call.announcing]

/-- A call finds no runtime to send its invocation through. -/
lemma quiet_unsent (hc : c.WellFormed) (hpc : c.pc = .sendThrough) (error : Error) :
    c.Quiet { c with pc := Core.failedPc c error } := by
  have hl := hc.launched
  have hp := hc.producers
  have hx := hc.commands
  have hd := hc.dropped
  have hid := hc.holdsId
  rcases hi : c.id with _ | id
  · -- without an id there is no handle
    have hh : c.handleAlive = false := by
      by_contra h
      simp_all [Call.holdsId]
    constructor
    case wellFormed =>
      constructor <;> simp_all [Core.failedPc, Call.early, Call.registered, Call.holdsId,
        Call.unsent, Call.sent, handleAlive, Call.launched]
    all_goals simp_all [Core.failedPc, Call.registered, Call.holdsId, handleAlive, Call.cancels,
      Call.announcing]
  · constructor
    case wellFormed =>
      constructor <;> simp_all [Core.failedPc, Call.early, Call.registered, Call.holdsId,
        Call.unsent, Call.sent, Call.launched]
    all_goals simp_all [Core.failedPc, Call.registered, Call.holdsId, handleAlive, Call.cancels,
      Call.announcing]

/-- There is room in the buffer for a call. -/
lemma quiet_room (hc : c.WellFormed) {b : ℕ} (hpc : c.pc = .awaitRoom b) :
    c.Quiet { c with pc := .launch } := by
  have hl := hc.launched
  have hp := hc.producers
  have hx := hc.commands
  have hd := hc.dropped
  have hid := hc.holdsId
  have hs := hc.sent
  constructor
  case wellFormed =>
    constructor <;> simp_all [Call.early, Call.registered, Call.holdsId, Call.unsent, Call.sent,
      handleAlive, Call.launched]
  all_goals simp_all [Call.registered, Call.holdsId, handleAlive, Call.cancels, Call.announcing]

/-- A call starts its upload task. -/
lemma quiet_launch (hc : c.WellFormed) (hpc : c.pc = .launch) {pc : CallPc}
    (hnew : pc = .awaitResponse ∨ pc = .returned none) :
    c.Quiet { c with uploading := !c.streamIds.isEmpty, producers := c.streamIds, pc := pc } := by
  have hl := hc.launched
  have hp := hc.producers
  have hx := hc.commands
  have hd := hc.dropped
  have hid := hc.holdsId
  have hs := hc.sent (by simp [Call.sent, hpc])
  rcases hnew with rfl | rfl
  all_goals
    constructor
    case wellFormed =>
      constructor <;> simp_all [Call.early, Call.registered, Call.holdsId, Call.unsent, Call.sent,
        handleAlive, Call.launched]
    all_goals simp_all [Call.registered, Call.holdsId, handleAlive, Call.cancels, Call.announcing]

/-- An invocation gets its response. -/
lemma quiet_response (hc : c.WellFormed) (hpc : c.pc = .awaitResponse) :
    c.Quiet { c with pc := .returned none } := by
  have hl := hc.launched
  have hp := hc.producers
  have hx := hc.commands
  have hd := hc.dropped
  have hid := hc.holdsId
  have hs := hc.sent (by simp [Call.sent, hpc])
  constructor
  case wellFormed =>
    constructor <;> simp_all [Call.early, Call.registered, Call.holdsId, Call.unsent, Call.sent,
      handleAlive, Call.launched]
  all_goals simp_all [Call.registered, Call.holdsId, handleAlive, Call.cancels, Call.announcing]

/-- A handle is cancelled or dropped, or goes on after its `CancelInvocation`. -/
lemma quiet_handle (hc : c.WellFormed) {e : Option Error} (hpc : c.pc = .returned e)
    (halive : c.handleAlive = true) {h : HandlePc}
    (hnew : h = .cancelling ∨ h = .dropping ∨ h = .done) : c.Quiet { c with handle := h } := by
  have hl := hc.launched
  have hp := hc.producers
  have hx := hc.commands
  have hid := hc.holdsId
  have hs := hc.sent
  rcases hnew with rfl | rfl | rfl
  all_goals
    constructor
    case wellFormed =>
      constructor <;> simp_all [Call.early, Call.registered, Call.holdsId, Call.unsent, Call.sent,
        Call.launched]
    all_goals simp_all [Call.registered, Call.holdsId, handleAlive, Call.cancels, Call.announcing]

/-- The upload streams and the upload task of a call go on. -/
lemma quiet_upload (hc : c.WellFormed) {uploading : Bool} {producers : List String}
    {commands : List UploadCommand} (hu : uploading = true → c.uploading = true)
    (hp : ∀ s ∈ producers, s ∈ c.producers)
    (hx : ∀ x ∈ commands, x ∈ c.commands ∨ x.streamId ∈ c.producers) :
    c.Quiet { c with uploading := uploading, producers := producers, commands := commands } := by
  constructor
  case wellFormed =>
    refine { hc with
      unsent := fun h => ?_, launched := fun h => ?_, producers := ?_, commands := ?_ }
    · obtain ⟨hs, hup, hnp, hnc⟩ := hc.unsent h
      simp only [hnp, hnc, List.not_mem_nil, or_self, imp_false] at hp hx
      refine ⟨hs, ?_, List.eq_nil_iff_forall_not_mem.mpr hp, List.eq_nil_iff_forall_not_mem.mpr hx⟩
      simp_all
    · by_contra hne
      have := hc.launched h
      simp_all
    · exact fun s hs => hc.producers s (hp s hs)
    · exact fun x h => (hx x h).elim (hc.commands x) (hc.producers _)
  case announcing =>
    unfold Call.announcing
    simp only [Bool.or_eq_true]
    exact Or.imp_left hu
  all_goals simp_all [Call.registered, Call.holdsId, handleAlive, Call.cancels]

end Quiet

end Call

/-! ## The fields calls work on -/

/-- The fields calls work on. -/
structure View where
  pending : PendingTable
  runtime : Option HubRuntime
  calls : List Call
  log : Log

/-- The fields calls work on. -/
def Core.view (c : Core) : View := ⟨c.pending, c.runtime, c.calls, c.log⟩

namespace View

/-- Changes a call. -/
def setCall (v : View) (i : ℕ) (call : Call) : View := { v with calls := v.calls.set i call }

/-- The calls after a change of one of them. -/
lemma getElem?_setCall {v : View} {i j : ℕ} {c d : Call}
    (h : (v.setCall i c).calls[j]? = some d) :
    (j = i ∧ d = c) ∨ (j ≠ i ∧ v.calls[j]? = some d) := by
  simp only [setCall, List.getElem?_set] at h
  split at h
  · rename_i hij
    split at h
    · exact .inl ⟨hij.symm, by simpa using h.symm⟩
    · cases h
  · rename_i hij
    exact .inr ⟨fun e => hij e.symm, h⟩

/-- A changed call is found at its place. -/
lemma getElem?_setCall_self {v : View} {i : ℕ} {c c' : Call} (hi : v.calls[i]? = some c) :
    (v.setCall i c').calls[i]? = some c' := by
  have hlt := (List.getElem?_eq_some_iff.mp hi).1
  simp [setCall, hlt]

/-- The other calls stay. -/
lemma getElem?_setCall_ne {v : View} {i j : ℕ} {c' : Call} (hij : j ≠ i) :
    (v.setCall i c').calls[j]? = v.calls[j]? := by
  simp [setCall, List.getElem?_set_ne hij.symm]

/-- All calls are well formed. -/
def WellFormed (v : View) : Prop := ∀ (i : ℕ) c, v.calls[i]? = some c → c.WellFormed

end View

/-! ## Everything a step can do -/

/-- Everything a step can do to the fields calls work on. -/
inductive ViewStep (v : View) : CoreAction → View → Prop
  /-- The step is about other fields. -/
  | keep (a : CoreAction) : ViewStep v a v
  | cancelAllPending (error : String) :
    ViewStep v (.op (.cancelAllPending error)) { v with pending := [] }
  | storeRuntime (connection transport : ℕ) (b : Option ℕ)
      (writes : Option (ℕ → Except Error Unit)) :
    ViewStep v (.op (.storeRuntime connection transport b writes))
      { v with runtime := some ⟨connection, transport, b, 0⟩ }
  | takeRuntime : ViewStep v (.op .takeRuntime) { v with runtime := none }
  | newCall (kind : CallKind) (target : String) (arguments : List HubArgument) :
    ViewStep v (.newCall kind target arguments)
      { v with calls := v.calls ++ [.new kind target arguments] }
  /-- One call goes on quietly. -/
  | quiet (a : CoreAction) {i : ℕ} {c c' : Call} (hi : v.calls[i]? = some c)
      (h : c.WellFormed → c.Quiet c') : ViewStep v a (v.setCall i c')
  | takeStreamIds {i : ℕ} (outcome : Except Error Unit) {c : Call} {rt : HubRuntime}
      (hi : v.calls[i]? = some c) (hpc : c.pc = .takeStreamIds) (hrt : v.runtime = some rt)
      {values : List Value} {ids : List String} {counter : ℕ} {pc : CallPc}
      (hr : replaceStreamingParams c.arguments rt.invocationId = (values, ids, counter))
      (hnew : pc = .sendThrough ∨ pc = .takeId) :
    ViewStep v (.call i outcome)
      (View.setCall
        { v with
          runtime := some { rt with invocationId := counter }
          log := { v.log with
            issued := v.log.issued ++ ids.map fun id => (rt.connection, id) } }
        i { c with values := values, streamIds := ids, pc := pc })
  | takeId {i : ℕ} (outcome : Except Error Unit) {c : Call} {rt : HubRuntime}
      (hi : v.calls[i]? = some c) (hpc : c.pc = .takeId) (hrt : v.runtime = some rt) :
    ViewStep v (.call i outcome)
      (View.setCall
        { v with
          runtime := some { rt with invocationId := rt.invocationId + 1 }
          log := { v.log with
            issued := v.log.issued ++ [(rt.connection, toString (rt.invocationId + 1))] } }
        i { c with
          id := some (toString (rt.invocationId + 1))
          idConnection := some rt.connection
          pc := .register })
  | register {i : ℕ} (outcome : Except Error Unit) {c : Call} {id : String}
      (hi : v.calls[i]? = some c) (hpc : c.pc = .register) (hid : c.id = some id)
      {p : PendingInvocation} (hp : p.tx = i) {h : HandlePc} (hh : h = c.handle ∨ h = .live) :
    ViewStep v (.call i outcome)
      (View.setCall
        { v with
          pending := v.pending.insert id p
          log := { v.log with overwritten := v.log.overwritten ++ v.pending.entries id } }
        i { c with handle := h, pc := .sendThrough })
  | sendThrough {i : ℕ} (outcome : Except Error Unit) {c : Call} {rt : HubRuntime}
      (hi : v.calls[i]? = some c) (hpc : c.pc = .sendThrough) (hrt : v.runtime = some rt)
      {pc : CallPc}
      (hnew : (∃ e, pc = Core.failedPc c e) ∨ pc = .launch ∨ ∃ b, pc = .awaitRoom b) :
    ViewStep v (.call i outcome)
      (View.setCall
        { v with log := { v.log with
          invoked := v.log.invoked ++ (c.id.map fun id => (id, i)).toList } }
        i { c with sentOn := some rt.connection, pc := pc })
  | cleanup {i : ℕ} (outcome : Except Error Unit) {c : Call} {error : Error}
      (hi : v.calls[i]? = some c) (hpc : c.pc = .cleanup error) {h : HandlePc}
      (hh : h = c.handle ∨ c.handle = .live ∧ h = .dropping) :
    ViewStep v (.call i outcome)
      (View.setCall { v with pending := v.pending.erase (c.id.getD "") }
        i { c with handle := h, pc := .returned (some error) })
  | handleRemove {i : ℕ} (outcome : Except Error Unit) {c : Call} {h : HandlePc}
      (hi : v.calls[i]? = some c) (hc : c.handle = .cancelling ∨ c.handle = .dropping)
      (hnew : v.pending.entries (c.id.getD "") ≠ [] ∨
        ({ c with handle := h } : Call).cancels = false) :
    ViewStep v (.handle i outcome)
      (View.setCall
        { v with
          pending := v.pending.erase (c.id.getD "")
          log := { v.log with removals := v.log.removals ++
            (v.pending.entries (c.id.getD "")).map fun e => (i, e.2.tx) } }
        i { c with handle := h })
  | handleSend {i : ℕ} (outcome : Except Error Unit) {c : Call} {h : HandlePc} {rt : HubRuntime}
      (hi : v.calls[i]? = some c) (hc : c.cancels = true) (hrt : v.runtime = some rt)
      (hnew : h = .dropping ∨ h = .done) :
    ViewStep v (.handle i outcome)
      (View.setCall
        { v with log := { v.log with cancels := v.log.cancels ++ [(i, rt.connection)] } }
        i { c with handle := h })
  | upload {i : ℕ} (outcome : Except Error Unit) {c : Call} {rt : HubRuntime}
      (hi : v.calls[i]? = some c) (hup : c.uploading = true) (hrt : v.runtime = some rt)
      {command : UploadCommand} {rest : List UploadCommand} (hcmd : c.commands = command :: rest)
      {uploading : Bool} :
    ViewStep v (.upload i outcome)
      (View.setCall
        { v with log := { v.log with
          uploads := v.log.uploads ++ [(i, command.streamId, rt.connection)] } }
        i { c with commands := rest, uploading := uploading })
  | receive (b : Option ℕ) (message : HubMessage) (outcome : Except Error Unit)
      {pending : PendingTable} {delivered : List (String × ℕ)} (hp : ∀ e ∈ pending, e ∈ v.pending)
      (hd : ∀ d ∈ delivered, ∃ p, (d.1, p) ∈ v.pending ∧ p.tx = d.2) :
    ViewStep v (.receive b message outcome)
      { v with
        pending := pending
        log := { v.log with delivered := v.log.delivered ++ delivered } }
  | cancelStream (id : String) :
    ViewStep v (.cancelStream id) { v with pending := v.pending.erase id }

section Steps

variable {options : ConnectionOptions} {c c' : Core}

/-- A send through a runtime changes nothing but its buffer. -/
lemma runtimeSend_eq (options : ConnectionOptions) (c : Core) (rt : HubRuntime)
    (message : HubMessage) (waiter : Waiter) (outcome : Except Error Unit) :
    ∃ buffers,
      (c.runtimeSend options rt message waiter outcome).1 = { c with buffers := buffers } := by
  unfold Core.runtimeSend
  split
  · exact ⟨c.buffers, rfl⟩
  · exact ⟨_, rfl⟩

/-- The fields that a shutdown of the runtime does not touch. -/
lemma shutdown_eq (options : ConnectionOptions) (c : Core) (rt : HubRuntime)
    (write outcome : Except Error Unit) :
    ∃ buffers, (c.shutdown options rt write outcome).1 =
        { c with buffers := buffers, transports := c.transports.set rt.transport true } ∧
      (c.shutdown options rt write outcome).2 =
        if c.transports[rt.transport]? = some true then .ok () else outcome := by
  obtain ⟨buffers, hb⟩ := runtimeSend_eq options c rt (.close ⟨none, none⟩) 0 write
  refine ⟨buffers, ?_, ?_⟩ <;> simp only [Core.shutdown, Core.closeTransport, hb]

/-- The operations of the life cycle. -/
lemma viewStep_op (options : ConnectionOptions) (c : Core) (op : Op) :
    ViewStep c.view (.op op) (c.applyOp options op).view := by
  cases op with
  | cancelAllPending error => exact .cancelAllPending error
  | takeRuntime => exact .takeRuntime
  | storeRuntime connection transport b writes =>
    have hview : (c.applyOp options (.storeRuntime connection transport b writes)).view =
        { c.view with runtime := some ⟨connection, transport, b, 0⟩ } := by
      cases writes with
      | none => rfl
      | some writes =>
        simp only [Core.applyOp, Core.resend]
        split <;> rfl
    rw [hview]
    exact .storeRuntime connection transport b writes
  | storeBuffer stateful => cases stateful <;> exact .keep _
  | shutdownRuntime rt write outcome =>
    obtain ⟨buffers, hb⟩ := runtimeSend_eq options c rt (.close ⟨none, none⟩) 0 write
    have hview : (c.applyOp options (.shutdownRuntime rt write outcome)).view = c.view := by
      simp only [Core.applyOp, Core.shutdown, Core.closeTransport, hb]
      rfl
    rw [hview]
    exact .keep _
  | control | clearBuffer | disconnectBuffer | closeTransport | connect | reopen => exact .keep _

/-- The steps of calls. -/
lemma viewStep_call {i : ℕ} {call : Call} {outcome : Except Error Unit}
    (hi : c.calls[i]? = some call) (h : c.callStep options i call outcome = some c') :
    ViewStep c.view (.call i outcome) c'.view := by
  unfold Core.callStep at h
  split at h
  case h_1 hpc =>
    obtain rfl := Option.some.inj h
    refine .quiet (c := call) _ hi fun hc => ?_
    split
    · exact Call.quiet_check hc hpc
    · exact Call.quiet_fail hc (by simp [Call.early, hpc]) _
  case h_2 hpc =>
    obtain rfl := Option.some.inj h
    unfold Core.takeStreamIds Core.withRuntime
    split
    · exact .quiet (c := call) _ hi fun hc => Call.quiet_fail hc (by simp [Call.early, hpc]) _
    · rename_i rt hrt
      refine .takeStreamIds outcome (c := call) hi hpc hrt rfl ?_
      split
      · exact .inl rfl
      · exact .inr rfl
  case h_3 hpc =>
    obtain rfl := Option.some.inj h
    unfold Core.takeId Core.withRuntime
    split
    · exact .quiet (c := call) _ hi fun hc => Call.quiet_fail hc (by simp [Call.early, hpc]) _
    · rename_i rt hrt
      exact .takeId outcome hi hpc hrt
  case h_4 hpc =>
    obtain ⟨id, hid, rfl⟩ := Option.map_eq_some_iff.mp h
    unfold Core.register
    split
    · exact .register outcome (p := .stream i) hi hpc hid rfl (.inr rfl)
    · exact .register outcome (p := .single i) hi hpc hid rfl (.inl rfl)
  case h_5 hpc =>
    obtain rfl := Option.some.inj h
    unfold Core.sendThrough
    split
    · exact .quiet (c := call) _ hi fun hc => Call.quiet_unsent hc hpc _
    · rename_i rt hrt
      obtain ⟨buffers, hb⟩ := runtimeSend_eq options c rt call.message i outcome
      simp only [hb]
      refine .sendThrough outcome (c := call) hi hpc hrt ?_
      split
      · exact .inl ⟨_, rfl⟩
      · exact .inr (.inl rfl)
      · exact .inr (.inr ⟨_, rfl⟩)
  case h_6 b hpc =>
    split at h
    · obtain rfl := Option.some.inj h
      exact .quiet (c := call) _ hi fun hc => Call.quiet_room hc hpc
    · cases h
  case h_7 hpc =>
    obtain rfl := Option.some.inj h
    refine .quiet (c := call) _ hi fun hc => Call.quiet_launch hc hpc ?_
    split
    · exact .inl rfl
    · exact .inr rfl
  case h_8 error hpc =>
    obtain rfl := Option.some.inj h
    refine .cleanup outcome (c := call) hi hpc ?_
    split
    · exact .inr ⟨‹_›, rfl⟩
    · exact .inl rfl
  case h_9 hpc =>
    split at h
    · obtain rfl := Option.some.inj h
      exact .quiet (c := call) _ hi fun hc => Call.quiet_response hc hpc
    · cases h
  case h_10 => cases h

/-- The steps of stream handles. -/
lemma viewStep_handle {i : ℕ} {call : Call} {outcome : Except Error Unit}
    (hi : c.calls[i]? = some call) (h : c.handleStep options i call outcome = some c') :
    ViewStep c.view (.handle i outcome) c'.view := by
  -- an entry was removed only if there was one
  have hfound : ∀ {removed missing : HandlePc},
      ({ call with handle := missing } : Call).cancels = false →
      c.pending.entries (call.id.getD "") ≠ [] ∨
        ({ call with
          handle := if (c.pending.removePending (call.id.getD "")).2 then removed else missing } :
            Call).cancels = false := by
    intro removed missing hmissing
    split
    · rename_i hl
      obtain ⟨p, hp⟩ := Option.isSome_iff_exists.mp hl
      have hmem := PendingTable.mem_entries.mpr ⟨PendingTable.mem_of_lookup hp, rfl⟩
      exact .inl (List.ne_nil_of_mem hmem)
    · exact .inr hmissing
  have hsend : ∀ {sent : HandlePc}, sent = .dropping ∨ sent = .done → call.cancels = true →
      ViewStep c.view (.handle i outcome) (c.handleSend options i call sent outcome).view := by
    intro sent hs hc
    unfold Core.handleSend
    split
    · refine .quiet (c := call) _ hi fun hwf => ?_
      have hne : call.handle ≠ .none ∧ call.handle ≠ .live := by
        constructor <;> intro hh <;> simp [Call.cancels, hh] at hc
      have halive : call.handleAlive = true := by
        unfold Call.cancels at hc
        unfold Call.handleAlive
        split at hc <;> simp_all
      obtain ⟨e, he⟩ := hwf.dropped hne.1 hne.2
      exact Call.quiet_handle hwf he halive (.inr hs)
    · rename_i rt hrt
      obtain ⟨buffers, hb⟩ :=
        runtimeSend_eq options c rt (.cancelInvocation ⟨[], call.id.getD ""⟩) i outcome
      simp only [hb]
      exact .handleSend outcome (c := call) hi hc hrt hs
  unfold Core.handleStep at h
  split at h
  case h_1 hc =>
    obtain rfl := Option.some.inj h
    exact .handleRemove outcome (c := call) hi (.inl hc) (hfound rfl)
  case h_2 hc =>
    obtain rfl := Option.some.inj h
    exact hsend (.inl rfl) (by simp [Call.cancels, hc])
  case h_3 hc =>
    obtain rfl := Option.some.inj h
    exact .handleRemove outcome (c := call) hi (.inr hc) (hfound rfl)
  case h_4 hc =>
    obtain rfl := Option.some.inj h
    exact hsend (.inr rfl) (by simp [Call.cancels, hc])
  all_goals cases h

/-- The steps of upload tasks. -/
lemma viewStep_upload {i : ℕ} {call : Call} {outcome : Except Error Unit}
    (hi : c.calls[i]? = some call) (h : c.uploadStep options i call outcome = some c') :
    ViewStep c.view (.upload i outcome) c'.view := by
  unfold Core.uploadStep at h
  split at h
  · rename_i hup
    split at h
    · split at h
      · obtain rfl := Option.some.inj h
        exact .quiet (c := call) _ hi fun hwf =>
          Call.quiet_upload hwf (by simp) (fun s hs => hs) (by simp_all)
      · cases h
    · rename_i command rest hcmd
      have hrest : ∀ x ∈ rest, x ∈ call.commands ∨ x.streamId ∈ call.producers := by
        intro x hx
        rw [hcmd]
        exact .inl (List.mem_cons_of_mem _ hx)
      split at h
      · obtain rfl := Option.some.inj h
        exact .quiet (c := call) _ hi fun hwf =>
          Call.quiet_upload hwf (by simp) (fun s hs => hs) hrest
      · rename_i rt hrt
        obtain rfl := Option.some.inj h
        obtain ⟨buffers, hb⟩ := runtimeSend_eq options c rt command.message i outcome
        simp only [hb]
        exact .upload outcome (c := call) hi hup hrt hcmd
  · cases h

end Steps

/-! ## Received messages -/

namespace DispatchContext

variable {H : Type}

/-- Received messages only remove entries. -/
lemma process_pending (cfg : DispatchConfig) (ctx : DispatchContext H) (m : HubMessage)
    (call : H → Arguments → ClientMethodOutput) (outcome : Except Error Unit) :
    ∀ e ∈ (ctx.process cfg m call outcome).1.pending, e ∈ ctx.pending := by
  intro e he
  cases m with
  | invocation message =>
    simp only [process, handleInvocation] at he
    split at he <;> exact he
  | streamItem message =>
    simp only [process, handleStreamItem] at he
    split at he <;> exact he
  | completion message => exact PendingTable.mem_completeInvocation he
  | close message => simp [process, handleClose, PendingTable.cancelAllPending] at he
  | sequence message =>
    simp only [process] at he
    split at he
    · exact he
    · split at he <;> exact he
  | ping | ack | streamInvocation | cancelInvocation => exact he

/-- An answer is delivered to the entry with its id. -/
lemma process_deliveries (cfg : DispatchConfig) (ctx : DispatchContext H) {m : HubMessage}
    (call : H → Arguments → ClientMethodOutput) (outcome : Except Error Unit) {id : String}
    (hm : Core.answerId? m = some id) :
    ∀ d ∈ (ctx.process cfg m call outcome).1.deliveries,
      d ∈ ctx.deliveries ∨ ∃ p, (id, p) ∈ ctx.pending ∧ p.tx = d.tx := by
  intro d hd
  cases m with
  | streamItem message =>
    simp only [process, handleStreamItem, show message.invocationId = some id from hm] at hd
    exact (List.mem_append.mp hd).imp_right PendingTable.delivered_sendStreamItem
  | completion message =>
    obtain rfl : message.invocationId = id := Option.some.inj hm
    exact (List.mem_append.mp hd).imp_right PendingTable.delivered_completeInvocation
  | _ => cases hm

/-- `process_pending` behind the buffer. -/
lemma dispatch_pending (cfg : DispatchConfig) (ctx : DispatchContext H) (m : HubMessage)
    (call : H → Arguments → ClientMethodOutput) (outcome : Except Error Unit) :
    ∀ e ∈ (ctx.dispatch cfg m call outcome).1.pending, e ∈ ctx.pending := by
  unfold dispatch
  split
  · exact process_pending cfg ctx m call outcome
  · dsimp only
    split
    · intro e he
      have hmem := process_pending cfg _ m call outcome e he
      exact hmem
    · exact fun e he => he

/-- `process_deliveries` behind the buffer. -/
lemma dispatch_deliveries (cfg : DispatchConfig) (ctx : DispatchContext H) {m : HubMessage}
    (call : H → Arguments → ClientMethodOutput) (outcome : Except Error Unit) {id : String}
    (hm : Core.answerId? m = some id) :
    ∀ d ∈ (ctx.dispatch cfg m call outcome).1.deliveries,
      d ∈ ctx.deliveries ∨ ∃ p, (id, p) ∈ ctx.pending ∧ p.tx = d.tx := by
  unfold dispatch
  split
  · exact process_deliveries cfg ctx call outcome hm
  · dsimp only
    split
    · intro d hd
      have hmem := process_deliveries cfg _ call outcome hm d hd
      exact hmem
    · exact fun d hd => .inl hd

end DispatchContext

section Steps

variable {options : ConnectionOptions} {c c' : Core}

/-- The steps of receive tasks. -/
lemma viewStep_receive (options : ConnectionOptions) (c : Core) (b : Option ℕ)
    (message : HubMessage) (outcome : Except Error Unit) :
    ViewStep c.view (.receive b message outcome) (c.receive options b message outcome).view := by
  refine .receive b message outcome ?_ ?_
  · exact DispatchContext.dispatch_pending _ _ _ _ _
  · intro d hd
    obtain ⟨id, hid, hd⟩ := List.mem_flatMap.mp hd
    obtain ⟨d, hmem, rfl⟩ := List.mem_map.mp hd
    rcases DispatchContext.dispatch_deliveries _ _ _ _ (Option.mem_toList.mp hid) d hmem with
      hold | hnew
    · cases hold
    · exact hnew

/-- **Everything a step can do**: a step on the shared fields is a `ViewStep`. -/
theorem viewStep_of_next {a : CoreAction} (h : c.next options a = some c') :
    ViewStep c.view a c'.view := by
  cases a with
  | op op =>
    obtain rfl := Option.some.inj h
    exact viewStep_op options c op
  | newCall kind target arguments =>
    obtain rfl := Option.some.inj h
    exact .newCall kind target arguments
  | call i outcome =>
    obtain ⟨call, hi, h⟩ := Option.bind_eq_some_iff.mp h
    exact viewStep_call hi h
  | roomDropped i =>
    obtain ⟨call, hi, h⟩ := Option.bind_eq_some_iff.mp h
    unfold Core.roomDropped at h
    split at h
    · rename_i b hpc
      obtain rfl := Option.some.inj h
      exact .quiet (c := call) _ hi fun hwf => Call.quiet_room hwf hpc
    · cases h
  | cancelHandle i =>
    obtain ⟨call, hi, h⟩ := Option.bind_eq_some_iff.mp h
    split at h
    · rename_i hc
      obtain rfl := Option.some.inj h
      exact .quiet (c := call) _ hi fun hwf =>
        Call.quiet_handle hwf hc.2 (by simp [Call.handleAlive, hc.1]) (by simp)
    · cases h
  | dropHandle i =>
    obtain ⟨call, hi, h⟩ := Option.bind_eq_some_iff.mp h
    split at h
    · rename_i hc
      obtain rfl := Option.some.inj h
      exact .quiet (c := call) _ hi fun hwf =>
        Call.quiet_handle hwf hc.2 (by simp [Call.handleAlive, hc.1]) (by simp)
    · cases h
  | handle i outcome =>
    obtain ⟨call, hi, h⟩ := Option.bind_eq_some_iff.mp h
    exact viewStep_handle hi h
  | produce i streamId item =>
    obtain ⟨call, hi, h⟩ := Option.bind_eq_some_iff.mp h
    unfold Core.produce at h
    split at h
    · rename_i hmem
      obtain rfl := Option.some.inj h
      refine .quiet (c := call) _ hi fun hwf => ?_
      split <;> refine Call.quiet_upload hwf (fun hu => hu) ?_ ?_
      all_goals first
        | exact fun s hs => hs
        | exact fun s hs => List.mem_of_mem_erase hs
        | intro x hx
          rcases List.mem_append.mp hx with hx | hx
          · exact .inl hx
          · obtain rfl := List.mem_singleton.mp hx
            exact .inr hmem
    · cases h
  | upload i outcome =>
    obtain ⟨call, hi, h⟩ := Option.bind_eq_some_iff.mp h
    exact viewStep_upload hi h
  | receive b message outcome =>
    obtain rfl := Option.some.inj h
    exact viewStep_receive options c b message outcome
  | cancelStream id =>
    obtain rfl := Option.some.inj h
    exact .cancelStream id

end Steps

/-! ## What calls leave alone -/

/-- The runtime as it was stored. -/
def HubRuntime.stored (rt : HubRuntime) : HubRuntime := { rt with invocationId := 0 }

/-- The fields that only the life cycle of the connection changes. -/
structure Core.SameLifecycle (c c' : Core) : Prop where
  control : c'.control = c.control
  messageBuffer : c'.messageBuffer = c.messageBuffer
  transports : c'.transports = c.transports
  connections : c'.connections = c.connections
  runtime : c'.runtime.map HubRuntime.stored = c.runtime.map HubRuntime.stored

section SameLifecycle

variable {options : ConnectionOptions} {c c' : Core}

/-- Steps of calls change no field of the life cycle. -/
lemma sameLifecycle_call {i : ℕ} {call : Call} {outcome : Except Error Unit}
    (h : c.callStep options i call outcome = some c') : c.SameLifecycle c' := by
  unfold Core.callStep at h
  split at h
  case h_2 =>
    cases h
    unfold Core.takeStreamIds Core.withRuntime
    split
    · exact ⟨rfl, rfl, rfl, rfl, rfl⟩
    · rename_i rt hrt
      exact ⟨rfl, rfl, rfl, rfl, by simp [Core.setCall, hrt, HubRuntime.stored]⟩
  case h_3 =>
    cases h
    unfold Core.takeId Core.withRuntime
    split
    · exact ⟨rfl, rfl, rfl, rfl, rfl⟩
    · rename_i rt hrt
      exact ⟨rfl, rfl, rfl, rfl, by simp [Core.setCall, hrt, HubRuntime.stored]⟩
  case h_4 =>
    obtain ⟨id, hid, rfl⟩ := Option.map_eq_some_iff.mp h
    unfold Core.register
    split <;> exact ⟨rfl, rfl, rfl, rfl, rfl⟩
  case h_5 =>
    cases h
    unfold Core.sendThrough
    split
    · exact ⟨rfl, rfl, rfl, rfl, rfl⟩
    · rename_i rt hrt
      obtain ⟨buffers, hb⟩ := runtimeSend_eq options c rt call.message i outcome
      simp only [hb]
      exact ⟨rfl, rfl, rfl, rfl, rfl⟩
  case h_6 | h_9 =>
    split at h <;> cases h
    exact ⟨rfl, rfl, rfl, rfl, rfl⟩
  case h_1 | h_7 | h_8 =>
    cases h
    exact ⟨rfl, rfl, rfl, rfl, rfl⟩
  case h_10 => cases h

/-- Steps of stream handles change no field of the life cycle. -/
lemma sameLifecycle_handle {i : ℕ} {call : Call} {outcome : Except Error Unit}
    (h : c.handleStep options i call outcome = some c') : c.SameLifecycle c' := by
  have hsend : ∀ sent, c.SameLifecycle (c.handleSend options i call sent outcome) := by
    intro sent
    unfold Core.handleSend
    split
    · exact ⟨rfl, rfl, rfl, rfl, rfl⟩
    · rename_i rt hrt
      obtain ⟨buffers, hb⟩ :=
        runtimeSend_eq options c rt (.cancelInvocation ⟨[], call.id.getD ""⟩) i outcome
      simp only [hb]
      exact ⟨rfl, rfl, rfl, rfl, rfl⟩
  unfold Core.handleStep at h
  split at h
  case h_1 | h_3 =>
    cases h
    exact ⟨rfl, rfl, rfl, rfl, rfl⟩
  case h_2 | h_4 =>
    cases h
    exact hsend _
  all_goals cases h

/-- Steps of upload tasks change no field of the life cycle. -/
lemma sameLifecycle_upload {i : ℕ} {call : Call} {outcome : Except Error Unit}
    (h : c.uploadStep options i call outcome = some c') : c.SameLifecycle c' := by
  unfold Core.uploadStep at h
  split at h
  · split at h
    · split at h <;> cases h
      exact ⟨rfl, rfl, rfl, rfl, rfl⟩
    · rename_i command rest hcmd
      split at h
      · cases h
        exact ⟨rfl, rfl, rfl, rfl, rfl⟩
      · rename_i rt hrt
        cases h
        obtain ⟨buffers, hb⟩ := runtimeSend_eq options c rt command.message i outcome
        simp only [hb]
        exact ⟨rfl, rfl, rfl, rfl, rfl⟩
  · cases h

/-- **What calls leave alone**: steps that are none of the life cycle change none of its fields. -/
theorem sameLifecycle_of_next {a : CoreAction} (ha : ∀ op, a ≠ .op op)
    (h : c.next options a = some c') : c.SameLifecycle c' := by
  cases a with
  | op op => exact absurd rfl (ha op)
  | newCall | receive | cancelStream =>
    cases h
    exact ⟨rfl, rfl, rfl, rfl, rfl⟩
  | call i outcome =>
    obtain ⟨call, -, h⟩ := Option.bind_eq_some_iff.mp h
    exact sameLifecycle_call h
  | roomDropped i =>
    obtain ⟨call, -, h⟩ := Option.bind_eq_some_iff.mp h
    unfold Core.roomDropped at h
    split at h <;> cases h
    exact ⟨rfl, rfl, rfl, rfl, rfl⟩
  | cancelHandle i | dropHandle i =>
    obtain ⟨call, -, h⟩ := Option.bind_eq_some_iff.mp h
    split at h <;> cases h
    exact ⟨rfl, rfl, rfl, rfl, rfl⟩
  | handle i outcome =>
    obtain ⟨call, -, h⟩ := Option.bind_eq_some_iff.mp h
    exact sameLifecycle_handle h
  | produce i streamId item =>
    obtain ⟨call, -, h⟩ := Option.bind_eq_some_iff.mp h
    unfold Core.produce at h
    split at h <;> cases h
    exact ⟨rfl, rfl, rfl, rfl, rfl⟩
  | upload i outcome =>
    obtain ⟨call, -, h⟩ := Option.bind_eq_some_iff.mp h
    exact sameLifecycle_upload h

end SameLifecycle

/-! ## Invariants of the view -/

section Invariants

variable {v v' : View} {a : CoreAction}

/-- A new call is the last one, and the others stay. -/
lemma getElem?_newCall {calls : List Call} {c d : Call} {j : ℕ}
    (h : (calls ++ [c])[j]? = some d) : d = c ∧ j = calls.length ∨ calls[j]? = some d := by
  rcases Nat.lt_trichotomy j calls.length with hj | hj | hj
  · exact .inr (by rwa [List.getElem?_append_left hj] at h)
  · subst hj
    exact .inl ⟨by simpa using h.symm, rfl⟩
  · simp [List.getElem?_append_right hj.le, Nat.sub_ne_zero_of_lt hj] at h

/-- A step that changes one call keeps the calls well formed when the new one is. -/
lemma View.WellFormed.setCall {i : ℕ} {c' : Call} (hv : v.WellFormed) (hc' : c'.WellFormed) :
    (v.setCall i c').WellFormed := by
  intro j d hd
  rcases View.getElem?_setCall hd with ⟨-, rfl⟩ | ⟨-, hd⟩
  · exact hc'
  · exact hv j d hd

/-- **Steps keep the calls well formed.** -/
theorem ViewStep.wellFormed (hv : v.WellFormed) (h : ViewStep v a v') : v'.WellFormed := by
  cases h with
  | newCall kind target arguments =>
    intro j d hd
    rcases getElem?_newCall hd with ⟨rfl, -⟩ | hd
    · exact Call.wellFormed_new kind target arguments
    · exact hv j d hd
  | quiet _ hi h => exact hv.setCall (h (hv _ _ hi)).wellFormed
  | @takeStreamIds i _ c rt hi hpc hrt values ids counter pc hr hnew =>
    have hc := hv i c hi
    have hid := hc.early (by simp [Call.early, hpc])
    have hh := hc.handle (by simp [Call.registered, hpc])
    have hs := hc.unsent (by simp [Call.unsent, hpc])
    refine View.WellFormed.setCall (v := { v with runtime := _, log := _ }) hv ?_
    rcases hnew with rfl | rfl
    all_goals
      constructor <;> simp_all [Call.early, Call.registered, Call.holdsId, Call.handleAlive,
        Call.unsent, Call.sent, Call.launched]
  | @takeId i _ c rt hi hpc hrt =>
    have hc := hv i c hi
    have hh := hc.handle (by simp [Call.registered, hpc])
    have hs := hc.unsent (by simp [Call.unsent, hpc])
    refine View.WellFormed.setCall (v := { v with runtime := _, log := _ }) hv ?_
    constructor <;> simp_all [Call.early, Call.sent, Call.launched]
  | @register i _ c id hi hpc hid p hp h hh =>
    have hc := hv i c hi
    have hnone := hc.handle (by simp [Call.registered, hpc])
    have hs := hc.unsent (by simp [Call.unsent, hpc])
    refine View.WellFormed.setCall (v := { v with pending := _, log := _ }) hv ?_
    rcases hh with rfl | rfl
    all_goals constructor <;> simp_all [Call.early, Call.registered, Call.sent, Call.launched]
  | @sendThrough i _ c rt hi hpc hrt pc hnew =>
    have hc := hv i c hi
    have hid := hc.holdsId
    have hd := hc.dropped
    have hl := hc.launched
    have hp := hc.producers
    have hx := hc.commands
    refine View.WellFormed.setCall (v := { v with log := _ }) hv ?_
    rcases hnew with ⟨e, rfl⟩ | rfl | ⟨b, rfl⟩
    · rcases hci : c.id with _ | id
      all_goals
        constructor <;> simp_all [Core.failedPc, Call.early, Call.registered, Call.holdsId,
          Call.handleAlive, Call.unsent, Call.sent,
          Call.launched]
    all_goals
      constructor <;> simp_all [Call.early, Call.registered, Call.holdsId, Call.handleAlive,
        Call.unsent, Call.sent, Call.launched]
  | @cleanup i _ c error hi hpc h hh =>
    have hid := (hv i c hi).cleanup error hpc
    have hl := (hv i c hi).launched
    have hp := (hv i c hi).producers
    have hx := (hv i c hi).commands
    refine View.WellFormed.setCall (v := { v with pending := _ }) hv ?_
    constructor <;> simp_all [Call.early, Call.registered, Call.unsent, Call.sent, Call.launched]
  | @handleRemove i _ c h hi hc hnew =>
    refine View.WellFormed.setCall (v := { v with pending := _, log := _ }) hv ?_
    refine (hv i c hi).setHandle ?_ ?_ h <;> rcases hc with hc | hc <;> simp [hc]
  | @handleSend i _ c h rt hi hc hrt hnew =>
    refine View.WellFormed.setCall (v := { v with log := _ }) hv ?_
    refine (hv i c hi).setHandle ?_ ?_ h <;>
      · unfold Call.cancels at hc
        split at hc <;> simp_all
  | @upload i _ c rt hi hup hrt command rest hcmd uploading =>
    have hrest : ∀ x ∈ rest, x ∈ c.commands ∨ x.streamId ∈ c.producers := by
      intro x hx
      rw [hcmd]
      exact .inl (List.mem_cons_of_mem _ hx)
    exact View.WellFormed.setCall (v := { v with log := _ }) hv
      (Call.quiet_upload (hv i c hi) (fun _ => hup) (fun s hs => hs) hrest).wellFormed
  | keep | cancelAllPending | storeRuntime | takeRuntime | receive | cancelStream => exact hv

/-- **Invariants of the view**: what the steps preserve under a condition holds along every run of
the connection that meets it. The calls may be assumed well formed. -/
theorem World.view_invariant {options : ConnectionOptions} {ok : View → CoreAction → Prop}
    {I : View → Prop} (hinit : I Core.new.view)
    (hstep : ∀ v a v', v.WellFormed → I v → ok v a → ViewStep v a v' → I v') {as : List Action}
    {w : World} (hrun : (World.system options).run as = some w)
    (hm : (World.system options).Meets (World.OnCore options fun c => ok c.view) as) :
    w.core.view.WellFormed ∧ I w.core.view := by
  refine World.core_invariant (I := fun c => c.view.WellFormed ∧ I c.view) ⟨?_, hinit⟩ ?_ hrun hm
  · intro i c hi
    simp [Core.new, Core.view] at hi
  · intro c a c' hc hok hnext
    have hview := viewStep_of_next hnext
    exact ⟨hview.wellFormed hc.1, hstep _ a _ hc.1 hc.2 hok hview⟩

end Invariants

end Signalrr.HubConnection
