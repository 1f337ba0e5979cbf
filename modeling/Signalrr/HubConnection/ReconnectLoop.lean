import Signalrr.Automata.RetryTrace
import Signalrr.HubConnection.ConnectOperation

set_option relaxedAutoImplicit false
set_option autoImplicit false

/-!
# The reconnect loop

A supervisor of `src/hub_connection/mod.rs` whose connection drops first tries to resume it. When
it does not, it asks the retry policy of `src/hub_connection/retry.rs` for delays. The first
question and the first wait stand before the loop that does the following ones. A `Loss` records
what a supervisor does about one drop, from the event on, and the record is the trace of a retry
loop.

## Main definitions

* `Signalrr.HubConnection.DefaultReconnectPolicy` — the policy with a list of delays.
* `Signalrr.HubConnection.Loss` — a drop of the connection, with what was done about it.
* `Signalrr.HubConnection.Loss.toReconnect` — the drop was not resumed and does not forbid to
  reconnect.
* `Signalrr.HubConnection.Loss.add` — the record after a step of the supervisor.
* `Signalrr.HubConnection.SupervisorPc.position` — how far the retry loop is at a place.
* `Signalrr.HubConnection.Loss.Reaches` — the record when the supervisor is at a place.

## Main results

* `Signalrr.HubConnection.Loss.Reaches.step` — a step of the supervisor is a step of the retry loop,
  or the loop waits.
* `Signalrr.HubConnection.Supervisor.step_isSome` — a supervisor that handles a drop is never stuck.

## Design

The place of a supervisor does not carry the value of `initial_delay` or `delay`, which it waits for
next; the record does. Callbacks and changes of the state are read off `Control`.
-/

namespace Signalrr.HubConnection

open Hub Automata

/-! ## The default policy -/

/-- `DefaultReconnectPolicy`, with delays in milliseconds. -/
structure DefaultReconnectPolicy where
  delays : List (Option ℕ)

namespace DefaultReconnectPolicy

/-- `DefaultReconnectPolicy::new`. -/
def new (delays : List ℕ) : DefaultReconnectPolicy := ⟨delays.map some ++ [none]⟩

/-- `DefaultReconnectPolicy::next_retry_delay`. -/
def nextRetryDelay (policy : DefaultReconnectPolicy) (context : RetryContext) : Option ℕ :=
  (policy.delays[context.previousRetryCount]?).getD none

/-- The policy reads the delays by the count. -/
lemma nextRetryDelay_new (delays : List ℕ) (context : RetryContext) :
    (new delays).nextRetryDelay context = delays[context.previousRetryCount]? := by
  simp only [nextRetryDelay, new]
  rcases Nat.lt_trichotomy context.previousRetryCount delays.length with hlt | heq | hgt
  · rw [List.getElem?_append_left (by rwa [List.length_map]), List.getElem?_map,
      List.getElem?_eq_getElem hlt]
    rfl
  · simp [heq]
  · rw [List.getElem?_eq_none (by simp; omega), List.getElem?_eq_none hgt.le]
    rfl

end DefaultReconnectPolicy

/-! ## What is recorded -/

/-- What the application sees of a reconnect. -/
inductive ReconnectNote where
  | state (state : HubConnectionState)
  | reconnecting (reason : Option String)
  | reconnected (connectionId : Option String)
  | closed (reason : Option String)
  deriving DecidableEq

/-- What happens about a lost connection. -/
abbrev ReconnectEvent := RetryEvent ℕ String ℕ ReconnectNote

/-- What the application sees of a change of `Control`. -/
def Control.notes (c c' : Control) : List ReconnectNote :=
  (if c'.state = c.state then [] else [.state c'.state]) ++
    (c'.reconnectingCallbacks.drop c.reconnectingCallbacks.length).map .reconnecting ++
    (c'.reconnectedCallbacks.drop c.reconnectedCallbacks.length).map .reconnected ++
    (c'.closedCallbacks.drop c.closedCallbacks.length).map .closed

/-- A context, as a question of a retry loop. -/
def RetryContext.question (context : RetryContext) : RetryQuestion ℕ String :=
  ⟨context.elapsed, context.previousRetryCount, context.retryReason⟩

/-- What a supervisor asks the policy at a place. -/
def SupervisorPc.context? (env : Env) : SupervisorPc → Option RetryContext
  | firstDelay info => some ⟨env.elapsed, 0, info.error.getD "connection closed"⟩
  | nextDelay retry => some ⟨env.elapsed, retry.attempt, retry.retryReason⟩
  | _ => none

/-- The value of `delay` after a step at a place. -/
def SupervisorPc.delay (options : ConnectionOptions) (env : Env) (pc : SupervisorPc)
    (delay : ℕ) : ℕ :=
  ((pc.context? env).bind (Supervisor.delay options)).getD delay

/-- What a supervisor does at a place, `delay` being the value of that variable. -/
def SupervisorPc.does (options : ConnectionOptions) (env : Env) (delay : ℕ) :
    SupervisorPc → List ReconnectEvent
  | sleep _ => [.waited delay]
  | connect _ => [.tried]
  | pc => ((pc.context? env).map fun context =>
      .asked context.question (Supervisor.delay options context)).toList

/-- A step from one place to another resumes the connection. -/
def SupervisorPc.resumesTo : SupervisorPc → SupervisorPc → Bool
  | resumeStore .., select => true
  | _, _ => false

/-- An attempt has failed when a supervisor gets to a place. -/
def SupervisorPc.failure : SupervisorPc → List ReconnectEvent
  | nextDelay retry => [.failed retry.retryReason]
  | _ => []

/-- A drop of the connection, with what was done about it. -/
structure Loss where
  info : TransportCloseInfo
  /-- The transport was reopened, and the connection goes on. -/
  resumed : Bool
  /-- The value of `initial_delay` or `delay`. -/
  delay : ℕ
  /-- How many steps the supervisor has taken. -/
  steps : ℕ
  events : List ReconnectEvent

namespace Loss

/-- A connection that has just dropped. -/
def new (info : TransportCloseInfo) : Loss := ⟨info, false, 0, 0, []⟩

/-- `retry_reason` of the first question. -/
def reason (loss : Loss) : String := loss.info.error.getD "connection closed"

/-- The drop was not resumed, and the server does not forbid to reconnect. -/
def toReconnect (loss : Loss) : Bool :=
  !loss.resumed && !decide (loss.info.allowReconnect = some false)

/-- What the application is to see: `Reconnecting` when the first delay is known, `Connected` when
an attempt has succeeded, `Disconnected` when the policy gives up, each with one round of
callbacks. -/
def notes (loss : Loss) (connectionId : Option String) : RetryNotes String ReconnectNote where
  starting := [.state .reconnecting, .reconnecting loss.info.error]
  succeeded := [.state .connected, .reconnected connectionId]
  refused reason := [.state .disconnected, .closed (some reason)]

/-- What a step from `pc` to `pc'` adds to the record. -/
def added (options : ConnectionOptions) (env : Env) (loss : Loss) (pc pc' : SupervisorPc)
    (c c' : Control) : List ReconnectEvent :=
  pc.does options env loss.delay ++ pc'.failure ++ (c.notes c').map .told

/-- The record after a step of the supervisor from `pc` to `pc'`. -/
def add (options : ConnectionOptions) (env : Env) (loss : Loss) (pc pc' : SupervisorPc)
    (c c' : Control) : Loss where
  info := loss.info
  resumed := loss.resumed || pc.resumesTo pc'
  delay := pc.delay options env loss.delay
  steps := loss.steps + 1
  events := loss.events ++ loss.added options env pc pc' c c'

end Loss

/-! ## Places -/

namespace SupervisorPc

/-- The supervisor handles a drop. -/
def handles : SupervisorPc → Bool
  | select | ended => false
  | _ => true

/-- How far the retry loop is at a place; `select` and `ended` are where the supervisor gets to when
the loop is over. -/
def position : SupervisorPc → RetryPosition
  | setReconnecting _ => .starting 0
  | invokeReconnecting _ => .starting 1
  | recheckClosing _ | recheckState _ => .starting 2
  | sleep _ => .waiting
  | loopClosing _ | loopStop _ | loopState _ | connect _ => .ready
  | setConnectionId .. | storeBuffer .. | setResume .. | startRuntime .. | ping ..
  | storeRuntime .. => .trying
  | setConnected _ => .succeeded 0
  | readConnectionId | invokeReconnected _ => .succeeded 1
  | select => .succeeded 2
  | giveUp _ => .refused 0
  | invokeClosed _ => .refused 1
  | ended => .refused 2
  | _ => .asking

/-- How many steps a supervisor has taken at most, each failed attempt counted for 18. -/
def stage : SupervisorPc → ℕ
  | readResume _ => 1
  | readBuffer .. => 2
  | resumeDisconnect .. => 3
  | resumeAbort .. => 4
  | reopen .. => 5
  | resumeStart .. => 6
  | resumeStore .. => 7
  | cancelAll _ => 8
  | disconnectBuffer _ | nextDelay _ => 9
  | takeRuntime _ => 10
  | abortRuntime .. => 11
  | firstDelay _ => 12
  | setReconnecting _ | giveUp _ => 13
  | invokeReconnecting _ | invokeClosed _ => 14
  | recheckClosing _ => 15
  | recheckState _ => 16
  | sleep _ => 17
  | loopClosing _ => 18
  | loopStop _ => 19
  | loopState _ => 20
  | connect _ => 21
  | setConnectionId .. => 22
  | storeBuffer .. => 23
  | setResume .. => 24
  | startRuntime .. => 25
  | ping .. => 26
  | storeRuntime .. => 27
  | setConnected _ => 28
  | readConnectionId => 29
  | invokeReconnected _ => 30
  | select | ended => 31
  | checkClosing _ | setDisconnected _ => 0

/-- The fields of `Control` that a supervisor finds at a place, when nobody else changes them. -/
def Fits (c : Control) : SupervisorPc → Prop
  | ended => True
  | setDisconnected _ | giveUp _ => c.connectionStarted = true ∧ c.state ≠ .disconnected
  | invokeClosed _ => c.connectionStarted = true
  | invokeReconnecting _ | recheckClosing _ | recheckState _ | sleep _ | loopClosing _ | loopStop _
  | loopState _ | connect _ | setConnectionId .. | storeBuffer .. | setResume .. | startRuntime ..
  | ping .. | storeRuntime .. | setConnected _ | nextDelay _ =>
    c.connectionStarted = true ∧ c.state = .reconnecting
  | _ => c.connectionStarted = true ∧ c.state = .connected

/-- The variables at a place, after some failed attempts; a drop that is to be answered does not
come to `setDisconnected`. -/
def Knows (info : TransportCloseInfo) (failures : List (FailedTry ℕ String ℕ))
    (connectionId : Option String) : SupervisorPc → Prop
  | checkClosing info' | readResume info' | readBuffer info' _ | resumeDisconnect info' _ _
  | resumeAbort info' _ _ | reopen info' _ _ | resumeStart info' _ _ _ | resumeStore info' _ _ _
  | cancelAll info' | disconnectBuffer info' | takeRuntime info' | abortRuntime info' _
  | firstDelay info' => info' = info ∧ failures = []
  | setDisconnected _ => False
  | setReconnecting retry | invokeReconnecting retry | recheckClosing retry | recheckState retry =>
    retry = ⟨0, info.error.getD "connection closed", info.error⟩ ∧ failures = []
  | sleep retry | loopClosing retry | loopStop retry | loopState retry | connect retry
  | setConnectionId retry _ | storeBuffer retry _ | setResume retry _ | startRuntime retry _
  | ping retry _ _ | storeRuntime retry _ _ =>
    retry = ⟨failures.length + 1, lastReason (info.error.getD "connection closed") failures,
      info.error⟩
  | nextDelay retry => failures ≠ [] ∧
    retry = ⟨failures.length, lastReason (info.error.getD "connection closed") failures, info.error⟩
  | giveUp reason => reason = lastReason (info.error.getD "connection closed") failures
  | invokeClosed reason =>
    reason = some (lastReason (info.error.getD "connection closed") failures)
  | invokeReconnected id => id = connectionId
  | _ => True

end SupervisorPc

/-! ## The record at a place -/

/-- What is recorded about a drop when the supervisor is at `pc`. -/
structure Loss.Reaches (policy : RetryContext → Option ℕ) (loss : Loss) (pc : SupervisorPc)
    (failures : List (FailedTry ℕ String ℕ)) (elapsed : ℕ) (connectionId : Option String) :
    Prop where
  events : loss.events =
    retryEvents (loss.notes connectionId) loss.reason failures elapsed loss.delay pc.position
  knows : pc.Knows loss.info failures connectionId
  /-- The answers are those of the policy. -/
  answers : ∀ context answer, .asked (RetryContext.question context) answer ∈ loss.events →
    answer = policy context
  steps : loss.steps ≤ 18 * failures.length + pc.stage

/-- When nothing changes, there is nothing to see. -/
@[simp] lemma Control.notes_self (c : Control) : c.notes c = [] := by
  simp [notes]

/-- Fields that the application does not see. -/
lemma Control.notes_eq_nil {c c' : Control} (hstate : c'.state = c.state)
    (hclosed : c'.closedCallbacks = c.closedCallbacks)
    (hreconnecting : c'.reconnectingCallbacks = c.reconnectingCallbacks)
    (hreconnected : c'.reconnectedCallbacks = c.reconnectedCallbacks) : c.notes c' = [] := by
  simp [notes, hstate, hclosed, hreconnecting, hreconnected]

/-- The state is set. -/
lemma Control.notes_state {c : Control} {state : HubConnectionState} (h : c.state ≠ state) :
    c.notes { c with state := state } = [.state state] := by
  simp [notes, h.symm]

/-- The reconnecting callbacks are invoked. -/
lemma Control.notes_reconnecting (c : Control) (reason : Option String) :
    c.notes { c with reconnectingCallbacks := c.reconnectingCallbacks ++ [reason] } =
      [.reconnecting reason] := by
  simp [notes]

/-- The reconnected callbacks are invoked. -/
lemma Control.notes_reconnected (c : Control) (connectionId : Option String) :
    c.notes { c with reconnectedCallbacks := c.reconnectedCallbacks ++ [connectionId] } =
      [.reconnected connectionId] := by
  simp [notes]

/-- The closed callbacks are invoked. -/
lemma Control.notes_invokeClosed {c : Control} (hstarted : c.connectionStarted = true)
    (reason : Option String) : c.notes (c.invokeClosed reason) = [.closed reason] := by
  simp [notes, invokeClosed, hstarted]

section Step

variable {options : ConnectionOptions} {policy : RetryContext → Option ℕ} {loss : Loss}
  {pc pc' : SupervisorPc} {failures : List (FailedTry ℕ String ℕ)} {elapsed : ℕ}
  {connectionId : Option String} {control control' : Control} {env : Env}

/-- A failed attempt asks nothing. -/
lemma SupervisorPc.not_asked_failure {question : RetryQuestion ℕ String} {answer : Option ℕ} :
    .asked question answer ∉ pc'.failure := by
  cases pc' <;> simp [failure]

/-- What a supervisor does where it asks the policy. -/
lemma SupervisorPc.does_of_context? {context : RetryContext}
    (hpolicy : options.reconnectPolicy = some policy) (h : pc.context? env = some context) (d : ℕ) :
    pc.does options env d = [.asked context.question (policy context)] ∧
      pc.delay options env d = (policy context).getD d := by
  have hdelay : Supervisor.delay options context = policy context := by
    simp [Supervisor.delay, hpolicy]
  cases pc with
  | firstDelay info | nextDelay retry =>
    cases h
    rw [← hdelay]
    exact ⟨rfl, rfl⟩
  | _ => cases h

namespace Loss

/-- The record at a place, from the one at the place before. -/
lemma Reaches.move (h : loss.Reaches policy pc failures elapsed connectionId)
    (failures' : List (FailedTry ℕ String ℕ)) (elapsed' : ℕ) (connectionId' : Option String)
    {does failure : List ReconnectEvent} {notes : List ReconnectNote}
    (hdoes : pc.does options env loss.delay = does) (hfailure : pc'.failure = failure)
    (hnotes : control.notes control' = notes)
    (hevents : retryEvents (loss.notes connectionId) loss.reason failures elapsed loss.delay
        pc.position ++ (does ++ failure ++ notes.map .told) =
      retryEvents (loss.notes connectionId') loss.reason failures' elapsed'
        (pc.delay options env loss.delay) pc'.position)
    (hanswers : ∀ context answer, .asked (RetryContext.question context) answer ∈ does →
      answer = policy context)
    (hknows : pc'.Knows loss.info failures' connectionId')
    (hsteps : 18 * failures.length + pc.stage + 1 ≤ 18 * failures'.length + pc'.stage) :
    ∃ failures elapsed connectionId,
      (loss.add options env pc pc' control control').Reaches policy pc' failures elapsed
        connectionId := by
  have hadded : loss.added options env pc pc' control control' =
      does ++ failure ++ notes.map .told := by
    rw [added, hdoes, hfailure, hnotes]
  refine ⟨failures', elapsed', connectionId', ?_, hknows, fun context answer hmem => ?_, ?_⟩
  · show loss.events ++ loss.added options env pc pc' control control' = _
    rw [hadded, h.events]
    exact hevents
  · rcases List.mem_append.mp hmem with hmem | hmem
    · exact h.answers context answer hmem
    · rw [hadded, List.mem_append, List.mem_append] at hmem
      rcases hmem with (hmem | hmem) | hmem
      · exact hanswers context answer hmem
      · exact absurd (hfailure ▸ hmem) SupervisorPc.not_asked_failure
      · simp at hmem
  · have hs := h.steps
    show loss.steps + 1 ≤ _
    omega

/-- A step that adds nothing to the record. -/
lemma Reaches.silent (h : loss.Reaches policy pc failures elapsed connectionId)
    (connectionId' : Option String) (hdoes : pc.does options env loss.delay = [])
    (hfailure : pc'.failure = []) (hnotes : control.notes control' = [])
    (hevents : retryEvents (loss.notes connectionId) loss.reason failures elapsed loss.delay
        pc.position =
      retryEvents (loss.notes connectionId') loss.reason failures elapsed
        (pc.delay options env loss.delay) pc'.position)
    (hknows : pc'.Knows loss.info failures connectionId') (hstage : pc.stage + 1 ≤ pc'.stage) :
    ∃ failures elapsed connectionId,
      (loss.add options env pc pc' control control').Reaches policy pc' failures elapsed
        connectionId := by
  refine h.move failures elapsed connectionId' hdoes hfailure hnotes ?_
    (fun context answer hmem => ?_)
    hknows (by omega)
  · simpa using hevents
  · cases hmem

/-- The policy is asked, and answers. -/
lemma Reaches.ask (h : loss.Reaches policy pc failures elapsed connectionId)
    (hpolicy : options.reconnectPolicy = some policy) (elapsed' : ℕ) {answer : Option ℕ}
    (hcontext : pc.context? env =
      some ⟨elapsed', failures.length, lastReason loss.reason failures⟩)
    (hanswer : policy ⟨elapsed', failures.length, lastReason loss.reason failures⟩ = answer)
    (hfailure : pc'.failure = []) (hnotes : control.notes control' = [])
    (hevents : retryEvents (loss.notes connectionId) loss.reason failures elapsed loss.delay
        pc.position ++
          [.asked ⟨elapsed', failures.length, lastReason loss.reason failures⟩ answer] =
      retryEvents (loss.notes connectionId) loss.reason failures elapsed' (answer.getD loss.delay)
        pc'.position)
    (hknows : pc'.Knows loss.info failures connectionId) (hstage : pc.stage + 1 ≤ pc'.stage) :
    ∃ failures elapsed connectionId,
      (loss.add options env pc pc' control control').Reaches policy pc' failures elapsed
        connectionId := by
  obtain ⟨hdoes, hdelay⟩ := SupervisorPc.does_of_context? hpolicy hcontext loss.delay
  refine h.move failures elapsed' connectionId hdoes hfailure hnotes ?_
    (fun context answer' hmem => ?_) hknows (by omega)
  · rw [hdelay, hanswer]
    exact hevents
  · obtain ⟨time, count, reason⟩ := context
    simp only [List.mem_singleton, RetryEvent.asked.injEq, RetryContext.question,
      RetryQuestion.mk.injEq] at hmem
    obtain ⟨⟨rfl, rfl, rfl⟩, rfl⟩ := hmem
    rfl

/-- A failed attempt. -/
lemma Reaches.fail {retry : Retry} (h : loss.Reaches policy pc failures elapsed connectionId)
    (error : Error) (hnotes : control.notes control' = [])
    (hevents : retryEvents (loss.notes connectionId) loss.reason failures elapsed loss.delay
        pc.position ++ pc.does options env loss.delay =
      retryEvents (loss.notes connectionId) loss.reason failures elapsed loss.delay .trying)
    (hcontext : pc.context? env = none)
    (hknows : retry = ⟨failures.length + 1, lastReason loss.reason failures, loss.info.error⟩)
    (hstage : pc.stage < 27) :
    ∃ failures elapsed connectionId,
      (loss.add options env pc (.nextDelay { retry with retryReason := error.toText }) control
        control').Reaches policy (.nextDelay { retry with retryReason := error.toText }) failures
        elapsed connectionId := by
  refine h.move (failures ++ [⟨elapsed, loss.delay, error.toText⟩]) elapsed connectionId rfl rfl
    hnotes ?_ (fun context answer hmem => ?_) ?_ ?_
  · have hdelay : pc.delay options env loss.delay = loss.delay := by
      simp [SupervisorPc.delay, hcontext]
    rw [List.map_nil, List.append_nil, ← List.append_assoc, hevents, hdelay]
    exact retryEvents_failed _
  · cases pc <;> simp_all [SupervisorPc.does, SupervisorPc.context?]
  · subst hknows
    simp [SupervisorPc.Knows]
  · have hnine : ∀ retry, (SupervisorPc.nextDelay retry).stage = 9 := fun _ => rfl
    rw [List.length_append, List.length_singleton, hnine]
    omega

end Loss

/-- **A step of a supervisor that handles a drop** is a step of the retry loop, or the loop is as
far as before, unless the step resumes the connection. -/
theorem Loss.Reaches.step {s s' : Supervisor} {e : Effect} {c : Core}
    (h : loss.Reaches policy s.pc failures elapsed connectionId)
    (hpolicy : options.reconnectPolicy = some policy) (hh : s.pc.handles = true)
    (hfits : s.pc.Fits c.control) (hclosing : c.control.closing = false)
    (hstop : c.control.stopReconnect = false) (hstep : s.step options c env = some (e, s'))
    (hto : (loss.add options env s.pc s'.pc c.control (e.op.onControl c.control)).toReconnect =
      true) :
    ∃ failures elapsed connectionId,
      (loss.add options env s.pc s'.pc c.control (e.op.onControl c.control)).Reaches policy s'.pc
        failures elapsed connectionId := by
  obtain ⟨pc, connection, stopSeen, aborted, cancelled, finished⟩ := s
  have hdelay : ∀ context, Supervisor.delay options context = policy context := by
    intro context
    simp [Supervisor.delay, hpolicy]
  dsimp only at h hh hfits hto ⊢
  cases pc with
  | checkClosing info =>
    simp only [Supervisor.step, hclosing] at hstep
    cases hstep
    exact h.silent _ rfl rfl (Control.notes_self _) rfl h.knows (by simp [SupervisorPc.stage])
  | readResume info =>
    cases hstep
    exact h.silent _ rfl rfl (Control.notes_self _) rfl h.knows (by simp [SupervisorPc.stage])
  | readBuffer info target =>
    cases hstep
    have hknows := h.knows
    dsimp only
    split
    · exact h.silent _ rfl rfl (Control.notes_self _) rfl hknows (by simp [SupervisorPc.stage])
    · exact h.silent _ rfl rfl (Control.notes_self _) rfl hknows (by simp [SupervisorPc.stage])
  | resumeDisconnect info target b =>
    cases hstep
    exact h.silent _ rfl rfl (Control.notes_self _) rfl h.knows (by simp [SupervisorPc.stage])
  | resumeAbort info target b | reopen info target b =>
    have hknows := h.knows
    simp only [Supervisor.step] at hstep
    split at hstep <;> cases hstep <;>
      exact h.silent _ rfl rfl (Control.notes_self _) rfl hknows (by simp [SupervisorPc.stage])
  | resumeStart info target b transport =>
    have hknows := h.knows
    cases hstep
    dsimp only
    split <;>
      exact h.silent _ rfl rfl (Control.notes_self _) rfl hknows (by simp [SupervisorPc.stage])
  | resumeStore info target b transport =>
    have hknows := h.knows
    cases hstep
    dsimp only at hto ⊢
    split at hto
    · exact h.silent _ rfl rfl (Control.notes_self _) rfl hknows (by simp [SupervisorPc.stage])
    · simp [Loss.toReconnect, Loss.add, SupervisorPc.resumesTo] at hto
  | cancelAll info =>
    obtain ⟨rfl, rfl⟩ := h.knows
    cases hstep
    have hallow : loss.info.allowReconnect ≠ some false := by
      intro hno
      simp [Loss.toReconnect, Loss.add, hno] at hto
    have hafter : Supervisor.afterCancel options loss.info = .disconnectBuffer loss.info := by
      simp [Supervisor.afterCancel, hpolicy, hallow]
    dsimp only
    rw [hafter]
    exact h.silent _ rfl rfl (Control.notes_self _) rfl ⟨rfl, rfl⟩ (by simp [SupervisorPc.stage])
  | disconnectBuffer info | takeRuntime info =>
    simp only [Supervisor.step] at hstep
    split at hstep <;> cases hstep <;>
      exact h.silent _ rfl rfl (Control.notes_self _) rfl h.knows (by simp [SupervisorPc.stage])
  | abortRuntime info transport | storeBuffer retry n =>
    cases hstep
    exact h.silent _ rfl rfl (Control.notes_self _) rfl h.knows (by simp [SupervisorPc.stage])
  | firstDelay info =>
    obtain ⟨rfl, rfl⟩ := h.knows
    simp only [Supervisor.step, hdelay] at hstep
    cases hanswer : policy ⟨env.elapsed, 0, loss.info.error.getD "connection closed"⟩ with
    | none =>
      rw [hanswer] at hstep
      cases hstep
      exact h.ask hpolicy env.elapsed rfl hanswer rfl (Control.notes_self _) retryEvents_refused rfl
        (by simp [SupervisorPc.stage])
    | some d =>
      rw [hanswer] at hstep
      cases hstep
      exact h.ask hpolicy env.elapsed rfl hanswer rfl (Control.notes_self _) retryEvents_first
        ⟨rfl, rfl⟩ (by simp [SupervisorPc.stage])
  | setReconnecting retry =>
    obtain ⟨hstarted, hstate⟩ := hfits
    obtain ⟨rfl, rfl⟩ := h.knows
    cases hstep
    refine h.move [] elapsed connectionId rfl rfl (Control.notes_state ?_) rfl
      (fun context answer hmem => by cases hmem) ⟨rfl, rfl⟩ (by simp [SupervisorPc.stage])
    rw [hstate]
    decide
  | invokeReconnecting retry =>
    obtain ⟨rfl, rfl⟩ := h.knows
    cases hstep
    exact h.move [] elapsed connectionId rfl rfl (Control.notes_reconnecting _ _) rfl
      (fun context answer hmem => by cases hmem) ⟨rfl, rfl⟩ (by simp [SupervisorPc.stage])
  | recheckClosing retry | loopClosing retry =>
    simp only [Supervisor.step, hclosing] at hstep
    cases hstep
    exact h.silent _ rfl rfl (Control.notes_self _) rfl h.knows (by simp [SupervisorPc.stage])
  | recheckState retry =>
    obtain ⟨hstarted, hstate⟩ := hfits
    obtain ⟨rfl, rfl⟩ := h.knows
    simp only [Supervisor.step, hstate] at hstep
    cases hstep
    exact h.silent connectionId rfl rfl (Control.notes_self _) (retryEvents_started le_rfl) rfl
      (by simp [SupervisorPc.stage])
  | sleep retry =>
    cases hstep
    refine h.move failures elapsed connectionId rfl rfl (Control.notes_self _) retryEvents_waited
      (fun context answer hmem => by cases List.mem_singleton.mp hmem) h.knows
      (by simp [SupervisorPc.stage])
  | loopStop retry =>
    simp only [Supervisor.step, hstop] at hstep
    cases hstep
    exact h.silent _ rfl rfl (Control.notes_self _) rfl h.knows (by simp [SupervisorPc.stage])
  | loopState retry =>
    obtain ⟨hstarted, hstate⟩ := hfits
    simp only [Supervisor.step, hstate] at hstep
    cases hstep
    exact h.silent _ rfl rfl (Control.notes_self _) rfl h.knows (by simp [SupervisorPc.stage])
  | setConnectionId retry n | setResume retry n =>
    cases hstep
    exact h.silent _ rfl rfl (Control.notes_eq_nil rfl rfl rfl rfl) rfl h.knows
      (by simp [SupervisorPc.stage])
  | storeRuntime retry n b =>
    cases hstep
    exact h.silent connectionId rfl rfl (Control.notes_self _) retryEvents_succeeded trivial
      (by simp [SupervisorPc.stage])
  | readConnectionId =>
    cases hstep
    exact h.silent c.control.connectionId rfl rfl (Control.notes_self _) rfl rfl
      (by simp [SupervisorPc.stage])
  | connect retry =>
    have hknows := h.knows
    simp only [Supervisor.step] at hstep
    split at hstep
    · cases hstep
      exact h.fail _ (Control.notes_self _) retryEvents_tried rfl hknows
        (by simp [SupervisorPc.stage])
    · cases hstep
      exact h.move failures elapsed connectionId rfl rfl (Control.notes_self _) retryEvents_tried
        (fun context answer hmem => by cases List.mem_singleton.mp hmem) hknows
        (by simp [SupervisorPc.stage])
  | startRuntime retry n | ping retry n b =>
    have hknows := h.knows
    simp only [Supervisor.step] at hstep
    split at hstep
    · cases hstep
      exact h.fail _ (Control.notes_self _) (List.append_nil _) rfl hknows
        (by simp [SupervisorPc.stage])
    · cases hstep
      exact h.silent _ rfl rfl (Control.notes_self _) rfl h.knows (by simp [SupervisorPc.stage])
  | setConnected n =>
    obtain ⟨hstarted, hstate⟩ := hfits
    cases hstep
    refine h.move failures elapsed connectionId rfl rfl (Control.notes_state ?_) ?_
      (fun context answer hmem => by cases hmem) trivial (by simp [SupervisorPc.stage])
    · rw [hstate]
      decide
    · exact retryEvents_tell_succeeded rfl
  | invokeReconnected id =>
    obtain rfl := h.knows
    cases hstep
    refine h.move failures elapsed id rfl rfl (Control.notes_reconnected _ _) ?_
      (fun context answer hmem => by cases hmem) trivial (by simp [SupervisorPc.stage])
    exact retryEvents_tell_succeeded rfl
  | nextDelay retry =>
    obtain ⟨hf, rfl⟩ := h.knows
    simp only [Supervisor.step, hdelay] at hstep
    cases hanswer : policy ⟨env.elapsed, failures.length,
        lastReason (loss.info.error.getD "connection closed") failures⟩ with
    | none =>
      rw [hanswer] at hstep
      cases hstep
      exact h.ask hpolicy env.elapsed rfl hanswer rfl (Control.notes_self _) retryEvents_refused rfl
        (by simp [SupervisorPc.stage])
    | some d =>
      rw [hanswer] at hstep
      cases hstep
      exact h.ask hpolicy env.elapsed rfl hanswer rfl (Control.notes_self _) (retryEvents_next hf)
        rfl (by simp [SupervisorPc.stage])
  | setDisconnected => exact h.knows.elim
  | giveUp reason =>
    obtain ⟨hstarted, hstate⟩ := hfits
    obtain rfl := h.knows
    cases hstep
    refine h.move failures elapsed connectionId rfl rfl (Control.notes_state hstate) ?_
      (fun context answer hmem => by cases hmem) rfl (by simp [SupervisorPc.stage])
    exact retryEvents_tell_refused rfl
  | invokeClosed reason =>
    obtain rfl := h.knows
    cases hstep
    refine h.move failures elapsed connectionId rfl rfl (Control.notes_invokeClosed hfits _) ?_
      (fun context answer hmem => by cases hmem) trivial (by simp [SupervisorPc.stage])
    exact retryEvents_tell_refused rfl
  | select | ended => cases hh

end Step

/-! ## Supervisors -/

namespace Supervisor

variable {options : ConnectionOptions} {c : Core} {env : Env} {s s' : Supervisor} {e : Effect}

/-- A supervisor that handles a drop is never stuck. -/
lemma step_isSome (options : ConnectionOptions) (c : Core) (env : Env)
    (h : s.pc.handles = true) : (s.step options c env).isSome = true := by
  obtain ⟨pc, connection, stopSeen, aborted, cancelled, finished⟩ := s
  cases pc with
  | select | ended => cases h
  | resumeAbort | reopen | disconnectBuffer | takeRuntime | connect | startRuntime | ping =>
    simp only [step]
    split <;> rfl
  | _ => rfl

/-- A supervisor that handles a drop goes on with it until it waits for an event or has ended. -/
lemma handles_of_step (h : s.pc.handles = true) (hstep : s.step options c env = some (e, s')) :
    s'.pc.handles = true ∨ s'.pc = .select ∨ s'.pc = .ended := by
  unfold step at hstep
  split at hstep
  all_goals
    rename_i hpc
    rw [hpc] at h
    repeat' split at hstep
    all_goals cases hstep
    all_goals first
      | exact .inl rfl
      | exact .inr (.inl rfl)
      | exact .inr (.inr rfl)
      | (cases h; done)
      | (dsimp only [afterCancel]; split <;> simp [SupervisorPc.handles])

/-- A supervisor begins to handle a drop when it gets the event. -/
lemma step_of_select (h : s.pc = .select) (hstep : s.step options c env = some (e, s')) :
    e = .skip c ∧ ((env.stop = true ∨ env.event = none) ∧ s'.pc.handles = false ∨
      env.stop = false ∧ ∃ info, env.event = some info ∧ s'.pc = .checkClosing info) := by
  simp only [step, h] at hstep
  split at hstep
  · rename_i hstop
    split at hstep
    · cases hstep
    · cases hstep
      refine ⟨rfl, .inl ⟨.inl hstop, ?_⟩⟩
      dsimp only
      split <;> rfl
  · rename_i hstop
    split at hstep
    · rename_i hevent
      cases hstep
      exact ⟨rfl, .inl ⟨.inr hevent, rfl⟩⟩
    · rename_i info hevent
      cases hstep
      exact ⟨rfl, .inr ⟨by simpa using hstop, info, hevent, rfl⟩⟩

/-- What a supervisor finds in `Control` at its next place. -/
lemma fits_of_step (h : s.pc.Fits c.control) (hclosing : c.control.closing = false)
    (hstop : c.control.stopReconnect = false) (hstep : s.step options c env = some (e, s')) :
    s'.pc.Fits (e.op.onControl c.control) := by
  unfold step at hstep
  split at hstep
  all_goals
    rename_i hpc
    rw [hpc] at h
    repeat' split at hstep
    all_goals cases hstep
    all_goals first
      | exact h
      | trivial
      | simp_all [SupervisorPc.Fits, Effect.skip, Effect.control, Op.onControl]
  -- where the next place depends on the policy
  · unfold afterCancel
    generalize (_ || _ : Bool) = refuses
    cases refuses <;> trivial
  · generalize delay options _ = answer
    cases answer <;> trivial

/-- A supervisor does not touch the signals to stop. -/
lemma signals_of_step (hstep : s.step options c env = some (e, s')) :
    (e.op.onControl c.control).closing = c.control.closing ∧
      (e.op.onControl c.control).stopReconnect = c.control.stopReconnect := by
  unfold step at hstep
  split at hstep
  all_goals
    repeat' split at hstep
    all_goals cases hstep
    all_goals first
      | exact ⟨rfl, rfl⟩
      | simp [Op.onControl, Control.invokeClosed, apply_ite]

end Supervisor

end Signalrr.HubConnection
