import Signalrr.HubConnection.Dispatch

set_option relaxedAutoImplicit false
set_option autoImplicit false

/-!
# Reports of a close

`HubRuntime::start` of `src/hub_connection/runtime.rs` starts a task that receives and one that
keeps the connection alive. Both report to the supervisor that the connection is lost, and share a
flag so that one of them does. The receive task tests the flag when the transport drops and does not
set it, and it ends without a report when an initial message cannot be dispatched.

## Main definitions

* `Signalrr.HubConnection.ReceivePc`, `KeepAlivePc` — where the two tasks are.
* `Signalrr.HubConnection.RuntimeTasks` — the two tasks, the flag and the reports.
* `Signalrr.HubConnection.RuntimeTasks.system` — the steps of the tasks, in any order.
* `Signalrr.HubConnection.RuntimeTasks.orderly` — a step at which the flag does what it is for.

## Main results

* `Signalrr.HubConnection.RuntimeTasks.Reported.step` — an orderly step keeps the count of reports.
* `Signalrr.HubConnection.RuntimeTasks.one_report_of_meets` — there is one report in orderly runs.
* `Signalrr.HubConnection.RuntimeTasks.reports_in_general` — there may be two, and none.

## Design

A step of a task reads or writes the flag, the shutdown signal or the channel of reports once, so
that the steps of the two tasks interleave between any two of these. What other code decides is part
of the action: what the transport delivers, how a dispatch ends and when a timer fires. A runtime
may be dropped without sending the shutdown signal; the receive task ends then as if it were sent,
and the keep-alive task goes on with its loop, as at any other activity.
-/

namespace Signalrr.HubConnection

open Hub

/-! ## The receive task -/

/-- `TransportMessage`, where a text or binary frame is the messages it is parsed to. -/
inductive TransportMessage where
  | frame (messages : Except Error (List HubMessage))
  | closed (reason : Option String)

/-- What follows a dispatch: initial messages, or the other messages of a frame. -/
inductive Following where
  | initial (messages : List HubMessage)
  | frame (messages : List HubMessage)

/-- Where the receive task is. -/
inductive ReceivePc where
  /-- The loop over the initial messages, with those that are left. -/
  | initial (messages : List HubMessage)
  /-- `dispatch` has got a message. -/
  | dispatching (message : HubMessage) (following : Following)
  /-- `handle_close` has found the flag unset and set it. -/
  | reportClose (info : TransportCloseInfo) (following : Following)
  /-- `handle_close` closes the transport. -/
  | closing (following : Following)
  /-- The test of the main loop. -/
  | loop
  /-- `select!` of the shutdown signal and a message of the transport. -/
  | select
  /-- The transport has closed, and the shutdown signal is tested. -/
  | closed (info : TransportCloseInfo)
  /-- The transport has dropped, and the flag is tested. -/
  | dropped (info : TransportCloseInfo)
  /-- The flag was not set. -/
  | reportDrop (info : TransportCloseInfo)
  /-- The task has ended after a report of its own. -/
  | endedByDrop
  /-- The task has ended. -/
  | ended

/-- The task has ended. -/
def ReceivePc.hasEnded : ReceivePc → Bool
  | endedByDrop | ended => true
  | _ => false

/-- The receive task has found the flag unset when the transport dropped. -/
def ReceivePc.foundUnset : ReceivePc → Bool
  | reportDrop _ | endedByDrop => true
  | _ => false

/-- The task is suspended, so that it can be aborted. -/
def ReceivePc.awaits : ReceivePc → Bool
  | dispatching .. | closing _ | select => true
  | _ => false

/-- The reports that the receive task is about to send. -/
def ReceivePc.owed : ReceivePc → ℕ
  | reportClose .. | reportDrop _ => 1
  | _ => 0

/-- After the last initial message or the last message of a frame the main loop goes on, and after
an error too, unless the message was an initial one. -/
def Following.next : Following → Except Error Unit → ReceivePc
  | initial messages, .ok _ => .initial messages
  | initial _, .error _ => .ended
  | frame (message :: messages), .ok _ => .dispatching message (.frame messages)
  | frame [], .ok _ => .loop
  | frame _, .error _ => .loop

/-- The dispatch of a message ends with a write or with `reset_sequence`, which may fail. -/
def mayFail : HubMessage → Bool
  | .invocation message => message.invocationId.isSome
  | .sequence _ => true
  | _ => false

/-! ## The keep-alive task -/

/-- Where the keep-alive task is. -/
inductive KeepAlivePc where
  /-- The test of the loop. -/
  | loop
  /-- `select!` of the shutdown signal, received and sent messages and the two timers. -/
  | select
  /-- The server timeout has elapsed, and the flag is tested and set. -/
  | timedOut
  /-- The flag was not set. -/
  | reportTimeout
  /-- The transport is closed. -/
  | closing
  /-- The task has ended. -/
  | ended
  deriving DecidableEq

/-- The task is suspended, so that it can be aborted. -/
def KeepAlivePc.awaits : KeepAlivePc → Bool
  | select | closing => true
  | _ => false

/-- The reports that the keep-alive task is about to send. -/
def KeepAlivePc.owed : KeepAlivePc → ℕ
  | reportTimeout => 1
  | _ => 0

/-- `SERVER_TIMEOUT_MESSAGE`. -/
def serverTimeoutMessage : String :=
  "Server timeout elapsed without receiving a message from the server."

/-! ## Both tasks -/

/-- The tasks of a runtime, with what they share. -/
structure RuntimeTasks where
  /-- The shutdown signal. -/
  shutdown : Bool := false
  /-- The sender of the shutdown signal is dropped. -/
  dropped : Bool := false
  /-- `transport_close_signaled`. -/
  closeSignaled : Bool := false
  /-- The `TransportEvent::Closed` events that have been sent. -/
  reports : List TransportCloseInfo := []
  receive : ReceivePc
  keepAlive : KeepAlivePc := .loop

/-- A step of the runtime. -/
inductive RuntimeAction where
  /-- `shutdown` and `abort_without_close` send the signal. -/
  | shutdown
  /-- The runtime is dropped, and with it the sender of the signal. -/
  | drop
  /-- They abort the receive task. -/
  | abortReceive
  /-- They abort the keep-alive task. -/
  | abortKeepAlive
  /-- The receive task goes on by itself. -/
  | receive
  /-- The receive task sees the shutdown signal change, or that its sender is dropped. -/
  | shutdownChanged
  /-- It gets a message of the transport, or the end of the channel. -/
  | incoming (message : Option TransportMessage)
  /-- A dispatch, or closing the transport, ends with `outcome`. -/
  | dispatched (outcome : Except Error Unit)
  /-- `handle_close` has canceled the calls, and tests and sets the flag. -/
  | handleClose
  /-- The keep-alive task goes on by itself. -/
  | keepAlive
  /-- It sees the shutdown signal change. -/
  | keepAliveShutdown
  /-- It sees a message received or sent, sends a ping, or sees that the sender is dropped. -/
  | activity
  /-- The server timeout has elapsed. -/
  | serverTimeout

namespace RuntimeTasks

/-- The step of the receive task, where it goes on by itself. -/
def receiveStep (s : RuntimeTasks) : Option RuntimeTasks :=
  match s.receive with
  | .initial [] => some { s with receive := .loop }
  | .initial (message :: messages) =>
    if s.shutdown then some { s with receive := .ended }
    else some { s with receive := .dispatching message (.initial messages) }
  | .reportClose info following =>
    some { s with reports := s.reports ++ [info], receive := .closing following }
  | .loop => some { s with receive := if s.shutdown then .ended else .select }
  | .closed info => some { s with receive := if s.shutdown then .ended else .dropped info }
  | .dropped info =>
    some { s with receive := if s.closeSignaled then .ended else .reportDrop info }
  | .reportDrop info => some { s with reports := s.reports ++ [info], receive := .endedByDrop }
  | .dispatching _ _ | .closing _ | .select | .endedByDrop | .ended => none

/-- The receive task gets a message of the transport. -/
def incomingStep (s : RuntimeTasks) (message : Option TransportMessage) : Option RuntimeTasks :=
  match s.receive with
  | .select =>
    match message with
    | none => some { s with receive := .dropped ⟨none, none, true⟩ }
    | some (.closed reason) => some { s with receive := .closed ⟨reason, none, true⟩ }
    | some (.frame (.error _)) => some { s with receive := .loop }
    | some (.frame (.ok messages)) =>
      some { s with receive := (Following.frame messages).next (.ok ()) }
  | _ => none

/-- A dispatch ends, or `handle_close` has closed the transport. -/
def dispatchedStep (s : RuntimeTasks) (outcome : Except Error Unit) : Option RuntimeTasks :=
  match s.receive with
  | .dispatching message following =>
    if outcome.isOk || mayFail message then some { s with receive := following.next outcome }
    else none
  | .closing following => some { s with receive := following.next outcome }
  | _ => none

/-- `handle_close` swaps the flag. -/
def handleCloseStep (s : RuntimeTasks) : Option RuntimeTasks :=
  match s.receive with
  | .dispatching (.close message) following =>
    some { s with
      closeSignaled := true
      receive :=
        if s.closeSignaled then .closing following
        else .reportClose ⟨message.error, message.allowReconnect, false⟩ following }
  | _ => none

/-- The step of the keep-alive task, where it goes on by itself. -/
def keepAliveStep (s : RuntimeTasks) : Option RuntimeTasks :=
  match s.keepAlive with
  | .loop => some { s with keepAlive := if s.shutdown then .ended else .select }
  | .timedOut =>
    some { s with
      closeSignaled := true
      keepAlive := if s.closeSignaled then .closing else .reportTimeout }
  | .reportTimeout =>
    some { s with
      reports := s.reports ++ [⟨some serverTimeoutMessage, none, false⟩]
      keepAlive := .closing }
  | .closing => some { s with keepAlive := .ended }
  | .select | .ended => none

/-- The keep-alive task leaves its `select!`. -/
def leaveSelect (s : RuntimeTasks) (enabled : Bool) (pc : KeepAlivePc) : Option RuntimeTasks :=
  if enabled && s.keepAlive = .select then some { s with keepAlive := pc } else none

/-- The state after a step. -/
def next (s : RuntimeTasks) : RuntimeAction → Option RuntimeTasks
  | .shutdown => some { s with shutdown := true }
  | .drop => some { s with dropped := true }
  | .abortReceive =>
    if s.shutdown && s.receive.awaits then some { s with receive := .ended } else none
  | .abortKeepAlive =>
    if s.shutdown && s.keepAlive.awaits then some { s with keepAlive := .ended } else none
  | .receive => s.receiveStep
  | .shutdownChanged =>
    match s.receive with
    | .select => if s.shutdown || s.dropped then some { s with receive := .ended } else none
    | _ => none
  | .incoming message => s.incomingStep message
  | .dispatched outcome => s.dispatchedStep outcome
  | .handleClose => s.handleCloseStep
  | .keepAlive => s.keepAliveStep
  | .keepAliveShutdown => s.leaveSelect s.shutdown .ended
  | .activity => s.leaveSelect true .loop
  | .serverTimeout => s.leaveSelect true .timedOut

/-- The tasks of a runtime that is started with some initial messages. -/
def system (initialMessages : List HubMessage) : Automata.System RuntimeTasks RuntimeAction where
  init := { receive := .initial initialMessages }
  next := next

/-! ## Orderly steps -/

/-- The receive task may end without a report of its own: a shutdown is requested, or the other task
has sent its report. -/
def settled (s : RuntimeTasks) : Bool :=
  s.shutdown || (s.closeSignaled && s.keepAlive != .reportTimeout)

/-- A step at which the flag does what it is for. The keep-alive task does not time out when the
receive task has found the flag unset, and the receive task does not end without a report of its
own, when an initial message cannot be dispatched, when the flag is set or when the runtime is
dropped, unless that is settled. -/
def orderly (s : RuntimeTasks) : RuntimeAction → Bool
  | .keepAlive => s.keepAlive != .timedOut || s.closeSignaled || !s.receive.foundUnset
  | .receive =>
    match s.receive with
    | .dropped _ => !s.closeSignaled || s.settled
    | _ => true
  | .dispatched (.error _) =>
    match s.receive with
    | .dispatching _ (.initial _) | .closing (.initial _) => s.settled
    | _ => true
  | .shutdownChanged => s.settled
  | _ => true

/-- The reports are counted by the flag: one has been sent or is about to be, when the flag is set
or the receive task has found it unset. When the receive task has ended, it has been sent. -/
structure Reported (s : RuntimeTasks) : Prop where
  count : s.reports.length + s.receive.owed + s.keepAlive.owed =
    if s.closeSignaled || s.receive.foundUnset then 1 else 0
  ended : s.receive.hasEnded = true → s.shutdown = false → s.reports.length = 1

section

variable {s s' : RuntimeTasks}

/-- The receive task goes to a place where it owes as much, and has not ended. -/
theorem Reported.receive_at (h : s.Reported) {pc : ReceivePc} (howed : pc.owed = s.receive.owed)
    (hfound : pc.foundUnset = s.receive.foundUnset) (hended : pc.hasEnded = false) :
    Reported { s with receive := pc } where
  count := by simpa only [howed, hfound] using h.count
  ended := by simp [hended]

/-- The receive task ends when that is settled: a report has been sent, or none is due. -/
theorem Reported.receive_ended (h : s.Reported) (howed : s.receive.owed = 0)
    (hfound : s.receive.foundUnset = false) (hsettled : s.settled = true) :
    Reported { s with receive := .ended } where
  count := by
    have hcount := h.count
    rw [howed, hfound] at hcount
    exact hcount
  ended := by
    intro _ (hshutdown : s.shutdown = false)
    have hcount := h.count
    simp only [settled, hshutdown, Bool.false_or, Bool.and_eq_true, bne_iff_ne] at hsettled
    obtain ⟨hflag, hne⟩ := hsettled
    have hkeepAlive : s.keepAlive.owed = 0 := by
      cases hpc : s.keepAlive <;> first | rfl | exact absurd hpc hne
    rw [howed, hkeepAlive, hflag] at hcount
    exact hcount

/-- The receive task goes on by itself. -/
theorem Reported.receiveStep (h : s.Reported) (hok : s.orderly .receive = true)
    (hs : s.receiveStep = some s') : s'.Reported := by
  unfold RuntimeTasks.receiveStep at hs
  split at hs
  next hpc =>
    obtain rfl := Option.some.inj hs
    exact h.receive_at (by rw [hpc]; rfl) (by rw [hpc]; rfl) rfl
  next hpc =>
    split_ifs at hs with hshutdown
    · obtain rfl := Option.some.inj hs
      exact h.receive_ended (by rw [hpc]; rfl) (by rw [hpc]; rfl) (by simp [settled, hshutdown])
    · obtain rfl := Option.some.inj hs
      exact h.receive_at (by rw [hpc]; rfl) (by rw [hpc]; rfl) rfl
  next info following hpc =>
    obtain rfl := Option.some.inj hs
    have hcount := h.count
    rw [hpc] at hcount
    refine ⟨?_, by simp [ReceivePc.hasEnded]⟩
    simpa [ReceivePc.owed, ReceivePc.foundUnset] using hcount
  next hpc =>
    obtain rfl := Option.some.inj hs
    split_ifs with hshutdown
    · exact h.receive_ended (by rw [hpc]; rfl) (by rw [hpc]; rfl) (by simp [settled, hshutdown])
    · exact h.receive_at (by rw [hpc]; rfl) (by rw [hpc]; rfl) rfl
  next info hpc =>
    obtain rfl := Option.some.inj hs
    split_ifs with hshutdown
    · exact h.receive_ended (by rw [hpc]; rfl) (by rw [hpc]; rfl) (by simp [settled, hshutdown])
    · exact h.receive_at (by rw [hpc]; rfl) (by rw [hpc]; rfl) rfl
  next info hpc =>
    obtain rfl := Option.some.inj hs
    split_ifs with hflag
    · have hsettled : s.settled = true := by simpa [orderly, hpc, hflag] using hok
      exact h.receive_ended (by rw [hpc]; rfl) (by rw [hpc]; rfl) hsettled
    · have hcount := h.count
      rw [hpc] at hcount
      refine ⟨?_, by simp [ReceivePc.hasEnded]⟩
      simp_all [ReceivePc.owed, ReceivePc.foundUnset]
  next info hpc =>
    obtain rfl := Option.some.inj hs
    have hcount := h.count
    rw [hpc] at hcount
    simp only [ReceivePc.owed, ReceivePc.foundUnset, Bool.or_true, if_true] at hcount
    refine ⟨?_, fun _ _ => ?_⟩
    · simp only [ReceivePc.owed, ReceivePc.foundUnset, Bool.or_true, if_true,
        List.length_append, List.length_singleton]
      omega
    · simp only [List.length_append, List.length_singleton]
      omega
  all_goals cases hs

/-- The receive task gets a message of the transport. -/
theorem Reported.incomingStep (h : s.Reported) {message : Option TransportMessage}
    (hs : s.incomingStep message = some s') : s'.Reported := by
  unfold RuntimeTasks.incomingStep at hs
  split at hs
  next hpc =>
    split at hs <;> obtain rfl := Option.some.inj hs
    next => exact h.receive_at (by rw [hpc]; rfl) (by rw [hpc]; rfl) rfl
    next reason => exact h.receive_at (by rw [hpc]; rfl) (by rw [hpc]; rfl) rfl
    next error => exact h.receive_at (by rw [hpc]; rfl) (by rw [hpc]; rfl) rfl
    next messages => cases messages <;> exact h.receive_at (by rw [hpc]; rfl) (by rw [hpc]; rfl) rfl
  next => cases hs

/-- What follows a dispatch: the receive task ends after an initial message that cannot be
dispatched, and goes on otherwise. -/
theorem Reported.following (h : s.Reported) (howed : s.receive.owed = 0)
    (hfound : s.receive.foundUnset = false) {following : Following} {outcome : Except Error Unit}
    (hsettled : ∀ messages error, following = .initial messages → outcome = .error error →
      s.settled = true) :
    Reported { s with receive := following.next outcome } := by
  unfold Following.next
  split
  next => exact h.receive_at howed.symm hfound.symm rfl
  next messages error => exact h.receive_ended howed hfound (hsettled messages error rfl rfl)
  all_goals exact h.receive_at howed.symm hfound.symm rfl

/-- A dispatch ends. -/
theorem Reported.dispatchedStep (h : s.Reported) {outcome : Except Error Unit}
    (hok : s.orderly (.dispatched outcome) = true) (hs : s.dispatchedStep outcome = some s') :
    s'.Reported := by
  unfold RuntimeTasks.dispatchedStep at hs
  split at hs
  next message following hpc =>
    split_ifs at hs
    obtain rfl := Option.some.inj hs
    refine h.following (by rw [hpc]; rfl) (by rw [hpc]; rfl) ?_
    rintro messages error rfl rfl
    simpa [orderly, hpc] using hok
  next following hpc =>
    obtain rfl := Option.some.inj hs
    refine h.following (by rw [hpc]; rfl) (by rw [hpc]; rfl) ?_
    rintro messages error rfl rfl
    simpa [orderly, hpc] using hok
  next => cases hs

/-- `handle_close` swaps the flag. -/
theorem Reported.handleCloseStep (h : s.Reported) (hs : s.handleCloseStep = some s') :
    s'.Reported := by
  unfold RuntimeTasks.handleCloseStep at hs
  split at hs
  next message following hpc =>
    obtain rfl := Option.some.inj hs
    have hcount := h.count
    rw [hpc] at hcount
    refine ⟨?_, by split_ifs <;> simp [ReceivePc.hasEnded]⟩
    split_ifs with hflag <;> simp_all [ReceivePc.owed, ReceivePc.foundUnset]
  next => cases hs

/-- The keep-alive task goes to a place where it owes as much. -/
theorem Reported.keepAlive_at (h : s.Reported) {pc : KeepAlivePc}
    (howed : pc.owed = s.keepAlive.owed) : Reported { s with keepAlive := pc } where
  count := by simpa only [howed] using h.count
  ended := h.ended

/-- The keep-alive task goes on by itself. -/
theorem Reported.keepAliveStep (h : s.Reported) (hok : s.orderly .keepAlive = true)
    (hs : s.keepAliveStep = some s') : s'.Reported := by
  unfold RuntimeTasks.keepAliveStep at hs
  split at hs
  next hpc =>
    obtain rfl := Option.some.inj hs
    refine h.keepAlive_at ?_
    rw [hpc]
    split_ifs <;> rfl
  next hpc =>
    obtain rfl := Option.some.inj hs
    have hcount := h.count
    refine ⟨?_, h.ended⟩
    simp only [orderly, hpc, bne_self_eq_false, Bool.false_or, Bool.or_eq_true,
      Bool.not_eq_true'] at hok
    rw [hpc] at hcount
    by_cases hflag : s.closeSignaled = true
    · simpa [hflag, KeepAlivePc.owed] using hcount
    · have hfound : s.receive.foundUnset = false := hok.resolve_left hflag
      simp_all [KeepAlivePc.owed]
  next hpc =>
    obtain rfl := Option.some.inj hs
    have hcount := h.count
    have hle : s.reports.length + s.receive.owed + 1 ≤ 1 := by
      rw [hpc] at hcount
      split_ifs at hcount <;> simp only [KeepAlivePc.owed] at hcount <;> omega
    refine ⟨?_, fun hended hshutdown => ?_⟩
    · rw [hpc] at hcount
      rw [← hcount, List.length_append, List.length_singleton]
      simp only [KeepAlivePc.owed]
      omega
    · have hone := h.ended hended hshutdown
      omega
  next hpc =>
    obtain rfl := Option.some.inj hs
    exact h.keepAlive_at (by rw [hpc]; rfl)
  all_goals cases hs

/-- The keep-alive task leaves its `select!`. -/
theorem Reported.leaveSelect (h : s.Reported) {enabled : Bool} {pc : KeepAlivePc}
    (howed : pc.owed = 0) (hs : s.leaveSelect enabled pc = some s') : s'.Reported := by
  unfold RuntimeTasks.leaveSelect at hs
  split_ifs at hs with hselect
  obtain rfl := Option.some.inj hs
  obtain ⟨-, hpc⟩ : enabled = true ∧ s.keepAlive = .select := by simpa using hselect
  exact h.keepAlive_at (by rw [hpc, howed]; rfl)

/-- **An orderly step keeps the count of reports.** -/
theorem Reported.step (h : s.Reported) {action : RuntimeAction} (hok : s.orderly action = true)
    (hs : s.next action = some s') : s'.Reported := by
  cases action with
  | shutdown =>
    obtain rfl := Option.some.inj hs
    exact ⟨h.count, by simp⟩
  | drop =>
    obtain rfl := Option.some.inj hs
    exact ⟨h.count, h.ended⟩
  | abortReceive =>
    simp only [next] at hs
    split_ifs at hs with hawaits
    obtain rfl := Option.some.inj hs
    obtain ⟨hshutdown, hawaits⟩ := Bool.and_eq_true_iff.mp hawaits
    have hquiet : s.receive.owed = 0 ∧ s.receive.foundUnset = false := by
      cases hpc : s.receive <;> simp_all [ReceivePc.awaits, ReceivePc.owed, ReceivePc.foundUnset]
    exact h.receive_ended hquiet.1 hquiet.2 (by simp [settled, hshutdown])
  | abortKeepAlive =>
    simp only [next] at hs
    split_ifs at hs with hawaits
    obtain rfl := Option.some.inj hs
    obtain ⟨-, hawaits⟩ := Bool.and_eq_true_iff.mp hawaits
    refine h.keepAlive_at ?_
    cases hpc : s.keepAlive <;> simp_all [KeepAlivePc.awaits, KeepAlivePc.owed]
  | receive => exact h.receiveStep hok hs
  | shutdownChanged =>
    simp only [next] at hs
    split at hs
    next hpc =>
      split_ifs at hs
      obtain rfl := Option.some.inj hs
      exact h.receive_ended (by rw [hpc]; rfl) (by rw [hpc]; rfl) hok
    next => cases hs
  | incoming message => exact h.incomingStep hs
  | dispatched outcome => exact h.dispatchedStep hok hs
  | handleClose => exact h.handleCloseStep hs
  | keepAlive => exact h.keepAliveStep hok hs
  | keepAliveShutdown => exact h.leaveSelect rfl hs
  | activity => exact h.leaveSelect rfl hs
  | serverTimeout => exact h.leaveSelect rfl hs

/-! ## Runs -/

/-- In a run of orderly steps there is at most one report, and when the receive task has ended
without a shutdown being requested there is one.

**Proof sketch.** The reports are counted by the flag in every state of the run, by
`Reported.step`. -/
theorem one_report_of_meets {initialMessages : List HubMessage} {actions : List RuntimeAction}
    (hrun : (system initialMessages).run actions = some s)
    (hmeets : (system initialMessages).Meets (fun s action => s.orderly action = true) actions) :
    s.reports.length ≤ 1 ∧
      (s.receive.hasEnded = true → s.shutdown = false → s.reports.length = 1) := by
  have hinit : Reported (system initialMessages).init := ⟨rfl, by simp [system, ReceivePc.hasEnded]⟩
  have h : s.Reported := Automata.System.invariant_of_meets hinit
    (fun _ _ _ hreported hok hstep => hreported.step hok hstep) hrun hmeets
  refine ⟨?_, h.ended⟩
  have hcount := h.count
  split_ifs at hcount <;> omega

end

/-- A ping by the server, and a drop of the transport. -/
def dropRun : List RuntimeAction :=
  [.receive, .receive, .keepAlive, .incoming (some (.frame (.ok [.ping]))), .dispatched (.ok ()),
    .receive, .incoming (some (.closed none)), .receive, .receive, .receive]

/-- A drop of the transport is reported once. -/
theorem one_report_of_drop :
    ∃ s, (system []).run dropRun = some s ∧ s.receive.hasEnded = true ∧ s.reports.length = 1 := by
  have hrun : (system []).run dropRun = some _ := rfl
  exact ⟨_, hrun, rfl, (one_report_of_meets hrun (by decide)).2 rfl rfl⟩

/-- There may be two reports, and none: the server timeout elapses after a drop, and the receive
task ends when an initial message cannot be dispatched. -/
theorem reports_in_general :
    (((system []).run (dropRun ++ [.serverTimeout, .keepAlive, .keepAlive])).map
        fun s => s.reports) =
      some [⟨none, none, true⟩, ⟨some serverTimeoutMessage, none, false⟩] ∧
    (((system [.sequence ⟨5⟩]).run [.receive, .dispatched (.error (.protocol
        "sequence ID greater than amount of messages we've received"))]).map
        fun s => (s.receive.hasEnded, s.shutdown, s.reports)) = some (true, false, []) :=
  ⟨rfl, rfl⟩

end RuntimeTasks

end Signalrr.HubConnection
