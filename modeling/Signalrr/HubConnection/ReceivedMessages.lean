import Signalrr.Automata.Observer
import Signalrr.HubConnection.CloseReports

set_option relaxedAutoImplicit false
set_option autoImplicit false

/-!
# Received messages

The receive task of `HubRuntime::start` (`src/hub_connection/runtime.rs`) dispatches the messages
that came with the handshake response and then those of every frame, with `process_text` and
`process_binary`. A frame that cannot be parsed is dropped, and a dispatch that fails drops the rest
of its frame. An observer notes down what is dispatched, frame by frame.

## Main definitions

* `Signalrr.HubConnection.Round` — the messages of a frame, and the dispatches that have ended.
* `Signalrr.HubConnection.Round.Processed` — every message was dispatched, or all up to the first
  failure.
* `Signalrr.HubConnection.RuntimeTasks.transcript` — the rounds of a run.

## Main results

* `Signalrr.HubConnection.RuntimeTasks.rounds_of_run` — in every run the frames are processed one
  after the other, each message at most once.
* `Signalrr.HubConnection.RuntimeTasks.dispatched_of_run` — without a failure nothing is lost.

## Design

The first round has no frame: it is made of the initial messages. Between finding a `Close` and the
end of its dispatch the task passes several places, so the observer keeps the message meanwhile.
-/

namespace Signalrr.HubConnection

open Hub

/-! ## Rounds -/

/-- The messages of a frame, and the dispatches that have ended. -/
structure Round where
  messages : List HubMessage
  done : List (HubMessage × Except Error Unit)

namespace Round

/-- Nothing has been dispatched. -/
def start (messages : List HubMessage) : Round := ⟨messages, []⟩

/-- A dispatch has ended. -/
def finish (r : Round) (message : HubMessage) (outcome : Except Error Unit) : Round :=
  { r with done := r.done ++ [(message, outcome)] }

/-- All messages but the last ones have been dispatched. -/
def InProgress (r : Round) (rest : List HubMessage) : Prop :=
  ∃ front, r.messages = front ++ rest ∧ r.done = front.map fun m => (m, .ok ())

/-- All messages have been dispatched, or all up to the first one that failed. -/
def Processed (r : Round) : Prop :=
  r.InProgress [] ∨ ∃ front m back error, r.messages = front ++ m :: back ∧
    r.done = (front.map fun m => (m, .ok ())) ++ [(m, .error error)]

/-- A round begins. -/
lemma inProgress_start (messages : List HubMessage) : (start messages).InProgress messages :=
  ⟨[], rfl, rfl⟩

variable {r : Round}

/-- A message is dispatched. -/
lemma InProgress.finish_ok {m : HubMessage} {rest : List HubMessage}
    (h : r.InProgress (m :: rest)) : (r.finish m (.ok ())).InProgress rest := by
  obtain ⟨front, hmessages, hdone⟩ := h
  refine ⟨front ++ [m], ?_, ?_⟩
  · rw [List.append_assoc, List.singleton_append]
    exact hmessages
  · rw [finish, hdone, List.map_append]
    rfl

/-- A dispatch fails. -/
lemma InProgress.finish_error {m : HubMessage} {rest : List HubMessage}
    (h : r.InProgress (m :: rest)) (error : Error) : (r.finish m (.error error)).Processed := by
  obtain ⟨front, hmessages, hdone⟩ := h
  exact .inr ⟨front, m, rest, error, hmessages, by rw [finish, hdone]⟩

/-- Where no dispatch failed, all messages have been dispatched. -/
lemma Processed.map_fst (h : r.Processed) (hok : ∀ x ∈ r.done, x.2.isOk = true) :
    r.done.map Prod.fst = r.messages := by
  rcases h with ⟨front, hmessages, hdone⟩ | ⟨front, m, back, error, -, hdone⟩
  · rw [hdone, hmessages, List.map_map, List.append_nil]
    exact List.map_id front
  · have hfailed := hok (m, .error error) (by simp [hdone])
    cases hfailed

end Round

/-! ## Transcripts -/

/-- The messages that are left. -/
def Following.messages : Following → List HubMessage
  | initial messages => messages
  | frame messages => messages

/-- What the observer of a receive task has noted down. -/
structure Transcript where
  /-- The rounds before the last one. -/
  past : List Round
  last : Round
  /-- The `Close` that is being dispatched. -/
  closing : Option HubMessage

namespace Transcript

/-- All rounds. -/
def rounds (t : Transcript) : List Round := t.past ++ [t.last]

/-- All dispatches that have ended, in order. -/
def done (t : Transcript) : List (HubMessage × Except Error Unit) := t.rounds.flatMap Round.done

/-- A dispatch has ended. -/
def finish (t : Transcript) (message : HubMessage) (outcome : Except Error Unit) : Transcript :=
  { t with last := t.last.finish message outcome }

/-- What the observer notes down of a step. -/
def note (t : Transcript) (s : RuntimeTasks) : RuntimeAction → Transcript
  | .incoming (some (.frame (.ok messages))) =>
    { t with past := t.rounds, last := .start messages }
  | .handleClose =>
    match s.receive with
    | .dispatching message _ => { t with closing := some message }
    | _ => t
  | .dispatched outcome =>
    match s.receive with
    | .dispatching message _ => t.finish message outcome
    | .closing _ =>
      match t.closing with
      | some message => t.finish message outcome
      | none => t
    | _ => t
  | _ => t

/-- What has been noted down of the last round, where the receive task is. -/
def At (t : Transcript) : ReceivePc → Prop
  | .initial messages => t.last.InProgress messages
  | .dispatching message following => t.last.InProgress (message :: following.messages)
  | .reportClose _ following | .closing following =>
    ∃ message, t.closing = some message ∧ t.last.InProgress (message :: following.messages)
  | .loop | .select | .closed _ | .dropped _ | .reportDrop _ | .endedByDrop => t.last.Processed
  | .ended => t.last.Processed ∨ ∃ rest, t.last.InProgress rest

/-- The rounds before the last one are over. -/
structure Faithful (t : Transcript) (s : RuntimeTasks) : Prop where
  past : ∀ r ∈ t.past, r.Processed
  last : t.At s.receive

end Transcript

namespace RuntimeTasks

/-- The rounds of a run. -/
def transcript (initialMessages : List HubMessage) (actions : List RuntimeAction) : Transcript :=
  Automata.System.observe Transcript.note ⟨[], .start initialMessages, none⟩
    ((system initialMessages).stepsFrom (system initialMessages).init actions)

/-- A round that is given up is over or in progress. -/
lemma at_ended {t : Transcript} {pc : ReceivePc} (h : t.At pc) : t.At .ended := by
  cases pc with
  | initial messages => exact .inr ⟨messages, h⟩
  | dispatching message following => exact .inr ⟨_, h⟩
  | reportClose info following | closing following =>
    obtain ⟨message, -, h⟩ := h
    exact .inr ⟨_, h⟩
  | loop | select | closed info | dropped info | reportDrop info | endedByDrop => exact .inl h
  | ended => exact h

/-- After a dispatch the round goes on, or it is over. -/
lemma at_next {t : Transcript} {message : HubMessage} {following : Following}
    (h : t.last.InProgress (message :: following.messages)) (outcome : Except Error Unit) :
    (t.finish message outcome).At (following.next outcome) := by
  cases outcome with
  | ok u =>
    cases following with
    | initial messages => exact h.finish_ok
    | frame messages =>
      cases messages with
      | nil => exact .inl h.finish_ok
      | cons next messages => exact h.finish_ok
  | error error =>
    cases following with
    | initial messages => exact .inl (h.finish_error error)
    | frame messages => cases messages <;> exact h.finish_error error

/-- The messages of a frame that is parsed. -/
def parsedFrame : RuntimeAction → Option (List HubMessage)
  | .incoming (some (.frame (.ok messages))) => some messages
  | _ => none

variable {s s' : RuntimeTasks}

/-- The keep-alive task does not move the receive task. -/
lemma receive_of_keepAliveStep (h : s.keepAliveStep = some s') : s'.receive = s.receive := by
  unfold keepAliveStep at h
  split at h <;> cases h <;> rfl

/-- The keep-alive task does not move the receive task when it leaves its `select!`. -/
lemma receive_of_leaveSelect {enabled : Bool} {pc : KeepAlivePc}
    (h : s.leaveSelect enabled pc = some s') : s'.receive = s.receive := by
  unfold leaveSelect at h
  split_ifs at h
  cases h
  rfl

variable {t : Transcript}

/-- The receive task goes on by itself. -/
lemma at_receiveStep (h : t.At s.receive) (hstep : s.receiveStep = some s') : t.At s'.receive := by
  unfold receiveStep at hstep
  split at hstep
  next hpc =>
    obtain rfl := Option.some.inj hstep
    rw [hpc] at h
    exact .inl h
  next message messages hpc =>
    rw [hpc] at h
    split_ifs at hstep <;> obtain rfl := Option.some.inj hstep
    · exact at_ended h
    · exact h
  next info following hpc =>
    obtain rfl := Option.some.inj hstep
    rw [hpc] at h
    exact h
  next hpc =>
    obtain rfl := Option.some.inj hstep
    rw [hpc] at h
    split_ifs
    · exact at_ended h
    · exact h
  next info hpc =>
    obtain rfl := Option.some.inj hstep
    rw [hpc] at h
    split_ifs
    · exact at_ended h
    · exact h
  next info hpc =>
    obtain rfl := Option.some.inj hstep
    rw [hpc] at h
    split_ifs
    · exact at_ended h
    · exact h
  next info hpc =>
    obtain rfl := Option.some.inj hstep
    rw [hpc] at h
    exact h
  all_goals cases hstep

/-- The receive task gets a message of the transport: a frame that is parsed begins a round. -/
lemma faithful_incomingStep (h : t.Faithful s) {message : Option TransportMessage}
    (hstep : s.incomingStep message = some s') : (t.note s (.incoming message)).Faithful s' := by
  unfold incomingStep at hstep
  split at hstep
  next hpc =>
    have hlast : t.last.Processed := by
      have hat := h.last
      rw [hpc] at hat
      exact hat
    have hrounds : ∀ r ∈ t.rounds, r.Processed := by
      simp only [Transcript.rounds, List.forall_mem_append, List.forall_mem_singleton]
      exact ⟨h.past, hlast⟩
    split at hstep <;> obtain rfl := Option.some.inj hstep
    next => exact ⟨h.past, hlast⟩
    next reason => exact ⟨h.past, hlast⟩
    next error => exact ⟨h.past, hlast⟩
    next messages =>
      refine ⟨hrounds, ?_⟩
      cases messages with
      | nil => exact .inl (Round.inProgress_start [])
      | cons message messages => exact Round.inProgress_start (message :: messages)
  next => cases hstep

/-- A dispatch ends. -/
lemma faithful_dispatchedStep (h : t.Faithful s) {outcome : Except Error Unit}
    (hstep : s.dispatchedStep outcome = some s') :
    (t.note s (.dispatched outcome)).Faithful s' := by
  have hlast := h.last
  unfold dispatchedStep at hstep
  split at hstep
  next message following hpc =>
    split_ifs at hstep
    obtain rfl := Option.some.inj hstep
    rw [hpc] at hlast
    simp only [Transcript.note, hpc]
    exact ⟨h.past, at_next hlast outcome⟩
  next following hpc =>
    obtain rfl := Option.some.inj hstep
    rw [hpc] at hlast
    obtain ⟨message, hclosing, hlast⟩ := hlast
    simp only [Transcript.note, hpc, hclosing]
    exact ⟨h.past, at_next hlast outcome⟩
  next => cases hstep

/-- `handle_close` swaps the flag. -/
lemma faithful_handleCloseStep (h : t.Faithful s) (hstep : s.handleCloseStep = some s') :
    (t.note s .handleClose).Faithful s' := by
  have hlast := h.last
  unfold handleCloseStep at hstep
  split at hstep
  next message following hpc =>
    obtain rfl := Option.some.inj hstep
    rw [hpc] at hlast
    simp only [Transcript.note, hpc]
    refine ⟨h.past, ?_⟩
    dsimp only
    split_ifs <;> exact ⟨_, rfl, hlast⟩
  next => cases hstep

/-- **One step** of the runtime.

**Proof sketch.** The receive task goes through the messages of a round one by one, and leaves the
round only behind the last one or after a failure. The keep-alive task and the signals do not move
it, unless they end it. -/
lemma faithful_next {a : RuntimeAction} (h : t.Faithful s) (hstep : s.next a = some s') :
    (t.note s a).Faithful s' := by
  cases a with
  | shutdown | drop =>
    obtain rfl := Option.some.inj hstep
    exact ⟨h.past, h.last⟩
  | abortReceive =>
    simp only [next] at hstep
    split_ifs at hstep
    obtain rfl := Option.some.inj hstep
    exact ⟨h.past, at_ended h.last⟩
  | abortKeepAlive =>
    simp only [next] at hstep
    split_ifs at hstep
    obtain rfl := Option.some.inj hstep
    exact ⟨h.past, h.last⟩
  | receive => exact ⟨h.past, at_receiveStep h.last hstep⟩
  | shutdownChanged =>
    simp only [next] at hstep
    split at hstep
    next =>
      split_ifs at hstep
      obtain rfl := Option.some.inj hstep
      exact ⟨h.past, at_ended h.last⟩
    next => cases hstep
  | incoming message => exact faithful_incomingStep h hstep
  | dispatched outcome => exact faithful_dispatchedStep h hstep
  | handleClose => exact faithful_handleCloseStep h hstep
  | keepAlive => exact ⟨h.past, (receive_of_keepAliveStep hstep).symm ▸ h.last⟩
  | keepAliveShutdown | activity | serverTimeout =>
    exact ⟨h.past, (receive_of_leaveSelect hstep).symm ▸ h.last⟩

/-- The rounds of a run are those of the initial messages and of the frames that are parsed. -/
lemma messages_rounds {initialMessages : List HubMessage} {actions : List RuntimeAction}
    (hrun : (system initialMessages).run actions = some s) :
    (transcript initialMessages actions).rounds.map Round.messages =
      initialMessages :: actions.filterMap parsedFrame := by
  have hnote : ∀ (t : Transcript) (step : RuntimeTasks × RuntimeAction),
      (t.note step.1 step.2).rounds.map Round.messages =
        t.rounds.map Round.messages ++ (parsedFrame step.2).toList := by
    rintro t ⟨s, a⟩
    cases a with
    | incoming message =>
      rcases message with _ | ⟨_ | messages⟩ | reason <;>
        simp [Transcript.note, parsedFrame, Transcript.rounds, Round.start]
    | dispatched outcome =>
      simp only [Transcript.note, parsedFrame, Option.toList_none, List.append_nil]
      split
      · simp [Transcript.finish, Transcript.rounds, Round.finish]
      · split <;> simp [Transcript.finish, Transcript.rounds, Round.finish]
      · rfl
    | handleClose =>
      simp only [Transcript.note, parsedFrame, Option.toList_none, List.append_nil]
      split <;> rfl
    | _ => simp [Transcript.note, parsedFrame]
  have hsteps : ∀ (steps : List (RuntimeTasks × RuntimeAction)) (t : Transcript),
      (Automata.System.observe Transcript.note t steps).rounds.map Round.messages =
        t.rounds.map Round.messages ++ (steps.map Prod.snd).filterMap parsedFrame := by
    intro steps
    induction steps with
    | nil => simp
    | cons step steps ih =>
      intro t
      show (Automata.System.observe Transcript.note (t.note step.1 step.2) steps).rounds.map
        Round.messages = _
      rw [ih, hnote, List.append_assoc, List.map_cons, List.filterMap_cons]
      cases parsedFrame step.2 <;> rfl
  rw [transcript, hsteps, Automata.System.map_snd_stepsFrom hrun]
  rfl

/-- A run is noted down faithfully. -/
lemma faithful_of_run {initialMessages : List HubMessage} {actions : List RuntimeAction}
    (hrun : (system initialMessages).run actions = some s) :
    (transcript initialMessages actions).Faithful s := by
  have hinit : Transcript.Faithful ⟨[], .start initialMessages, none⟩
      (system initialMessages).init :=
    ⟨by simp, Round.inProgress_start initialMessages⟩
  exact Automata.System.observe_of_run
    (fun _ _ _ _ hfaithful hstep => faithful_next hfaithful hstep) hinit hrun

/-- A receive task that waits for a frame is done with the last round. -/
lemma last_processed {initialMessages : List HubMessage} {actions : List RuntimeAction}
    (hrun : (system initialMessages).run actions = some s) (hselect : s.receive = .select) :
    (transcript initialMessages actions).last.Processed := by
  have hat := (faithful_of_run hrun).last
  rw [hselect] at hat
  exact hat

/-- **Frames are processed in order**, in every run of a runtime. There is one round for the initial
messages and one for each frame that is parsed, in the order in which they came. In every round but
the last one, all messages have been dispatched in order, or all up to the first failure; the last
one may be under way or given up, unless the task waits for a frame. -/
theorem rounds_of_run {initialMessages : List HubMessage} {actions : List RuntimeAction}
    (hrun : (system initialMessages).run actions = some s) :
    (transcript initialMessages actions).rounds.map Round.messages =
        initialMessages :: actions.filterMap parsedFrame ∧
      (∀ r ∈ (transcript initialMessages actions).past, r.Processed) ∧
        (s.receive = .select → (transcript initialMessages actions).last.Processed) ∧
          ((transcript initialMessages actions).last.Processed ∨
            ∃ rest, (transcript initialMessages actions).last.InProgress rest) := by
  have h := faithful_of_run hrun
  exact ⟨messages_rounds hrun, h.past, last_processed hrun, at_ended h.last⟩

/-- A `Sequence` that is ahead fails and drops the rest of its frame, and the next frame is
dispatched. -/
def failureRun : List RuntimeAction :=
  [.receive, .dispatched (.ok ()), .receive, .receive,
    .incoming (some (.frame (.ok [.ping, .sequence ⟨5⟩, .ping]))), .dispatched (.ok ()),
    .dispatched (.error (.protocol "ahead")), .receive,
    .incoming (some (.frame (.ok [.ack ⟨1⟩]))), .dispatched (.ok ()), .receive]

/-- The rounds of such a run. -/
theorem rounds_of_run_failure :
    ∃ s, (system [.ping]).run failureRun = some s ∧ s.receive = .select ∧
      (transcript [.ping] failureRun).done = [(.ping, .ok ()), (.ping, .ok ()),
        (.sequence ⟨5⟩, .error (.protocol "ahead")), (.ack ⟨1⟩, .ok ())] ∧
      ∀ r ∈ (transcript [.ping] failureRun).past, r.Processed := by
  have hrun : (system [.ping]).run failureRun = some _ := rfl
  exact ⟨_, hrun, rfl, rfl, (rounds_of_run hrun).2.1⟩

/-- Without a failure, a receive task that waits for a frame has dispatched all messages it got. -/
lemma dispatched_of_run {initialMessages : List HubMessage} {actions : List RuntimeAction}
    (hrun : (system initialMessages).run actions = some s) (hselect : s.receive = .select)
    (hok : ∀ x ∈ (transcript initialMessages actions).done, x.2.isOk = true) :
    (transcript initialMessages actions).done.map Prod.fst =
      (initialMessages :: actions.filterMap parsedFrame).flatten := by
  have h := faithful_of_run hrun
  have hrounds : ∀ r ∈ (transcript initialMessages actions).rounds, r.Processed := by
    simp only [Transcript.rounds, List.forall_mem_append, List.forall_mem_singleton]
    exact ⟨h.past, last_processed hrun hselect⟩
  have hdone : ∀ rounds : List Round, (∀ r ∈ rounds, r.Processed) →
      (∀ x ∈ rounds.flatMap Round.done, x.2.isOk = true) →
        (rounds.flatMap Round.done).map Prod.fst = (rounds.map Round.messages).flatten := by
    intro rounds
    induction rounds with
    | nil => exact fun _ _ => rfl
    | cons r rounds ih =>
      intro hprocessed hsome
      obtain ⟨hr, hrest⟩ := List.forall_mem_cons.mp hprocessed
      rw [List.flatMap_cons, List.forall_mem_append] at hsome
      rw [List.flatMap_cons, List.map_append, hr.map_fst hsome.1, ih hrest hsome.2, List.map_cons,
        List.flatten_cons]
  rw [← messages_rounds hrun]
  exact hdone _ hrounds hok

end RuntimeTasks

end Signalrr.HubConnection
