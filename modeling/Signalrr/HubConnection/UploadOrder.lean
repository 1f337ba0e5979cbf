import Signalrr.HubConnection.Core

set_option relaxedAutoImplicit false
set_option autoImplicit false

/-!
# The order of uploads

`launch_upload_streams` of `src/hub_connection/upload_stream.rs` starts a producer for each upload
stream of a call. The producers send commands on one channel, and one task sends the messages of the
commands.

## Main definitions

* `Signalrr.HubConnection.UploadStream`, `UploadStreams` — streams, and the streams of a call.
* `Signalrr.HubConnection.uploadMessages` — the messages for the first results of a stream.
* `Signalrr.HubConnection.EndsWith` — a stream that yields some values and ends, or yields an error.
* `Signalrr.HubConnection.UploadTasks` — the producers, the channel and the task that sends.
* `Signalrr.HubConnection.UploadTasks.system` — their steps, in any order.

## Main results

* `Signalrr.HubConnection.UploadTasks.Ordered.step` — a step keeps the commands of each stream in
  order.
* `Signalrr.HubConnection.UploadTasks.uploads_in_order` — what is sent for a stream is in order, and
  all of it in the end.

## Design

A producer takes the next result of its stream and sends the command for it in one step, as it is
not suspended in between. The runtime is stored and taken by other code whenever the task that sends
does not hold the lock. The ids of the streams are distinct, being the keys of a map.
-/

namespace Signalrr.HubConnection

open Hub

/-! ## Streams -/

/-- A stream: what its `n`-th `next` gives, where `none` is the end. -/
abbrev UploadStream := ℕ → Option (Except String Value)

/-- `HashMap<String, ClientUploadStream>`. -/
structure UploadStreams where
  entries : List (String × UploadStream)
  nodup : (entries.map Prod.fst).Nodup

/-- The command for what `next` gives. -/
def uploadCommand (streamId : String) : Option (Except String Value) → UploadCommand
  | some (.ok value) => .item streamId value
  | some (.error error) => .complete streamId (some error)
  | none => .complete streamId none

/-- A producer goes on after a value. -/
def goesOn : Option (Except String Value) → Bool
  | some (.ok _) => true
  | _ => false

/-- The commands for the first `n` results of a stream: items up to the first error or the end, and
then a completion. -/
def uploadCommands (streamId : String) (stream : UploadStream) : ℕ → List UploadCommand
  | 0 => []
  | n + 1 =>
    uploadCommand streamId (stream 0) ::
      if goesOn (stream 0) then uploadCommands streamId (fun k => stream (k + 1)) n else []

/-- The messages for the first `n` results of a stream. -/
def uploadMessages (streamId : String) (stream : UploadStream) (n : ℕ) : List HubMessage :=
  (uploadCommands streamId stream n).map UploadCommand.message

/-- A stream that yields some values, and then an error or the end. -/
structure EndsWith (stream : UploadStream) (values : List Value) (error : Option String) :
    Prop where
  yields : ∀ k (h : k < values.length), stream k = some (.ok values[k])
  ending : stream values.length = error.map .error

/-- The messages for a stream that ends: its values, and one completion with the error, if any. -/
def wholeUpload (streamId : String) (values : List Value) (error : Option String) :
    List HubMessage :=
  values.map (fun value => .streamItem ⟨[], some streamId, value⟩) ++
    [.completion ⟨[], streamId, error, none⟩]

/-- One more result adds one command, when the stream has not ended. -/
theorem uploadCommands_succ (streamId : String) {stream : UploadStream} {n : ℕ}
    (h : ∀ k < n, goesOn (stream k) = true) :
    uploadCommands streamId stream (n + 1) =
      uploadCommands streamId stream n ++ [uploadCommand streamId (stream n)] := by
  induction n generalizing stream with
  | zero => simp [uploadCommands]
  | succ n ih =>
    have hfirst : goesOn (stream 0) = true := h 0 (by omega)
    have hrest : ∀ k < n, goesOn (stream (k + 1)) = true := fun k hk => h (k + 1) (by omega)
    rw [uploadCommands, if_pos hfirst, ih hrest, uploadCommands, if_pos hfirst]
    rfl

/-- All commands for a stream that ends. -/
theorem uploadMessages_of_endsWith (streamId : String) {stream : UploadStream} {values : List Value}
    {error : Option String} (h : EndsWith stream values error) :
    uploadMessages streamId stream (values.length + 1) = wholeUpload streamId values error := by
  induction values generalizing stream with
  | nil =>
    have hending := h.ending
    rw [List.length_nil] at hending
    cases error <;> simp [uploadMessages, uploadCommands, hending, uploadCommand, wholeUpload,
      UploadCommand.message, goesOn]
  | cons value values ih =>
    have hfirst : stream 0 = some (.ok value) := h.yields 0 (by simp)
    have hrest : EndsWith (fun k => stream (k + 1)) values error :=
      ⟨fun k hk => h.yields (k + 1) (Nat.succ_lt_succ hk), h.ending⟩
    have hmessages := ih hrest
    unfold uploadMessages at hmessages ⊢
    rw [List.length_cons, uploadCommands, hfirst]
    simp only [goesOn, if_true, List.map_cons, hmessages]
    rfl

/-- A stream goes on until it ends. -/
theorem EndsWith.goesOn_iff {stream : UploadStream} {values : List Value} {error : Option String}
    (h : EndsWith stream values error) :
    (∀ k < values.length, goesOn (stream k) = true) ∧ goesOn (stream values.length) = false := by
  refine ⟨fun k hk => ?_, ?_⟩
  · rw [h.yields k hk]
    rfl
  · rw [h.ending]
    cases error <;> rfl

/-! ## The tasks -/

/-- A producer: its stream, the results it has sent commands for, and whether it has ended. -/
structure Producer where
  streamId : String
  stream : UploadStream
  polled : ℕ := 0
  ended : Bool := false

/-- Where the task that sends is. -/
inductive SenderPc where
  /-- `recv` on the channel. -/
  | receive
  /-- A command has been received, and the runtime is read. -/
  | command (command : UploadCommand)
  /-- A message is sent, under the read lock of the runtime. -/
  | send
  /-- All commands have been received. -/
  | finished
  /-- There was no runtime, or a send has failed. -/
  | broken

/-- The channel is closed: the receiver has been dropped. -/
def SenderPc.hasEnded : SenderPc → Bool
  | finished | broken => true
  | _ => false

/-- The command that has been received and not sent. -/
def SenderPc.inHand : SenderPc → List UploadCommand
  | command c => [c]
  | _ => []

/-- The steps until the task that sends gets the next command or has ended. -/
def SenderPc.steps : SenderPc → ℕ
  | command _ => 3
  | send => 2
  | receive => 1
  | finished | broken => 0

/-- The tasks of `launch_upload_streams`. -/
structure UploadTasks where
  producers : List Producer
  channel : List UploadCommand := []
  sender : SenderPc := .receive
  /-- A runtime is installed. -/
  installed : Bool
  /-- The messages that have been sent through a runtime. -/
  sent : List HubMessage := []

/-- A step of the tasks, or of other code that stores or takes the runtime. -/
inductive UploadAction where
  /-- A producer gets the next result of its stream. -/
  | produce (i : ℕ)
  /-- The channel gives a command, or ends. -/
  | receive
  /-- The runtime is read. -/
  | readRuntime
  /-- A send ends. -/
  | sendEnds (outcome : Except Error Unit)
  /-- Other code stores a runtime or takes it. -/
  | setRuntime (installed : Bool)

/-- A step of the tasks. -/
def UploadAction.isTask : UploadAction → Bool
  | setRuntime _ => false
  | _ => true

/-- The stream a message is for. -/
def streamOf : HubMessage → Option String
  | .streamItem message => message.invocationId
  | .completion message => some message.invocationId
  | _ => none

namespace UploadTasks

/-- A producer gets the next result of its stream. When the channel is closed it ends. -/
def produceStep (s : UploadTasks) (i : ℕ) (p : Producer) : UploadTasks :=
  if s.sender.hasEnded then { s with producers := s.producers.set i { p with ended := true } }
  else
    { s with
      producers := s.producers.set i
        { p with polled := p.polled + 1, ended := !goesOn (p.stream p.polled) }
      channel := s.channel ++ [uploadCommand p.streamId (p.stream p.polled)] }

/-- The channel gives its first command, or ends when all producers have. -/
def receiveStep (s : UploadTasks) : Option UploadTasks :=
  match s.channel with
  | command :: channel => some { s with channel := channel, sender := .command command }
  | [] => if s.producers.all Producer.ended then some { s with sender := .finished } else none

/-- The state after a step. -/
def next (s : UploadTasks) : UploadAction → Option UploadTasks
  | .produce i =>
    match s.producers[i]? with
    | some p => if p.ended then none else some (s.produceStep i p)
    | none => none
  | .receive =>
    match s.sender with
    | .receive => s.receiveStep
    | _ => none
  | .readRuntime =>
    match s.sender with
    | .command command =>
      if s.installed then some { s with sent := s.sent ++ [command.message], sender := .send }
      else some { s with channel := [], sender := .broken }
    | _ => none
  | .sendEnds outcome =>
    match s.sender with
    | .send =>
      if outcome.isOk then some { s with sender := .receive }
      else some { s with channel := [], sender := .broken }
    | _ => none
  | .setRuntime installed =>
    match s.sender with
    | .send => none
    | _ => some { s with installed := installed }

/-- The tasks for some streams. -/
def system (streams : UploadStreams) (installed : Bool) :
    Automata.System UploadTasks UploadAction where
  init :=
    { producers := streams.entries.map fun e => { streamId := e.1, stream := e.2 }
      installed := installed }
  next := next

/-- The messages that have been sent for a stream. -/
def sentFor (s : UploadTasks) (streamId : String) : List HubMessage :=
  s.sent.filter fun message => streamOf message = some streamId

/-- The commands for a stream that have not been sent. -/
def waitingFor (s : UploadTasks) (streamId : String) : List UploadCommand :=
  (s.sender.inHand ++ s.channel).filter fun command => command.streamId = streamId

/-! ## The order of what is sent -/

/-- What the state has to do with a producer: unless the task that sends has given up, what has been
sent and what waits are the messages for the results the producer has got so far. -/
structure Follows (s : UploadTasks) (p : Producer) : Prop where
  /-- Nothing is sent out of order. -/
  sent : s.sentFor p.streamId <+: uploadMessages p.streamId p.stream p.polled
  /-- Nothing is lost while the task goes on. -/
  waiting : s.sender ≠ .broken →
    s.sentFor p.streamId ++ (s.waitingFor p.streamId).map UploadCommand.message =
      uploadMessages p.streamId p.stream p.polled
  /-- The stream has not ended while the producer goes on. -/
  running : p.ended = false → ∀ k < p.polled, goesOn (p.stream k) = true
  /-- It has when the producer has ended, unless the channel was closed. -/
  ended : p.ended = true → s.sender ≠ .broken →
    ∃ n, p.polled = n + 1 ∧ (∀ k < n, goesOn (p.stream k) = true) ∧ goesOn (p.stream n) = false

/-- What holds in every state. -/
structure Ordered (streams : UploadStreams) (s : UploadTasks) : Prop where
  /-- The producers are those of the streams. -/
  producers : (s.producers.map fun p => (p.streamId, p.stream)) = streams.entries
  follows : ∀ p ∈ s.producers, s.Follows p
  /-- Nothing is sent for another stream. -/
  known : ∀ message ∈ s.sent, ∃ e ∈ streams.entries, streamOf message = some e.1
  /-- Nothing waits for another stream. -/
  knownWaiting : ∀ command ∈ s.sender.inHand ++ s.channel,
    ∃ e ∈ streams.entries, command.streamId = e.1
  /-- All has been sent when the channel has ended. -/
  finished : s.sender = .finished → s.channel = [] ∧ ∀ p ∈ s.producers, p.ended = true

section

variable {streams : UploadStreams} {s s' : UploadTasks} {p : Producer}

/-- Nothing changes for a producer when nothing is sent or received for it. -/
theorem Follows.congr (h : s.Follows p) (hsent : s'.sentFor p.streamId = s.sentFor p.streamId)
    (hwaiting : s'.sender ≠ .broken →
      s.sender ≠ .broken ∧ s'.waitingFor p.streamId = s.waitingFor p.streamId) : s'.Follows p where
  sent := by
    rw [hsent]
    exact h.sent
  waiting := by
    intro hsender
    obtain ⟨hbefore, heq⟩ := hwaiting hsender
    rw [hsent, heq]
    exact h.waiting hbefore
  running := h.running
  ended := fun hended hsender => h.ended hended (hwaiting hsender).1

/-- A command that is sent goes from those that wait to those that have been sent. -/
theorem Follows.send (h : s.Follows p) {command : UploadCommand}
    (hpc : s.sender = .command command) :
    Follows { s with sent := s.sent ++ [command.message], sender := .send } p := by
  have hbefore : s.sender ≠ .broken := by
    rw [hpc]
    exact SenderPc.noConfusion
  have hall := h.waiting hbefore
  have hstream : streamOf command.message = some command.streamId := by cases command <;> rfl
  have hmove : sentFor { s with sent := s.sent ++ [command.message], sender := .send } p.streamId ++
      (waitingFor { s with sent := s.sent ++ [command.message], sender := .send }
        p.streamId).map UploadCommand.message =
      s.sentFor p.streamId ++ (s.waitingFor p.streamId).map UploadCommand.message := by
    simp only [sentFor, waitingFor, hpc, SenderPc.inHand, List.filter_append, List.nil_append]
    by_cases hid : command.streamId = p.streamId <;> simp [hstream, hid]
  rw [hall] at hmove
  exact
    { sent := ⟨_, hmove⟩
      waiting := fun _ => hmove
      running := h.running
      ended := fun hended _ => h.ended hended hbefore }

/-- A command of a producer waits after those that wait. -/
theorem Follows.produce (h : s.Follows p) (hended : p.ended = false)
    (hsender : s.sender.hasEnded = false) (producers : List Producer) :
    Follows { s with
        producers := producers
        channel := s.channel ++ [uploadCommand p.streamId (p.stream p.polled)] }
      { p with polled := p.polled + 1, ended := !goesOn (p.stream p.polled) } := by
  have hopen : s.sender ≠ .broken := by
    intro hpc
    rw [hpc] at hsender
    cases hsender
  have hrunning := h.running hended
  have hcommand : (uploadCommand p.streamId (p.stream p.polled)).streamId = p.streamId := by
    unfold uploadCommand
    split <;> rfl
  have hmessages : uploadMessages p.streamId p.stream (p.polled + 1) =
      uploadMessages p.streamId p.stream p.polled ++
        [(uploadCommand p.streamId (p.stream p.polled)).message] := by
    rw [uploadMessages, uploadCommands_succ _ hrunning, List.map_append]
    rfl
  refine ⟨?_, fun _ => ?_, ?_, ?_⟩
  · rw [hmessages]
    exact h.sent.trans (List.prefix_append _ _)
  · have hall := h.waiting hopen
    rw [hmessages, ← hall]
    simp [sentFor, waitingFor, hcommand]
  · intro hgoes k hk
    rcases Nat.lt_succ_iff_lt_or_eq.mp hk with hlt | rfl
    · exact hrunning k hlt
    · simpa using hgoes
  · intro hends _
    exact ⟨p.polled, rfl, hrunning, by simpa using hends⟩

/-- Another producer is not concerned when one is replaced. -/
theorem mem_set_of_nodup {producers : List Producer} {i : ℕ} {q r : Producer}
    (hnodup : (producers.map Producer.streamId).Nodup) (hi : producers[i]? = some p)
    (hq : q ∈ producers.set i r) : q = r ∨ q ∈ producers ∧ q.streamId ≠ p.streamId := by
  obtain ⟨j, hj⟩ := List.mem_iff_getElem?.mp hq
  rw [List.getElem?_set] at hj
  split_ifs at hj with heq hlt
  · exact .inl (Option.some.inj hj).symm
  · refine .inr ⟨List.mem_of_getElem? hj, fun hid => heq ?_⟩
    have hji : (producers.map Producer.streamId)[i]? = (producers.map Producer.streamId)[j]? := by
      rw [List.getElem?_map, List.getElem?_map, hi, hj, Option.map_some, Option.map_some, hid]
    have hlt : i < (producers.map Producer.streamId).length := by
      rw [List.length_map]
      exact (List.getElem?_eq_some_iff.mp hi).1
    exact (List.getElem?_inj hlt hnodup).mp hji

/-- The ids of the producers are distinct. -/
theorem Ordered.nodup (h : s.Ordered streams) : (s.producers.map Producer.streamId).Nodup := by
  have hids : s.producers.map Producer.streamId = streams.entries.map Prod.fst := by
    rw [← h.producers, List.map_map]
    rfl
  rw [hids]
  exact streams.nodup

/-- A producer is one of the streams. -/
theorem Ordered.mem_entries (h : s.Ordered streams) (hp : p ∈ s.producers) :
    (p.streamId, p.stream) ∈ streams.entries := by
  rw [← h.producers]
  exact List.mem_map_of_mem hp

/-- Other code stores a runtime or takes it. -/
theorem Ordered.setRuntime (h : s.Ordered streams) (installed : Bool) :
    Ordered streams { s with installed := installed } where
  producers := h.producers
  follows := fun p hp => (h.follows p hp).congr rfl fun hsender => ⟨hsender, rfl⟩
  known := h.known
  knownWaiting := h.knownWaiting
  finished := h.finished

/-- The task that sends gives up. -/
theorem Ordered.broken (h : s.Ordered streams) :
    Ordered streams { s with channel := [], sender := .broken } where
  producers := h.producers
  follows := fun p hp => (h.follows p hp).congr rfl fun hsender => absurd rfl hsender
  known := h.known
  knownWaiting := by simp [SenderPc.inHand]
  finished := by simp

/-- The channel gives a command, or ends. -/
theorem Ordered.receiveStep (h : s.Ordered streams) (hpc : s.sender = .receive)
    (hs : s.receiveStep = some s') : s'.Ordered streams := by
  have hopen : s.sender ≠ .broken := by simp [hpc]
  have hknown := h.knownWaiting
  rw [hpc] at hknown
  unfold UploadTasks.receiveStep at hs
  split at hs
  next command channel hchannel =>
    obtain rfl := Option.some.inj hs
    refine ⟨h.producers, fun p hp => ?_, h.known, ?_, by simp⟩
    · exact (h.follows p hp).congr rfl fun _ => ⟨hopen, by simp [waitingFor, hpc, hchannel,
        SenderPc.inHand]⟩
    · rw [hchannel] at hknown
      exact hknown
  next hchannel =>
    split_ifs at hs with hall
    obtain rfl := Option.some.inj hs
    refine ⟨h.producers, fun p hp => ?_, h.known, ?_, fun _ => ⟨hchannel, ?_⟩⟩
    · exact (h.follows p hp).congr rfl fun _ => ⟨hopen, by simp [waitingFor, hpc, SenderPc.inHand]⟩
    · exact hknown
    · simpa using hall

/-- A producer gets the next result of its stream.

**Proof sketch.** When the channel is closed, the task that sends has given up, since it does not
see the end of the channel while a producer goes on. Otherwise one command waits in addition, and it
is for no other producer. -/
theorem Ordered.produceStep (h : s.Ordered streams) {i : ℕ} (hi : s.producers[i]? = some p)
    (hended : p.ended = false) : (s.produceStep i p).Ordered streams := by
  have hmem := List.mem_of_getElem? hi
  have hfollows := h.follows p hmem
  have hproducers : ∀ q : Producer, q.streamId = p.streamId → q.stream = p.stream →
      ((s.producers.set i q).map fun p => (p.streamId, p.stream)) = streams.entries := by
    intro q hid hstream
    obtain ⟨hlt, rfl⟩ := List.getElem?_eq_some_iff.mp hi
    rw [List.map_set, hid, hstream, ← List.map_set, List.set_getElem_self]
    exact h.producers
  unfold UploadTasks.produceStep
  split_ifs with hsender
  · have hbroken : s.sender = .broken := by
      cases hpc : s.sender with
      | finished =>
        have hall := (h.finished hpc).2 p hmem
        rw [hended] at hall
        cases hall
      | broken => rfl
      | receive | command | send =>
        rw [hpc] at hsender
        cases hsender
    refine ⟨hproducers _ rfl rfl, ?_, h.known, h.knownWaiting, by simp [hbroken]⟩
    intro q hq
    rcases mem_set_of_nodup h.nodup hi hq with rfl | ⟨hq, -⟩
    · exact ⟨hfollows.sent, fun hopen => absurd hbroken hopen, by simp,
        fun _ hopen => absurd hbroken hopen⟩
    · exact (h.follows q hq).congr rfl fun hopen => absurd hbroken hopen
  · have hsender : s.sender.hasEnded = false := by simpa using hsender
    have hcommand : (uploadCommand p.streamId (p.stream p.polled)).streamId = p.streamId := by
      unfold uploadCommand
      split <;> rfl
    refine ⟨hproducers _ rfl rfl, ?_, h.known, ?_, ?_⟩
    · intro q hq
      rcases mem_set_of_nodup h.nodup hi hq with rfl | ⟨hq, hne⟩
      · exact hfollows.produce hended hsender _
      · refine (h.follows q hq).congr rfl fun hopen => ⟨hopen, ?_⟩
        simp [waitingFor, hcommand, Ne.symm hne]
    · intro command hcommandMem
      rw [← List.append_assoc, List.mem_append, List.mem_singleton] at hcommandMem
      rcases hcommandMem with hold | rfl
      · exact h.knownWaiting command hold
      · exact ⟨_, h.mem_entries hmem, hcommand⟩
    · intro hfinished
      rw [hfinished] at hsender
      cases hsender

/-- **A step keeps the commands of each stream in order.** -/
theorem Ordered.step (h : s.Ordered streams) {action : UploadAction}
    (hs : s.next action = some s') :
    s'.Ordered streams := by
  cases action with
  | produce i =>
    simp only [next] at hs
    split at hs
    next p hi =>
      split_ifs at hs with hended
      obtain rfl := Option.some.inj hs
      exact h.produceStep hi (by simpa using hended)
    next => cases hs
  | receive =>
    simp only [next] at hs
    split at hs
    next hpc => exact h.receiveStep hpc hs
    next => cases hs
  | readRuntime =>
    simp only [next] at hs
    split at hs
    next command hpc =>
      have hknown := h.knownWaiting
      rw [hpc] at hknown
      split_ifs at hs
      · obtain rfl := Option.some.inj hs
        refine ⟨h.producers, fun p hp => (h.follows p hp).send hpc, ?_, ?_, by simp⟩
        · intro message hmessage
          rcases List.mem_append.mp hmessage with hold | hnew
          · exact h.known message hold
          · obtain rfl := List.mem_singleton.mp hnew
            obtain ⟨e, he, hid⟩ := hknown command (by simp [SenderPc.inHand])
            refine ⟨e, he, ?_⟩
            rw [← hid]
            cases command <;> rfl
        · exact fun command hmem => hknown command (List.mem_append_right _ hmem)
      · obtain rfl := Option.some.inj hs
        exact h.broken
    next => cases hs
  | sendEnds outcome =>
    simp only [next] at hs
    split at hs
    next hpc =>
      split_ifs at hs
      · obtain rfl := Option.some.inj hs
        refine ⟨h.producers, fun p hp => ?_, h.known, ?_, by simp⟩
        · exact (h.follows p hp).congr rfl fun _ =>
            ⟨by simp [hpc], by simp [waitingFor, hpc, SenderPc.inHand]⟩
        · have hknown := h.knownWaiting
          rw [hpc] at hknown
          exact hknown
      · obtain rfl := Option.some.inj hs
        exact h.broken
    next => cases hs
  | setRuntime installed =>
    simp only [next] at hs
    split at hs
    next => cases hs
    next =>
      obtain rfl := Option.some.inj hs
      exact h.setRuntime installed

end

/-! ## The end of the uploads -/

/-- No send fails, and a runtime stays installed. -/
def calm : UploadAction → Bool
  | .sendEnds (.error _) => false
  | .setRuntime installed => installed
  | _ => true

/-- No task can take a step. -/
def Stuck (s : UploadTasks) : Prop :=
  ∀ action : UploadAction, action.isTask = true → s.next action = none

section

variable {streams : UploadStreams} {s s' : UploadTasks}

/-- The steps a producer still causes, when its stream ends after `length` values. -/
def producerSteps (length : String × UploadStream → ℕ) (p : Producer) : ℕ :=
  if p.ended then 0 else 4 * (length (p.streamId, p.stream) + 1 - p.polled) + 1

/-- The steps the tasks can still take, when the streams end after `length` values. -/
def stepsLeft (length : String × UploadStream → ℕ) (s : UploadTasks) : ℕ :=
  (s.producers.map (producerSteps length)).sum + 3 * s.channel.length + s.sender.steps

/-- The streams end after `length` values. -/
def EndAfter (streams : UploadStreams) (length : String × UploadStream → ℕ) : Prop :=
  ∀ e ∈ streams.entries, goesOn (e.2 (length e)) = false

/-- The sum over the producers when one is replaced. -/
theorem sum_map_set (f : Producer → ℕ) {producers : List Producer} {i : ℕ} {p : Producer}
    (hi : producers[i]? = some p) (q : Producer) :
    ((producers.set i q).map f).sum + f p = (producers.map f).sum + f q := by
  induction producers generalizing i with
  | nil => simp at hi
  | cons r producers ih =>
    cases i with
    | zero =>
      obtain rfl : r = p := by simpa using hi
      simp only [List.set_cons_zero, List.map_cons, List.sum_cons]
      omega
    | succ i =>
      have hrest := ih (by simpa using hi)
      simp only [List.set_cons_succ, List.map_cons, List.sum_cons]
      omega

/-- A producer that gets a result causes fewer steps. -/
theorem stepsLeft_produceStep (h : s.Ordered streams) {length : String × UploadStream → ℕ}
    (hlength : EndAfter streams length) {i : ℕ} {p : Producer} (hi : s.producers[i]? = some p)
    (hended : p.ended = false) :
    (s.produceStep i p).stepsLeft length < s.stepsLeft length := by
  have hmem := List.mem_of_getElem? hi
  have hpolled : p.polled ≤ length (p.streamId, p.stream) := by
    by_contra hlt
    have hgoes := (h.follows p hmem).running hended (length (p.streamId, p.stream)) (by omega)
    rw [hlength _ (h.mem_entries hmem)] at hgoes
    cases hgoes
  have hbefore :
      producerSteps length p = 4 * (length (p.streamId, p.stream) + 1 - p.polled) + 1 := by
    simp [producerSteps, hended]
  unfold UploadTasks.produceStep stepsLeft
  split_ifs with hsender
  · have hsum := sum_map_set (producerSteps length) hi { p with ended := true }
    have hafter : producerSteps length { p with ended := true } = 0 := rfl
    simp only
    omega
  · have hsum := sum_map_set (producerSteps length) hi
      { p with polled := p.polled + 1, ended := !goesOn (p.stream p.polled) }
    have hafter : producerSteps length
        { p with polled := p.polled + 1, ended := !goesOn (p.stream p.polled) } ≤
          4 * (length (p.streamId, p.stream) + 1 - (p.polled + 1)) + 1 := by
      unfold producerSteps
      split_ifs <;> simp
    simp only [List.length_append, List.length_singleton]
    omega

/-- A step of the tasks leaves fewer. -/
theorem stepsLeft_next (h : s.Ordered streams) {length : String × UploadStream → ℕ}
    (hlength : EndAfter streams length) {action : UploadAction} (hs : s.next action = some s') :
    s'.stepsLeft length + (if action.isTask then 1 else 0) ≤ s.stepsLeft length := by
  cases action with
  | produce i =>
    simp only [next] at hs
    split at hs
    next p hi =>
      split_ifs at hs with hended
      obtain rfl := Option.some.inj hs
      exact stepsLeft_produceStep h hlength hi (by simpa using hended)
    next => cases hs
  | receive =>
    simp only [next] at hs
    split at hs
    next hpc =>
      unfold UploadTasks.receiveStep at hs
      split at hs
      next command channel hchannel =>
        obtain rfl := Option.some.inj hs
        simp only [stepsLeft, hpc, hchannel, SenderPc.steps, List.length_cons, UploadAction.isTask]
        grind
      next hchannel =>
        split_ifs at hs
        obtain rfl := Option.some.inj hs
        simp [stepsLeft, hpc, SenderPc.steps, UploadAction.isTask]
    next => cases hs
  | readRuntime =>
    simp only [next] at hs
    split at hs
    next command hpc =>
      split_ifs at hs <;> obtain rfl := Option.some.inj hs <;>
        simp only [stepsLeft, hpc, SenderPc.steps, UploadAction.isTask, List.length_nil] <;> grind
    next => cases hs
  | sendEnds outcome =>
    simp only [next] at hs
    split at hs
    next hpc =>
      split_ifs at hs <;> obtain rfl := Option.some.inj hs <;>
        simp only [stepsLeft, hpc, SenderPc.steps, UploadAction.isTask, List.length_nil] <;> grind
    next => cases hs
  | setRuntime installed =>
    simp only [next] at hs
    split at hs
    next => cases hs
    next =>
      obtain rfl := Option.some.inj hs
      exact le_refl _

/-- The tasks start in order. -/
theorem ordered_init (streams : UploadStreams) (installed : Bool) :
    Ordered streams (system streams installed).init where
  producers := by
    rw [system, List.map_map]
    exact List.map_id _
  follows := by
    intro p hp
    obtain ⟨e, -, rfl⟩ := List.mem_map.mp hp
    exact ⟨List.nil_prefix, fun _ => rfl, by simp, by simp⟩
  known := by simp [system]
  knownWaiting := by simp [system, SenderPc.inHand]
  finished := by simp [system]

/-- In every state of a run the commands of each stream are in order. -/
theorem ordered_of_run {installed : Bool} {actions : List UploadAction}
    (hrun : (system streams installed).run actions = some s) : s.Ordered streams :=
  Automata.System.Reachable.invariant ⟨actions, hrun⟩ (ordered_init streams installed)
    fun _ _ _ h hstep => h.step hstep

/-- The steps of a run are bounded by those that can be taken. -/
theorem countP_le_stepsLeft {installed : Bool} {length : String × UploadStream → ℕ}
    (hlength : EndAfter streams length) {actions : List UploadAction} (h : s.Ordered streams)
    (hrun : (system streams installed).runFrom s actions = some s') :
    actions.countP UploadAction.isTask ≤ s.stepsLeft length := by
  induction actions generalizing s with
  | nil => simp
  | cons action actions ih =>
    rw [Automata.System.runFrom_cons, Option.bind_eq_some_iff] at hrun
    obtain ⟨t, ht, hrest⟩ := hrun
    have hleft := stepsLeft_next h hlength ht
    have htail := ih (h.step ht) hrest
    rw [List.countP_cons]
    omega

/-- In a calm run a runtime is installed and the task that sends does not give up. -/
theorem calm_of_meets {actions : List UploadAction}
    (hrun : (system streams true).run actions = some s)
    (hcalm : (system streams true).Meets (fun _ action => calm action = true) actions) :
    s.installed = true ∧ s.sender ≠ .broken := by
  refine Automata.System.invariant_of_meets (I := fun s => s.installed = true ∧ s.sender ≠ .broken)
    ⟨rfl, by simp [system]⟩ ?_ hrun hcalm
  rintro s action s' ⟨hinstalled, hsender⟩ hok (hstep : s.next action = some s')
  cases action with
  | produce i =>
    simp only [next] at hstep
    split at hstep
    next p hi =>
      split_ifs at hstep
      obtain rfl := Option.some.inj hstep
      unfold UploadTasks.produceStep
      split_ifs <;> exact ⟨hinstalled, hsender⟩
    next => cases hstep
  | receive =>
    simp only [next] at hstep
    split at hstep
    next hpc =>
      unfold UploadTasks.receiveStep at hstep
      split at hstep
      next =>
        obtain rfl := Option.some.inj hstep
        exact ⟨hinstalled, by simp⟩
      next =>
        split_ifs at hstep
        obtain rfl := Option.some.inj hstep
        exact ⟨hinstalled, by simp⟩
    next => cases hstep
  | readRuntime =>
    simp only [next] at hstep
    split at hstep
    next command hpc =>
      rw [if_pos hinstalled] at hstep
      obtain rfl := Option.some.inj hstep
      exact ⟨hinstalled, by simp⟩
    next => cases hstep
  | sendEnds outcome =>
    simp only [next] at hstep
    split at hstep
    next hpc =>
      have hsent : outcome.isOk = true := by
        cases outcome with
        | ok => rfl
        | error error => cases hok
      rw [if_pos hsent] at hstep
      obtain rfl := Option.some.inj hstep
      exact ⟨hinstalled, by simp⟩
    next => cases hstep
  | setRuntime installed =>
    simp only [next] at hstep
    split at hstep
    next => cases hstep
    next =>
      obtain rfl := Option.some.inj hstep
      exact ⟨hok, hsender⟩

/-- When no task can take a step, the task that sends has ended: it could go on with a command, a
send or the end of the channel, and while a producer has not ended, that one could. -/
theorem hasEnded_of_stuck (hstuck : s.Stuck) : s.sender.hasEnded = true := by
  cases hpc : s.sender with
  | finished => rfl
  | broken => rfl
  | send =>
    have hnone := hstuck (.sendEnds (.ok ())) rfl
    simp [next, hpc, Except.isOk, Except.toBool] at hnone
  | command command =>
    have hnone := hstuck .readRuntime rfl
    simp only [next, hpc] at hnone
    split_ifs at hnone
  | receive =>
    have hnone := hstuck .receive rfl
    simp only [next, hpc, receiveStep] at hnone
    split at hnone
    next => cases hnone
    next =>
      split_ifs at hnone with hall
      obtain ⟨p, hp, hended⟩ : ∃ p ∈ s.producers, p.ended = false := by simpa using hall
      obtain ⟨i, hi⟩ := List.mem_iff_getElem?.mp hp
      have hproduce := hstuck (.produce i) rfl
      simp [next, hi, hended] at hproduce

/-- No task can take a step when the channel has ended. -/
theorem stuck_of_finished (hfinished : s.sender = .finished)
    (hall : ∀ p ∈ s.producers, p.ended = true) : s.Stuck := by
  intro action htask
  cases action with
  | produce i =>
    simp only [next]
    split
    next p hi => rw [if_pos (hall p (List.mem_of_getElem? hi))]
    next => rfl
  | setRuntime installed => cases htask
  | receive | readRuntime | sendEnds => simp only [next, hfinished]

/-- What has been sent for a stream that has ended, when the channel has ended. -/
theorem sentFor_of_finished (h : s.Ordered streams) (hfinished : s.sender = .finished)
    {streamId : String} {stream : UploadStream} (he : (streamId, stream) ∈ streams.entries)
    {values : List Value} {error : Option String} (hends : EndsWith stream values error) :
    s.sentFor streamId = wholeUpload streamId values error := by
  rw [← h.producers] at he
  obtain ⟨p, hp, heq⟩ := List.mem_map.mp he
  obtain ⟨rfl, rfl⟩ := Prod.mk.inj heq
  obtain ⟨hchannel, hall⟩ := h.finished hfinished
  have hopen : s.sender ≠ .broken := by simp [hfinished]
  have hwaiting := (h.follows p hp).waiting hopen
  obtain ⟨n, hpolled, hrunning, hstop⟩ := (h.follows p hp).ended (hall p hp) hopen
  obtain ⟨hgoes, hend⟩ := hends.goesOn_iff
  -- the producer has ended where its stream does
  have hn : n = values.length := by
    by_contra hne
    rcases Nat.lt_or_gt_of_ne hne with hlt | hgt
    · rw [hgoes n hlt] at hstop
      cases hstop
    · rw [hrunning _ hgt] at hend
      cases hend
  have hnone : s.waitingFor p.streamId = [] := by
    simp [waitingFor, hfinished, hchannel, SenderPc.inHand]
  rw [hnone, List.map_nil, List.append_nil, hpolled, hn] at hwaiting
  rw [hwaiting, uploadMessages_of_endsWith p.streamId hends]

end

/-- Uploads are in order: in every state of every run, what has been sent for a stream is a prefix
of the messages for its results, and nothing is sent for another stream. When all streams end, the
tasks take only so many steps, and when they can take none in a calm run, all messages of all
streams have been sent.

**Proof sketch.** What has been sent and what waits for a stream are in order in every state, by
`Ordered.step`. Each step of the tasks leaves fewer of them, and a state in which none is left is
one in which the channel has ended. -/
theorem uploads_in_order (streams : UploadStreams) :
    (∀ installed actions s, (system streams installed).run actions = some s →
      (∀ e ∈ streams.entries, ∃ n, s.sentFor e.1 <+: uploadMessages e.1 e.2 n) ∧
      ∀ message ∈ s.sent, ∃ e ∈ streams.entries, streamOf message = some e.1) ∧
    ((∀ e ∈ streams.entries, ∃ values error, EndsWith e.2 values error) →
      (∀ installed, ∃ bound, ∀ actions s, (system streams installed).run actions = some s →
        actions.countP UploadAction.isTask ≤ bound) ∧
      ∀ actions s, (system streams true).run actions = some s →
        (system streams true).Meets (fun _ action => calm action = true) actions → s.Stuck →
        ∀ e ∈ streams.entries, ∀ values error, EndsWith e.2 values error →
          s.sentFor e.1 = wholeUpload e.1 values error) := by
  refine ⟨fun installed actions s hrun => ?_, fun hends => ⟨fun installed => ?_, ?_⟩⟩
  · have h := ordered_of_run hrun
    refine ⟨fun e he => ?_, h.known⟩
    rw [← h.producers] at he
    obtain ⟨p, hp, rfl⟩ := List.mem_map.mp he
    exact ⟨p.polled, (h.follows p hp).sent⟩
  · have hlengths : ∀ e ∈ streams.entries, ∃ length, goesOn (e.2 length) = false := by
      intro e he
      obtain ⟨values, error, h⟩ := hends e he
      exact ⟨values.length, h.goesOn_iff.2⟩
    choose! length hlength using hlengths
    exact ⟨_, fun actions s hrun =>
      countP_le_stepsLeft hlength (ordered_init streams installed) hrun⟩
  · intro actions s hrun hcalm hstuck e he values error hend
    have hopen := (calm_of_meets hrun hcalm).2
    have hfinished : s.sender = .finished := by
      have hended := hasEnded_of_stuck hstuck
      cases hpc : s.sender <;> simp_all [SenderPc.hasEnded]
    exact sentFor_of_finished (ordered_of_run hrun) hfinished he hend

/-- A stream with one value and the end, and a stream with an error. -/
def twoStreams : UploadStreams where
  entries := [("1", fun n => if n = 0 then some (.ok .null) else none),
    ("2", fun _ => some (.error "boom"))]
  nodup := by decide

/-- The second stream fails between the value and the end of the first. -/
def interleavedRun : List UploadAction :=
  [.produce 0, .receive, .produce 1, .readRuntime, .produce 0, .sendEnds (.ok ()), .receive,
    .readRuntime, .sendEnds (.ok ()), .receive, .readRuntime, .sendEnds (.ok ()), .receive]

/-- `uploads_in_order` applies to two streams that are interleaved. -/
theorem uploads_in_order_interleaved :
    ∃ s, (system twoStreams true).run interleavedRun = some s ∧
      s.sent.map streamOf = [some "1", some "2", some "1"] ∧
      s.sentFor "1" = wholeUpload "1" [.null] none ∧
      s.sentFor "2" = wholeUpload "2" [] (some "boom") := by
  obtain ⟨s, hrun, hs⟩ := Option.map_eq_some_iff.mp (show
    ((system twoStreams true).run interleavedRun).map
      (fun s => (s.sender, s.producers.map Producer.ended, s.sent.map streamOf)) =
        some (.finished, [true, true], [some "1", some "2", some "1"]) by rfl)
  obtain ⟨hfinished, hended, hsent⟩ : _ ∧ _ ∧ _ := by simpa only [Prod.mk.injEq] using hs
  have hall : ∀ p ∈ s.producers, p.ended = true := by
    intro p hp
    have hmem : p.ended ∈ [true, true] := hended ▸ List.mem_map_of_mem hp
    simpa using hmem
  have hfirst : EndsWith (fun n => if n = 0 then some (.ok .null) else none) [.null] none :=
    ⟨by simp, rfl⟩
  have hsecond : EndsWith (fun _ => some (.error "boom")) [] (some "boom") := ⟨by simp, rfl⟩
  have hends : ∀ e ∈ twoStreams.entries, ∃ values error, EndsWith e.2 values error := by
    intro e he
    rcases List.mem_pair.mp he with rfl | rfl
    · exact ⟨_, _, hfirst⟩
    · exact ⟨_, _, hsecond⟩
  have hwhole := ((uploads_in_order twoStreams).2 hends).2 interleavedRun s hrun (by decide)
    (stuck_of_finished hfinished hall)
  exact ⟨s, hrun, hsent, hwhole _ List.mem_cons_self _ _ hfirst,
    hwhole _ (List.mem_cons_of_mem _ List.mem_cons_self) _ _ hsecond⟩

end UploadTasks

end Signalrr.HubConnection
