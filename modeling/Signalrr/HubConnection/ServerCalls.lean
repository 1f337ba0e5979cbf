import Signalrr.HubConnection.Delivery
import Signalrr.HubConnection.InvocationAnswer

set_option relaxedAutoImplicit false
set_option autoImplicit false

/-!
# Calls by the server

A server calls the handlers that are registered under the name of a method, and gets an answer if it
asks for one. Handlers come and go with `on`, `off` and `off_handler` of `src/hub_connection/mod.rs`
while messages are received and sent. The arguments of a call are JSON or an encoded array, and a
handler gets them as JSON values.

## Main definitions

* `Signalrr.Hub.HandlerOp` — what a client does with its handlers.
* `Signalrr.Hub.HandlerOp.live` — the handlers of a method that are there after some of it.
* `Signalrr.HubConnection.outputOf` — a handler, called with the arguments of a message.
* `Signalrr.HubConnection.DispatchContext.processFrame` — the messages of one frame.
* `Signalrr.HubConnection.answersTo` — the answers a server should get.

## Main results

* `Signalrr.HubConnection.DispatchContext.handlers_of_run` — the handlers of a method, in every run.
* `Signalrr.HubConnection.DispatchContext.answered` — what a server gets for the calls of a frame.
-/

namespace Signalrr

open Framing Hub Transport

/-! ## Handlers that come and go -/

namespace Hub

/-- What a client does with its handlers: `on`, `off` and `off_handler`. -/
inductive HandlerOp (H : Type) where
  | on (id : ℕ) (name : String) (handler : H)
  | off (name : String)
  | offHandler (name : String) (id : ℕ)

namespace HandlerOp

variable {H : Type}

/-- The operation removes the handler `id` of a method. -/
def removes (target : String) (id : ℕ) : HandlerOp H → Bool
  | on .. => false
  | off name => name.toLower = target
  | offHandler name i => name.toLower = target && id = i

/-- The handler that the operation adds to a method. -/
def adds (target : String) : HandlerOp H → List (RegisteredClientHandler H)
  | on id name handler => if name.toLower = target then [⟨id, handler⟩] else []
  | off _ | offHandler .. => []

/-- The handlers of a method after some operations: those that have been added, in order, and that
no later operation removes. -/
def live (target : String) : List (HandlerOp H) → List (RegisteredClientHandler H)
  | [] => []
  | op :: later =>
    (op.adds target).filter (fun h => !later.any (removes target h.id)) ++ live target later

/-- The handlers after one more operation. -/
lemma live_concat (target : String) (ops : List (HandlerOp H)) (op : HandlerOp H) :
    live target (ops ++ [op]) =
      (live target ops).filter (fun h => !op.removes target h.id) ++ op.adds target := by
  induction ops with
  | nil => simp [live]
  | cons first ops ih =>
    rw [List.cons_append, live, live, ih, List.filter_append, List.append_assoc, List.filter_filter]
    congr 2
    funext h
    simp [List.any_append, Bool.and_comm]

end HandlerOp

namespace HandlerTable

variable {H : Type}

/-- The effect of an operation on the table. -/
def apply (table : HandlerTable H) : HandlerOp H → HandlerTable H
  | .on id name handler => table.registerHandler id name handler
  | .off name => table.removeHandler name none
  | .offHandler name id => table.removeHandler name (some id)

/-- The entries of other names are found when one is taken out. -/
lemma lookup_filter_ne (table : HandlerTable H) (key name : String) :
    (table.filter fun e => e.1 ≠ key).lookup name =
      if name = key then none else table.lookup name := by
  induction table with
  | nil => simp
  | cons e table ih =>
    obtain ⟨k, handlers⟩ := e
    by_cases hk : k = key
    · subst k
      by_cases hname : name = key
      · simpa [hname] using ih
      · have hne : (name == key) = false := by simpa using hname
        simpa [hname, List.lookup_cons, hne] using ih
    · rw [List.filter_cons_of_pos (by simpa using hk), List.lookup_cons, List.lookup_cons, ih]
      by_cases hname : name = k
      · have hne : ¬ name = key := by rwa [hname]
        simp [hname, hk]
      · have hne : (name == k) = false := by simpa using hname
        rw [hne]

/-- The entry of a name when that of a method has been taken out, and another one may be put in. -/
lemma entry_filter_append (table : HandlerTable H) (key name : String)
    (handlers : List (RegisteredClientHandler H)) (new : HandlerTable H)
    (hnew : new.lookup key = (if handlers = [] then none else some handlers))
    (hother : name ≠ key → new.lookup name = none) :
    entry ((table.filter fun e => e.1 ≠ key) ++ new) name =
      if name = key then handlers else table.entry name := by
  rw [entry, List.lookup_append, lookup_filter_ne]
  by_cases hname : name = key
  · rw [if_pos hname, if_pos hname, Option.none_or, hname, hnew]
    split_ifs with hnil
    · rw [hnil, Option.getD_none]
    · rfl
  · rw [if_neg hname, if_neg hname, hother hname, Option.or_none, entry]

/-- The entry of a name after a removal. -/
lemma entry_removeHandler (table : HandlerTable H) (target : String) (handlerId : Option ℕ)
    (name : String) :
    (table.removeHandler target handlerId).entry name =
      if name = target.toLower then
        (table.entry name).filter fun h => handlerId.any fun id => h.id ≠ id
      else table.entry name := by
  have hentry : name = target.toLower → table.entry name = table.entry target.toLower :=
    fun hname => by rw [hname]
  cases hlookup : table.lookup target.toLower with
  | none =>
    have hnil : table.entry target.toLower = [] := by rw [entry, hlookup, Option.getD_none]
    simp only [removeHandler, hlookup]
    split_ifs with hname
    · rw [hentry hname, hnil, List.filter_nil]
    · rfl
  | some handlers =>
    have hhandlers : table.entry target.toLower = handlers := by
      rw [entry, hlookup, Option.getD_some]
    cases handlerId with
    | none =>
      have hgone := entry_filter_append table target.toLower name [] [] (by simp) (fun _ => rfl)
      rw [List.append_nil] at hgone
      simp only [removeHandler, hlookup]
      rw [hgone]
      simp
    | some id =>
      have hkept : ∀ rest, handlers.filter (fun h => h.id ≠ id) = rest →
          (if name = target.toLower then rest else table.entry name) =
            if name = target.toLower then
              (table.entry name).filter fun h => (some id).any fun id => h.id ≠ id
            else table.entry name := by
        rintro rest rfl
        split_ifs with hname
        · rw [hentry hname, hhandlers]
          simp
        · rfl
      simp only [removeHandler, hlookup]
      split
      next hnil =>
        rw [← hkept [] hnil, ← entry_filter_append table target.toLower name [] [] (by simp)
          (fun _ => rfl), List.append_nil]
      next rest hne =>
        rw [← hkept _ rfl]
        refine entry_filter_append table target.toLower name _ _ ?_ fun hname => ?_
        · rw [List.lookup_cons, if_neg (fun h => hne h)]
          simp
        · have hbeq : (name == target.toLower) = false := by simpa using hname
          rw [List.lookup_cons, hbeq]
          rfl

/-- The entry of a method after an operation. -/
lemma entry_apply (table : HandlerTable H) (op : HandlerOp H) (target : String) :
    (table.apply op).entry target =
      (table.entry target).filter (fun h => !op.removes target h.id) ++ op.adds target := by
  cases op with
  | on id name handler =>
    rw [apply, entry_registerHandler]
    by_cases hname : target = name.toLower
    · simp [HandlerOp.removes, HandlerOp.adds, hname]
    · simp [HandlerOp.removes, HandlerOp.adds, hname, Ne.symm hname]
  | off name =>
    rw [apply, entry_removeHandler]
    by_cases hname : target = name.toLower
    · simp [HandlerOp.removes, HandlerOp.adds, hname]
    · simp [HandlerOp.removes, HandlerOp.adds, hname, Ne.symm hname]
  | offHandler name id =>
    rw [apply, entry_removeHandler]
    by_cases hname : target = name.toLower
    · simp [HandlerOp.removes, HandlerOp.adds, hname]
    · simp [HandlerOp.removes, HandlerOp.adds, hname, Ne.symm hname]

/-- The entry of a method after some operations on a new table. -/
lemma entry_foldl_apply (ops : List (HandlerOp H)) (target : String) :
    (ops.foldl apply []).entry target = HandlerOp.live target ops := by
  induction ops using List.reverseRecOn with
  | nil => rfl
  | append_singleton ops op ih =>
    rw [List.foldl_append, List.foldl_cons, List.foldl_nil, entry_apply, ih, HandlerOp.live_concat]

end HandlerTable

end Hub

namespace HubConnection

namespace DispatchContext

variable {H : Type} {cfg : DispatchConfig} {ctx ctx' : DispatchContext H}

/-- What an action does with the handlers. -/
def Action.handlerOp? : Action H → Option (HandlerOp H)
  | .registerHandler id target handler => some (.on id target handler)
  | .removeHandler target none => some (.off target)
  | .removeHandler target (some id) => some (.offHandler target id)
  | _ => none

/-- A message that is received leaves the handlers alone. -/
lemma handlers_process (m : HubMessage) (call : H → Arguments → ClientMethodOutput)
    (outcome : Except Error Unit) :
    (ctx.process cfg m call outcome).1.handlers = ctx.handlers := by
  cases m with
  | invocation m =>
    simp only [process, handleInvocation]
    split <;> rfl
  | streamItem m =>
    simp only [process, handleStreamItem]
    split <;> rfl
  | sequence m =>
    simp only [process]
    split
    · rfl
    · split <;> rfl
  | completion | ping | close | ack | streamInvocation | cancelInvocation => rfl

/-- A message that is received leaves the handlers alone, also when it is dropped. -/
lemma handlers_dispatch (m : HubMessage) (call : H → Arguments → ClientMethodOutput)
    (outcome : Except Error Unit) :
    (ctx.dispatch cfg m call outcome).1.handlers = ctx.handlers := by
  simp only [dispatch]
  split
  · exact handlers_process m call outcome
  · split
    · exact handlers_process m call outcome
    · rfl

/-- The handlers after an action. -/
lemma handlers_next {a : Action H} (h : ctx.next cfg a = some ctx') :
    ctx'.handlers = (a.handlerOp?.toList).foldl HandlerTable.apply ctx.handlers := by
  cases a with
  | registerHandler id target handler =>
    cases h
    rfl
  | removeHandler target handlerId =>
    cases h
    cases handlerId <;> rfl
  | receive m call outcome =>
    cases h
    exact handlers_dispatch m call outcome
  | send m waiter outcome =>
    cases h
    simp only [send]
    split <;> rfl
  | ackTimer outcome =>
    simp only [next] at h
    split at h
    · cases h
      simp only [ackTimer]
      split
      · rfl
      · split <;> rfl
    · cases h
  | ping | registerPending | registerStream | removePending =>
    cases h
    rfl

/-- The runs of a connection, with or without a buffer for stateful reconnect. -/
def connection (cfg : DispatchConfig) (messageBuffer : Option MessageBuffer) :
    Automata.System (DispatchContext H) (Action H) :=
  ⟨init messageBuffer, next cfg⟩

/-- **The handlers of a method**, in every run of a connection: whatever is received and sent, those
are called that have been registered under the name of the method, in whatever case, and that have
not been removed, in the order of their registration. -/
theorem handlers_of_run {messageBuffer : Option MessageBuffer} {actions : List (Action H)}
    (hrun : (connection cfg messageBuffer).run actions = some ctx) (target : String) :
    ctx.handlers.handlersFor target =
      (HandlerOp.live target.toLower (actions.filterMap Action.handlerOp?)).map
        RegisteredClientHandler.handler := by
  have htable : ∀ (actions : List (Action H)) (s t : DispatchContext H),
      (connection cfg messageBuffer).runFrom s actions = some t →
        t.handlers = (actions.filterMap Action.handlerOp?).foldl HandlerTable.apply s.handlers := by
    intro actions
    induction actions with
    | nil =>
      rintro s t ⟨⟩
      rfl
    | cons a actions ih =>
      intro s t hrun
      obtain ⟨u, hstep, hrest⟩ := Option.bind_eq_some_iff.mp hrun
      have hnext := handlers_next hstep
      rw [ih u t hrest, hnext, List.filterMap_cons]
      cases a.handlerOp? <;> rfl
  rw [HandlerTable.handlersFor, htable actions _ _ hrun]
  exact congrArg _ (HandlerTable.entry_foldl_apply _ _)

/-- A name in lower case, letter by letter. -/
lemma toLower_eq {name lower : String} (h : name.toList.map Char.toLower = lower.toList) :
    name.toLower = lower := by
  change name.map Char.toLower = lower
  rw [← String.toList_inj, String.toList_map]
  exact h

/-- Handlers are registered under two spellings of a name, one is removed, and a call comes. -/
def spelledRun : List (Action String) :=
  [.registerHandler 1 "Show" "first", .registerHandler 2 "show" "second",
    .registerHandler 3 "hide" "third", .removeHandler "SHOW" (some 1),
    .receive (.invocation ⟨[], none, "Show", .json [], none⟩) (fun _ _ => .ok none) (.ok ())]

/-- The handler that is left is called. -/
theorem handlers_of_run_spelled :
    ∃ ctx : DispatchContext String,
      (connection ⟨.typeOnly, .binary⟩ none).run spelledRun = some ctx ∧
        ctx.handlers.handlersFor "sHOW" = ["second"] := by
  have hrun : (connection ⟨.typeOnly, .binary⟩ none).run spelledRun = some _ := rfl
  have hfirst : "Show".toLower = "show" := toLower_eq (by decide)
  have hsecond : "show".toLower = "show" := toLower_eq (by decide)
  have hthird : "SHOW".toLower = "show" := toLower_eq (by decide)
  have hcalled : "sHOW".toLower = "show" := toLower_eq (by decide)
  have hother : "hide".toLower = "hide" := toLower_eq (by decide)
  have hops : spelledRun.filterMap Action.handlerOp? = [.on 1 "Show" "first",
      .on 2 "show" "second", .on 3 "hide" "third", .offHandler "SHOW" 1] := rfl
  refine ⟨_, hrun, ?_⟩
  rw [handlers_of_run hrun, hops]
  simp [HandlerOp.live, HandlerOp.adds, HandlerOp.removes, hfirst, hsecond, hthird, hcalled, hother]

end DispatchContext

/-! ## Handlers and arguments -/

section

variable {H : Type}

/-- A handler as `on` registers it: it is called with the arguments as JSON values, and
`invalid_arguments` takes its place when there are none. -/
def outputOf (rmp : Rmp) (serde : SerdeJson) (call : H → List Value → ClientMethodOutput)
    (handler : H) (arguments : Arguments) : ClientMethodOutput :=
  match arguments.jsonValues rmp serde with
  | .ok values => call handler values
  | .error error => .error error.toError.toText

/-- The same arguments give the same output. -/
lemma outputOf_same {rmp : Rmp} {serde : SerdeJson} {a b : Arguments} (h : a.Same rmp serde b)
    (call : H → List Value → ClientMethodOutput) (handler : H) :
    outputOf rmp serde call handler a = outputOf rmp serde call handler b := by
  obtain ⟨values, ha, hb⟩ := h
  rw [outputOf, outputOf, ha, hb]

/-- The answer to a message: the one to a call with an invocation id. -/
def answerTo (rmp : Rmp) (serde : SerdeJson) (handlers : String → List H)
    (call : H → List Value → ClientMethodOutput) : HubMessage → Option HubMessage
  | .invocation message =>
    message.invocationId.map fun invocationId =>
      .completion (answerCompletion invocationId (answer
        ((handlers message.target).map fun handler =>
          outputOf rmp serde call handler message.arguments)))
  | _ => none

/-- The answers to the messages of a frame, where handlers may return something else each time. -/
def answersTo (rmp : Rmp) (serde : SerdeJson) (handlers : String → List H) :
    (ℕ → H → List Value → ClientMethodOutput) → List HubMessage → List HubMessage
  | _, [] => []
  | calls, m :: ms =>
    (answerTo rmp serde handlers (calls 0) m).toList ++
      answersTo rmp serde handlers (fun n => calls (n + 1)) ms

/-- The same message gets the same answer. -/
lemma answerTo_same {rmp : Rmp} {serde : SerdeJson} {m m' : HubMessage} (h : m.Same rmp serde m')
    (handlers : String → List H) (call : H → List Value → ClientMethodOutput) :
    answerTo rmp serde handlers call m' = answerTo rmp serde handlers call m := by
  cases m with
  | invocation m =>
    cases m' with
    | invocation m' =>
      obtain ⟨-, hid, htarget, harguments, -⟩ := h
      simp only [answerTo, hid, htarget]
      congr 1
      funext invocationId
      simp only [outputOf_same harguments]
    | _ => cases h
  | _ =>
    cases m' with
    | invocation m' => cases h
    | _ => rfl

/-- The same messages get the same answers. -/
lemma answersTo_same {rmp : Rmp} {serde : SerdeJson} {ms ms' : List HubMessage}
    (h : List.Forall₂ (HubMessage.Same rmp serde) ms ms') (handlers : String → List H)
    (calls : ℕ → H → List Value → ClientMethodOutput) :
    answersTo rmp serde handlers calls ms' = answersTo rmp serde handlers calls ms := by
  induction h generalizing calls with
  | nil => rfl
  | cons hsame _ ih => rw [answersTo, answersTo, answerTo_same hsame, ih]

end

/-! ## The messages of a frame -/

namespace DispatchContext

variable {H : Type} {cfg : DispatchConfig} {ctx : DispatchContext H}

/-- The loop of `process_text` and `process_binary`, which ends with the first error. -/
def dispatchAll (cfg : DispatchConfig) (outcome : Except Error Unit) :
    DispatchContext H → (ℕ → H → Arguments → ClientMethodOutput) → List HubMessage →
      DispatchContext H × Except Error Unit
  | ctx, _, [] => (ctx, .ok ())
  | ctx, calls, m :: ms =>
    match ctx.dispatch cfg m (calls 0) outcome with
    | (ctx, .ok ()) => dispatchAll cfg outcome ctx (fun n => calls (n + 1)) ms
    | (ctx, .error error) => (ctx, .error error)

/-- `process_text` and `process_binary`: `none` is a panic of the parser. -/
def processFrame (parseMessages : HubProtocolInput → Checked (List HubMessage))
    (cfg : DispatchConfig) (ctx : DispatchContext H)
    (calls : ℕ → H → Arguments → ClientMethodOutput) (outcome : Except Error Unit)
    (input : HubProtocolInput) : Option (DispatchContext H × Except Error Unit) :=
  (parseMessages input).run.map fun
    | .ok messages => dispatchAll cfg outcome ctx calls messages
    | .error error => (ctx, .error (.protocol error.toText))

/-! ## The answers to a frame -/

section

variable {rmp : Rmp} {serde : SerdeJson} {decoder : BrotliDecoder} {w : ℕ} {kind : ProtocolKind}

/-- A message that is read back is written. -/
lemma exists_writes (hrel : kind.Relies rmp serde) {m : HubMessage}
    (hm : kind.Readable rmp serde m) : ∃ p, kind.Writes rmp serde m p := by
  cases kind with
  | json =>
    obtain ⟨json, -, -, hwrite, -⟩ := JsonProtocol.readsBack hrel hm.1 hm.2
    refine ⟨.text (TextMessageFormat.write json), _, hwrite, ?_⟩
    show (ofUtf8 _).map OutboundPayload.text = _
    rw [ofUtf8_utf8]
    rfl
  | messagePack =>
    obtain ⟨packed, hwrite, -⟩ :=
      MessagePackProtocol.readsBack (w := 32) hrel.1 hrel.2 le_rfl hm.1
    exact ⟨_, _, hwrite, rfl⟩
  | messagePackBrotli =>
    have hread : ReadsBack rmp serde (MessagePackBrotliProtocol.writeMessage rmp)
        (MessagePackBrotliProtocol.parseFrame rmp serde (fun bytes => .ok bytes) 32) m :=
      MessagePackBrotliProtocol.readsBack hrel.1 hrel.2 le_rfl hm.1
    obtain ⟨packed, hwrite, -⟩ := hread
    exact ⟨_, _, hwrite, rfl⟩

/-- The frame is the message as the protocol writes it, and goes out as this payload. -/
def Sent (rmp : Rmp) (serde : SerdeJson) (kind : ProtocolKind) (frame : Frame)
    (p : OutboundPayload) : Prop :=
  kind.writeMessage rmp serde frame.message = .ok frame.payload ∧
    kind.transferFormat.outbound frame.payload = some p

/-- The protocol of the connection writes as this kind does. -/
def Speaks (rmp : Rmp) (serde : SerdeJson) (kind : ProtocolKind) (cfg : DispatchConfig) : Prop :=
  cfg.protocol.writeMessage = kind.writeMessage rmp serde ∧
    cfg.transferFormat = kind.transferFormat

/-- A message that the protocol writes is sent. -/
lemma sendHubMessage_writes (hspeaks : Speaks rmp serde kind cfg) {m : HubMessage}
    {p : OutboundPayload} (hwrites : kind.Writes rmp serde m p) :
    ∃ frame : Frame, frame.message = m ∧ Sent rmp serde kind frame p ∧
      ctx.sendHubMessage cfg m (.ok ()) =
        ({ ctx with written := ctx.written ++ [frame] }, .ok ()) := by
  obtain ⟨payload, hpayload, hout⟩ := hwrites
  have hserialize : serialize cfg.protocol m = .ok ⟨m, payload⟩ := by
    rw [serialize, hspeaks.1, hpayload]
  have hsend : sendSerialized cfg.transferFormat (fun _ => .ok ()) payload = .ok () := by
    rw [hspeaks.2]
    cases hformat : kind.transferFormat with
    | binary => rfl
    | text =>
      rw [hformat] at hout
      have hvalid : (ofUtf8 payload).isSome = true := by
        rw [← Option.isSome_map (f := OutboundPayload.text)]
        exact Option.isSome_of_eq_some hout
      rw [sendSerialized]
      split
      · rfl
      · rename_i hinvalid
        rw [ofUtf8, String.fromUTF8?] at hvalid
        split at hvalid
        · rename_i hutf8
          exact absurd (ByteArray.validateUTF8_eq_true_iff.mpr hutf8) hinvalid
        · cases hvalid
  refine ⟨⟨m, payload⟩, rfl, ⟨hpayload, hout⟩, ?_⟩
  simp only [sendHubMessage, HubConnection.sendHubMessage, hserialize, hsend]

/-- The completion of the loop over the handlers is the answer, also without a handler. -/
lemma completionOf_eq (message : InvocationMessage) (outputs : List ClientMethodOutput) :
    completionOf message outputs =
      message.invocationId.map fun invocationId =>
        answerCompletion invocationId (answer outputs) := by
  unfold completionOf
  congr 1
  funext invocationId
  cases outputs with
  | nil => rfl
  | cons output outputs => exact completion_foldl_step _ _

/-- On a connection without a buffer a message is dispatched without an error, and its answer is
sent. -/
lemma dispatch_answers (hspeaks : Speaks rmp serde kind cfg) (hbuffer : ctx.messageBuffer = none)
    (m : HubMessage) (call : H → List Value → ClientMethodOutput)
    (hanswer : ∀ a ∈ answerTo rmp serde ctx.handlers.handlersFor call m,
      ∃ p, kind.Writes rmp serde a p) :
    ∃ ctx' frames payloads, ctx.dispatch cfg m (outputOf rmp serde call) (.ok ()) = (ctx', .ok ()) ∧
      ctx'.handlers = ctx.handlers ∧ ctx'.messageBuffer = none ∧
        ctx'.written = ctx.written ++ frames ∧
          frames.map Frame.message =
            (answerTo rmp serde ctx.handlers.handlersFor call m).toList ∧
            List.Forall₂ (Sent rmp serde kind) frames payloads := by
  have hsilent : ∀ ctx' : DispatchContext H, answerTo rmp serde ctx.handlers.handlersFor call m =
      none → ctx.process cfg m (outputOf rmp serde call) (.ok ()) = (ctx', .ok ()) →
        ctx'.messageBuffer = none → ctx'.written = ctx.written →
          ∃ ctx'' frames payloads, ctx.process cfg m (outputOf rmp serde call) (.ok ()) =
            (ctx'', .ok ()) ∧ ctx''.handlers = ctx.handlers ∧ ctx''.messageBuffer = none ∧
              ctx''.written = ctx.written ++ frames ∧
                frames.map Frame.message =
                  (answerTo rmp serde ctx.handlers.handlersFor call m).toList ∧
                  List.Forall₂ (Sent rmp serde kind) frames payloads := by
    intro ctx' hnone hprocess hkeeps hwritten
    have hhandlers : (ctx.process cfg m (outputOf rmp serde call) (.ok ())).1.handlers =
        ctx.handlers := handlers_process m _ _
    rw [hprocess] at hhandlers
    exact ⟨ctx', [], [], hprocess, hhandlers, hkeeps, by simpa using hwritten, by simp [hnone],
      .nil⟩
  simp only [dispatch, hbuffer]
  cases m with
  | invocation message =>
    have hcompletion := completionOf_eq message ((ctx.handlers.handlersFor message.target).map
      fun h => outputOf rmp serde call h message.arguments)
    cases hid : message.invocationId with
    | none =>
      rw [hid, Option.map_none] at hcompletion
      refine hsilent ctx (by simp [answerTo, hid]) ?_ hbuffer rfl
      simp only [process, handleInvocation, hcompletion]
    | some invocationId =>
      rw [hid, Option.map_some] at hcompletion
      have hreply : answerTo rmp serde ctx.handlers.handlersFor call (.invocation message) =
          some (.completion (answerCompletion invocationId (answer
            ((ctx.handlers.handlersFor message.target).map fun h =>
              outputOf rmp serde call h message.arguments)))) := by
        rw [answerTo, hid]
        rfl
      rw [hreply] at hanswer ⊢
      obtain ⟨p, hwrites⟩ := hanswer _ rfl
      obtain ⟨frame, hmessage, hsent, hsend⟩ : ∃ frame : Frame,
          frame.message = _ ∧ Sent rmp serde kind frame p ∧ ctx.sendHubMessage cfg _ (.ok ()) =
            ({ ctx with written := ctx.written ++ [frame] }, .ok ()) :=
        sendHubMessage_writes hspeaks hwrites
      refine ⟨{ ctx with written := ctx.written ++ [frame] }, [frame], [p], ?_, rfl, hbuffer, rfl,
        by simp [hmessage], .cons hsent .nil⟩
      simp only [process, handleInvocation, hcompletion, hsend]
  | sequence message => exact hsilent ctx rfl (by simp only [process, hbuffer]) hbuffer rfl
  | streamItem message =>
    refine hsilent (ctx.handleStreamItem message) rfl rfl ?_ ?_ <;>
      (rw [handleStreamItem]; split <;> first | exact hbuffer | rfl)
  | completion message => exact hsilent _ rfl rfl hbuffer rfl
  | close message => exact hsilent _ rfl rfl hbuffer rfl
  | ack message => exact hsilent _ rfl rfl (by simp [hbuffer]) rfl
  | ping | streamInvocation | cancelInvocation => exact hsilent ctx rfl rfl hbuffer rfl

/-- All messages of a frame are dispatched, and their answers are sent, one after the other. -/
lemma dispatchAll_answers (hspeaks : Speaks rmp serde kind cfg) (ms : List HubMessage)
    (hbuffer : ctx.messageBuffer = none) (calls : ℕ → H → List Value → ClientMethodOutput)
    (hanswers : ∀ a ∈ answersTo rmp serde ctx.handlers.handlersFor calls ms,
      ∃ p, kind.Writes rmp serde a p) :
    ∃ ctx' frames payloads,
      dispatchAll cfg (.ok ()) ctx (fun n => outputOf rmp serde (calls n)) ms =
        (ctx', .ok ()) ∧ ctx'.handlers = ctx.handlers ∧ ctx'.written = ctx.written ++ frames ∧
          frames.map Frame.message = answersTo rmp serde ctx.handlers.handlersFor calls ms ∧
            List.Forall₂ (Sent rmp serde kind) frames payloads := by
  induction ms generalizing ctx calls with
  | nil => exact ⟨ctx, [], [], rfl, rfl, (List.append_nil _).symm, rfl, .nil⟩
  | cons m ms ih =>
    rw [answersTo] at hanswers
    obtain ⟨ctx₁, frames₁, payloads₁, hdispatch, hhandlers₁, hbuffer₁, hwritten₁, hmessages₁,
      hsent₁⟩ := dispatch_answers hspeaks hbuffer m (calls 0) fun a ha =>
        hanswers a (List.mem_append_left _ (Option.mem_toList.mpr ha))
    have hrest : ∀ a ∈ answersTo rmp serde ctx₁.handlers.handlersFor (fun n => calls (n + 1)) ms,
        ∃ p, kind.Writes rmp serde a p := by
      intro a ha
      rw [hhandlers₁] at ha
      exact hanswers a (List.mem_append_right _ ha)
    obtain ⟨ctx₂, frames₂, payloads₂, hall, hhandlers₂, hwritten₂, hmessages₂, hsent₂⟩ :=
      ih hbuffer₁ _ hrest
    refine ⟨ctx₂, frames₁ ++ frames₂, payloads₁ ++ payloads₂, ?_, hhandlers₂.trans hhandlers₁, ?_,
      ?_, List.rel_append hsent₁ hsent₂⟩
    · rw [dispatchAll, hdispatch]
      exact hall
    · rw [hwritten₂, hwritten₁, List.append_assoc]
    · rw [List.map_append, hmessages₁, hmessages₂, hhandlers₁, answersTo]

/-- The other end reads these messages, in whatever frames the payloads go out. -/
def ReadAs (rmp : Rmp) (serde : SerdeJson) (decoder : BrotliDecoder) (w : ℕ) (kind : ProtocolKind)
    (ms : List HubMessage) (payloads : List OutboundPayload) : Prop :=
  ∀ groups ps, groups.flatten = payloads → List.Forall₂ (fun g p => batch g = some p) groups ps →
    (∀ p ∈ ps, p.content.length < 2 ^ (w - 1)) →
      ∃ mss, List.Forall₂ (fun p ms' =>
          kind.parseMessages rmp serde decoder w p.input = pure ms') ps mss ∧
        List.Forall₂ (HubMessage.Same rmp serde) ms mss.flatten

/-- What is written is read, however it is grouped. -/
lemma readAs_of_writes (hrel : kind.Relies rmp serde) (hw : w = 32 ∨ w = 64) {ms : List HubMessage}
    (hms : ∀ m ∈ ms, kind.Readable rmp serde m) {payloads : List OutboundPayload}
    (hwrites : List.Forall₂ (kind.Writes rmp serde) ms payloads) :
    ReadAs rmp serde decoder w kind ms payloads := by
  rintro groups ps rfl hbatches hfit
  induction hbatches generalizing ms with
  | nil =>
    cases hwrites
    exact ⟨[], .nil, .nil⟩
  | @cons g p groups ps hbatch _ ih =>
    obtain ⟨hp, hps⟩ := List.forall_mem_cons.mp hfit
    rw [List.flatten_cons] at hwrites
    obtain ⟨ms', hparse, hsame⟩ : ∃ ms', kind.parseMessages rmp serde decoder w p.input = pure ms' ∧
        List.Forall₂ (HubMessage.Same rmp serde) (ms.take g.length) ms' :=
      ProtocolKind.parseMessages_batch hrel hw (fun m hm => hms m (List.mem_of_mem_take hm))
        (List.forall₂_take_append _ _ _ hwrites) hbatch hp
    obtain ⟨mss, hparses, hsames⟩ := ih (fun m hm => hms m (List.mem_of_mem_drop hm))
      (List.forall₂_drop_append _ _ _ hwrites) hps
    refine ⟨ms' :: mss, .cons hparse hparses, ?_⟩
    rw [← List.take_append_drop g.length ms, List.flatten_cons]
    exact List.rel_append hsame hsames

/-- **What a server gets for its calls.** A server has sent a frame of messages, in any of the
protocols, to a client without a buffer for stateful reconnect. Every call in it reaches the
handlers of its method with the arguments that were sent, the answers to those with an invocation id
are written in the order of the calls, and the server reads just these answers.

**Proof sketch.** The frame is parsed as messages that are the same as those sent up to the form of
their arguments, and a handler gets the arguments as JSON values. So the loop over what is parsed
writes the answers to what was sent. -/
theorem answered (hrel : kind.Relies rmp serde) (hw : w = 32 ∨ w = 64)
    (hspeaks : Speaks rmp serde kind cfg) (hbuffer : ctx.messageBuffer = none)
    {ms : List HubMessage} (hms : ∀ m ∈ ms, kind.Readable rmp serde m) {p : OutboundPayload}
    (hframe : WritesFrame rmp serde w kind ms p)
    {calls : ℕ → H → List Value → ClientMethodOutput}
    (hanswers : ∀ a ∈ answersTo rmp serde ctx.handlers.handlersFor calls ms,
      kind.Readable rmp serde a) :
    ∃ ctx' frames payloads,
      processFrame (kind.parseMessages rmp serde decoder w) cfg ctx
          (fun n => outputOf rmp serde (calls n)) (.ok ()) p.input = some (ctx', .ok ()) ∧
        ctx'.written = ctx.written ++ frames ∧ List.Forall₂ (Sent rmp serde kind) frames payloads ∧
          ReadAs rmp serde decoder w kind (answersTo rmp serde ctx.handlers.handlersFor calls ms)
            payloads := by
  obtain ⟨ps, hwrites, hbatch, hfit⟩ := hframe
  obtain ⟨ms', hparse, hsame⟩ : ∃ ms', kind.parseMessages rmp serde decoder w p.input = pure ms' ∧
      List.Forall₂ (HubMessage.Same rmp serde) ms ms' :=
    ProtocolKind.parseMessages_batch hrel hw hms hwrites hbatch hfit
  have hsameAnswers := answersTo_same hsame ctx.handlers.handlersFor calls
  have hwritable : ∀ a ∈ answersTo rmp serde ctx.handlers.handlersFor calls ms',
      ∃ p, kind.Writes rmp serde a p := by
    intro a ha
    rw [hsameAnswers] at ha
    exact exists_writes hrel (hanswers a ha)
  obtain ⟨ctx', frames, payloads, hall, -, hwritten, hmessages, hsent⟩ :=
    dispatchAll_answers hspeaks ms' hbuffer calls hwritable
  rw [hsameAnswers] at hmessages
  refine ⟨ctx', frames, payloads, ?_, hwritten, hsent, readAs_of_writes hrel hw hanswers ?_⟩
  · rw [processFrame, hparse]
    exact congrArg some hall
  · rw [← hmessages, List.forall₂_map_left_iff]
    exact hsent.imp fun frame p hframe => ⟨_, hframe.1, hframe.2⟩

end

/-- A call with an invocation id. -/
def echoCall : HubMessage := .invocation ⟨[], some "1", "Echo", .json [.bool true], none⟩

/-- Its answer. -/
def echoAnswer : HubMessage := .completion ⟨[], "1", none, some (.bool true)⟩

/-- A client whose handler returns the first argument. -/
def echoContext : DispatchContext Unit :=
  { (init none : DispatchContext Unit) with handlers := [("echo", [⟨1, ()⟩])] }

/-- Messages are written in MessagePack. -/
def echoConfig : DispatchConfig where
  protocol :=
    { HubProtocol.typeOnly with
      writeMessage := ProtocolKind.messagePack.writeMessage Rmp.reference SerdeJson.reference }
  transferFormat := .binary

/-- The packed messages of the example. -/
lemma writes_echo :
    ProtocolKind.messagePack.writeMessage Rmp.reference SerdeJson.reference echoCall =
        .ok (BinaryMessageFormat.write
          [149, 1, 128, 161, 49, 164, 69, 99, 104, 111, 145, 195]) ∧
      ProtocolKind.messagePack.writeMessage Rmp.reference SerdeJson.reference echoAnswer =
        .ok (BinaryMessageFormat.write [149, 3, 128, 161, 49, 3, 195]) :=
  ⟨rfl, rfl⟩

/-- A short message is written with one length byte. -/
lemma write_short {packed : Bytes} (h : packed.length < 128) :
    BinaryMessageFormat.write packed = UInt8.ofNat packed.length :: packed := by
  have hshift : ¬ 0 < packed.length >>> 7 := by
    rw [Nat.shiftRight_eq_div_pow]
    omega
  have hpart : packed.length &&& 0x7f = packed.length := by
    rw [show 0x7f = 2 ^ 7 - 1 from rfl, Nat.and_two_pow_sub_one_eq_mod]
    omega
  rw [BinaryMessageFormat.write, BinaryMessageFormat.writeSize, if_neg hshift, hpart]
  rfl

/-- A short frame. -/
lemma length_write_lt {packed : Bytes} (h : packed.length < 128) :
    (BinaryMessageFormat.write packed).length < 2 ^ 31 := by
  rw [write_short h, List.length_cons]
  omega

/-- What is written is not shorter than what is packed. -/
lemma length_packed_lt {kind : ProtocolKind} {rmp : Rmp} {serde : SerdeJson} {m : HubMessage}
    {bytes : Bytes} (h : kind.writeMessage rmp serde m = .ok (BinaryMessageFormat.write bytes))
    (hshort : bytes.length < 128) (packed : Bytes)
    (hpacked : kind.writeMessage rmp serde m = .ok (BinaryMessageFormat.write packed)) :
    packed.length < 2 ^ 31 := by
  have hsame := Except.ok.inj (hpacked.symm.trans h)
  have hlt := length_write_lt hshort
  rw [← hsame, BinaryMessageFormat.write, List.length_append] at hlt
  omega

/-- The call reaches the handler under another spelling of its name, and the server reads the
answer. -/
theorem answered_echo : ∃ p ctx' frames payloads,
    WritesFrame Rmp.reference SerdeJson.reference 64 .messagePack [echoCall] p ∧
      processFrame (ProtocolKind.messagePack.parseMessages Rmp.reference SerdeJson.reference
            (fun bytes => .ok bytes) 64) echoConfig echoContext
          (fun _ => outputOf Rmp.reference SerdeJson.reference fun _ values => .ok values.head?)
          (.ok ()) p.input = some (ctx', .ok ()) ∧
        ctx'.written = frames ∧
          List.Forall₂ (Sent Rmp.reference SerdeJson.reference .messagePack) frames payloads ∧
            ReadAs Rmp.reference SerdeJson.reference (fun bytes => .ok bytes) 64 .messagePack
              [echoAnswer] payloads := by
  obtain ⟨hcall, hanswer⟩ := writes_echo
  have hrel : ProtocolKind.messagePack.Relies Rmp.reference SerdeJson.reference :=
    ⟨Rmp.reference_lawful, SerdeJson.reference_invertsJson⟩
  have hframe : WritesFrame Rmp.reference SerdeJson.reference 64 .messagePack [echoCall]
      (.binary (BinaryMessageFormat.write
        [149, 1, 128, 161, 49, 164, 69, 99, 104, 111, 145, 195])) := by
    refine ⟨_, .cons ⟨_, hcall, rfl⟩ .nil, by simp [batch], ?_⟩
    exact (length_write_lt (by decide)).trans (by decide)
  have hname : "Echo".toLower = "echo" := toLower_eq (by decide)
  have hanswers : answersTo Rmp.reference SerdeJson.reference echoContext.handlers.handlersFor
      (fun _ _ values => .ok values.head?) [echoCall] = [echoAnswer] := by
    have hhandlers : echoContext.handlers.handlersFor "Echo" = [()] := by
      rw [HandlerTable.handlersFor, hname]
      rfl
    simp only [answersTo, answerTo, echoCall, hhandlers]
    rfl
  have hreadable : ∀ m ∈ [echoCall],
      ProtocolKind.messagePack.Readable Rmp.reference SerdeJson.reference m := by
    simp only [List.forall_mem_singleton]
    refine ⟨⟨by simp, rfl, [.bool true], rfl, by simp [Value.Valid, Value.depth]⟩, ?_⟩
    exact length_packed_lt hcall (by decide)
  have hanswersReadable : ∀ a ∈ answersTo Rmp.reference SerdeJson.reference
      echoContext.handlers.handlersFor (fun _ _ values => .ok values.head?) [echoCall],
      ProtocolKind.messagePack.Readable Rmp.reference SerdeJson.reference a := by
    rw [hanswers, List.forall_mem_singleton]
    refine ⟨⟨by simp, .inl rfl, by simp [Value.Valid, Value.depth]⟩, ?_⟩
    exact length_packed_lt hanswer (by decide)
  have hspeaks : Speaks Rmp.reference SerdeJson.reference .messagePack echoConfig := ⟨rfl, rfl⟩
  obtain ⟨ctx', frames, payloads, hprocess, hwritten, hsent, hread⟩ :=
    @answered _ _ _ _ _ (fun bytes => .ok bytes) 64 _ hrel (.inr rfl) hspeaks rfl _ hreadable _
      hframe _ hanswersReadable
  rw [hanswers] at hread
  exact ⟨_, ctx', frames, payloads, hframe, hprocess, hwritten, hsent, hread⟩

end DispatchContext

end HubConnection

end Signalrr
