import Signalrr.HubConnection.Dispatch

set_option relaxedAutoImplicit false
set_option autoImplicit false

/-!
# Answers to calls by the server

`handle_invocation` of `src/hub_connection/dispatch.rs` runs the handlers of a method one after the
other and keeps three variables, which reset one another. What it answers only depends on the values
and the errors the handlers return.

## Main definitions

* `Signalrr.HubConnection.runHandlers` — the loop over the handlers, with the calls it makes.
* `Signalrr.HubConnection.DispatchContext.invokeHandlers` — `handle_invocation`, where what a
  handler returns may depend on the calls before.
* `Signalrr.HubConnection.values`, `errors`, `answer` — the answer in terms of what is returned.
* `Signalrr.Hub.HandlerTable.registerAll` — handlers registered one after the other.

## Main results

* `Signalrr.HubConnection.foldl_step` — the three variables after the loop.
* `Signalrr.Hub.HandlerTable.handlersFor_registerAll` — the handlers of a method, in order.
* `Signalrr.HubConnection.DispatchContext.invokeHandlers_eq` — the answer to a call.
-/

namespace Signalrr

open Hub

/-! ## Registered handlers -/

namespace Hub.HandlerTable

variable {H : Type}

/-- Handlers registered one after the other, each with its id and the name of its method. -/
def registerAll (registrations : List (ℕ × String × H)) : HandlerTable H :=
  registrations.foldl (fun table r => table.registerHandler r.1 r.2.1 r.2.2) []

/-- The handlers registered for a method, whatever the case of its name. -/
def registeredFor (registrations : List (ℕ × String × H)) (target : String) : List H :=
  (registrations.filter fun r => r.2.1.toLower = target.toLower).map fun r => r.2.2

/-- The entry of a name after a registration. -/
lemma entry_registerHandler (table : HandlerTable H) (id : ℕ) (target : String) (handler : H)
    (name : String) :
    (table.registerHandler id target handler).entry name =
      if name = target.toLower then table.entry name ++ [⟨id, handler⟩] else table.entry name := by
  have hlookup : ∀ entries : HandlerTable H, ∀ key : String,
      (entries.filter fun e => e.1 ≠ key).lookup name =
        if name = key then none else entries.lookup name := by
    intro entries key
    induction entries with
    | nil => simp
    | cons e entries ih =>
      obtain ⟨k, handlers⟩ := e
      rw [List.filter_cons, List.lookup_cons]
      by_cases hk : k = key
      · subst k
        simp only [ne_eq, not_true_eq_false, decide_false, Bool.false_eq_true, if_false, ih]
        by_cases hname : name = key
        · rw [if_pos hname, if_pos hname]
        · have hne : (name == key) = false := by simpa using hname
          rw [if_neg hname, if_neg hname, hne]
      · simp only [ne_eq, hk, not_false_eq_true, decide_true, if_true, List.lookup_cons, ih]
        by_cases hname : name = k
        · have hne : ¬ name = key := by rwa [hname]
          simp [hname, hk]
        · have hne : (name == k) = false := by simpa using hname
          rw [hne]
  simp only [registerHandler, entry, List.lookup_append, hlookup]
  by_cases hname : name = target.toLower
  · subst name
    simp
  · have hne : (name == target.toLower) = false := by simpa using hname
    simp [hname, hne, List.lookup_cons]

/-- The handlers of a method are those registered for it, in the order of registration. -/
lemma handlersFor_registerAll (registrations : List (ℕ × String × H)) (target : String) :
    (registerAll registrations).handlersFor target = registeredFor registrations target := by
  induction registrations using List.reverseRecOn with
  | nil => rfl
  | append_singleton registrations r ih =>
    obtain ⟨id, name, handler⟩ := r
    have hlast : registerAll (registrations ++ [(id, name, handler)]) =
        (registerAll registrations).registerHandler id name handler := by
      rw [registerAll, List.foldl_append]
      rfl
    rw [handlersFor, registeredFor] at ih
    rw [handlersFor, hlast, entry_registerHandler, registeredFor, List.filter_append,
      List.map_append, ← ih]
    by_cases hname : name.toLower = target.toLower
    · simp [hname]
    · simp [hname, Ne.symm hname]

end Hub.HandlerTable

namespace HubConnection

variable {H : Type}

/-! ## The loop -/

/-- What a handler returns, given the calls made before. -/
abbrev HandlerOracle (H : Type) := List (H × Arguments) → H → Arguments → ClientMethodOutput

/-- The loop over the handlers that are left, with the calls made so far. -/
def runHandlers (call : HandlerOracle H) (expectsResponse : Bool) (arguments : Arguments) :
    List (H × Arguments) → HandlerLoop → List H → List (H × Arguments) × HandlerLoop
  | calls, loop, [] => (calls, loop)
  | calls, loop, handler :: handlers =>
    runHandlers call expectsResponse arguments (calls ++ [(handler, arguments)])
      (loop.step expectsResponse (call calls handler arguments)) handlers

/-- What the handlers return, one after the other. -/
def outputsOf (call : HandlerOracle H) (arguments : Arguments) :
    List (H × Arguments) → List H → List ClientMethodOutput
  | _, [] => []
  | calls, handler :: handlers =>
    call calls handler arguments ::
      outputsOf call arguments (calls ++ [(handler, arguments)]) handlers

/-- The calls and the answer of `handle_invocation`. -/
def answerInvocation (handlers : List H) (message : InvocationMessage) (call : HandlerOracle H) :
    List (H × Arguments) × Option CompletionMessage :=
  if handlers.isEmpty then
    ([], message.invocationId.map fun invocationId =>
      ⟨[], invocationId, some "Client didn't provide a result.", none⟩)
  else
    let r := runHandlers call message.invocationId.isSome message.arguments [] {} handlers
    (r.1, message.invocationId.map r.2.completion)

/-- `handle_invocation`: the calls it makes, and what it sends. -/
def DispatchContext.invokeHandlers (cfg : DispatchConfig) (ctx : DispatchContext H)
    (message : InvocationMessage) (call : HandlerOracle H) (outcome : Except Error Unit) :
    List (H × Arguments) × DispatchContext H × Except Error Unit :=
  let r := answerInvocation (ctx.handlers.handlersFor message.target) message call
  match r.2 with
  | some completion => (r.1, ctx.sendHubMessage cfg (.completion completion) outcome)
  | none => (r.1, ctx, .ok ())

/-- The loop calls every handler once and folds what is returned. -/
lemma runHandlers_eq (call : HandlerOracle H) (expectsResponse : Bool) (arguments : Arguments)
    (handlers : List H) : ∀ (calls : List (H × Arguments)) (loop : HandlerLoop),
    runHandlers call expectsResponse arguments calls loop handlers =
      (calls ++ handlers.map fun handler => (handler, arguments),
        (outputsOf call arguments calls handlers).foldl
          (HandlerLoop.step expectsResponse) loop) := by
  induction handlers with
  | nil =>
    intro calls loop
    simp [runHandlers, outputsOf]
  | cons handler handlers ih =>
    intro calls loop
    rw [runHandlers, ih, outputsOf, List.foldl_cons, List.map_cons, List.append_assoc,
      List.singleton_append]

/-- Handlers that do not see the calls before return what they return on their own. -/
lemma outputsOf_const (call : H → Arguments → ClientMethodOutput) (arguments : Arguments)
    (handlers : List H) : ∀ calls : List (H × Arguments),
    outputsOf (fun _ => call) arguments calls handlers =
      handlers.map fun handler => call handler arguments := by
  induction handlers with
  | nil => exact fun _ => rfl
  | cons handler handlers ih =>
    intro calls
    rw [outputsOf, ih, List.map_cons]

/-! ## The answer -/

/-- The value of a handler, if it returns one. -/
def valueOf : ClientMethodOutput → Option Value
  | .ok value => value
  | .error _ => none

/-- The error of a handler, if it fails. -/
def errorOf : ClientMethodOutput → Option String
  | .ok _ => none
  | .error error => some error

/-- The values that handlers return. -/
def values (outputs : List ClientMethodOutput) : List Value := outputs.filterMap valueOf

/-- The errors that handlers return. -/
def errors (outputs : List ClientMethodOutput) : List String := outputs.filterMap errorOf

/-- The answer to a call: an error if two handlers return a value, else the last error, else the
value, else an error. -/
def answer (outputs : List ClientMethodOutput) : Except String Value :=
  if 2 ≤ (values outputs).length then .error "Client provided multiple results."
  else
    match (errors outputs).getLast?, (values outputs).head? with
    | some error, _ => .error error
    | none, some value => .ok value
    | none, none => .error "Client didn't provide a result."

/-- The completion with an answer. -/
def answerCompletion (invocationId : String) : Except String Value → CompletionMessage
  | .error error => ⟨[], invocationId, some error, none⟩
  | .ok value => ⟨[], invocationId, none, some value⟩

/-- One more output. -/
lemma values_concat (outputs : List ClientMethodOutput) (output : ClientMethodOutput) :
    values (outputs ++ [output]) = values outputs ++ (valueOf output).toList := by
  rw [values, List.filterMap_append, values]
  cases h : valueOf output <;> simp [h]

/-- One more output. -/
lemma errors_concat (outputs : List ClientMethodOutput) (output : ClientMethodOutput) :
    errors (outputs ++ [output]) = errors outputs ++ (errorOf output).toList := by
  rw [errors, List.filterMap_append, errors]
  cases h : errorOf output <;> simp [h]

/-- The variables after the loop: the first value, whether there is a second one, and the last error
if there is none.

**Proof sketch.** Induction on the outputs from the end. A second value clears the error, and no
error is kept after it. -/
lemma foldl_step (outputs : List ClientMethodOutput) :
    outputs.foldl (HandlerLoop.step true) {} =
      { result := (values outputs).head?
        handlerError := if 2 ≤ (values outputs).length then none else (errors outputs).getLast?
        multipleResults := decide (2 ≤ (values outputs).length) } := by
  induction outputs using List.reverseRecOn with
  | nil => rfl
  | append_singleton outputs output ih =>
    rw [List.foldl_append, ih, List.foldl_cons, List.foldl_nil, values_concat, errors_concat]
    rcases output with error | _ | value
    · -- an error is kept unless there are two values
      simp only [HandlerLoop.step, valueOf, errorOf, Option.toList_none, Option.toList_some,
        List.append_nil, List.getLast?_concat]
      by_cases hmany : 2 ≤ (values outputs).length
      · simp [hmany]
      · simp [hmany]
    · simp [HandlerLoop.step, valueOf, errorOf]
    · -- a value is the first one or a second one
      simp only [HandlerLoop.step, valueOf, errorOf, Option.toList_none, Option.toList_some,
        List.append_nil, List.length_append, List.length_singleton]
      cases hvalues : values outputs with
      | nil => simp
      | cons first rest => simp

/-- After the loop, the completion has the answer. -/
lemma completion_foldl_step (outputs : List ClientMethodOutput) (invocationId : String) :
    (outputs.foldl (HandlerLoop.step true) {}).completion invocationId =
      answerCompletion invocationId (answer outputs) := by
  rw [foldl_step, HandlerLoop.completion, answer]
  by_cases hmany : 2 ≤ (values outputs).length
  · simp [hmany, answerCompletion]
  · simp only [hmany, decide_false, Bool.false_eq_true, if_false]
    cases (errors outputs).getLast? with
    | some error => rfl
    | none =>
      cases (values outputs).head? with
      | some value => rfl
      | none => rfl

/-- What `handle_invocation` does: it calls every handler once and has the answer, if it is asked
for one. -/
lemma answerInvocation_eq (handlers : List H) (message : InvocationMessage)
    (call : HandlerOracle H) :
    answerInvocation handlers message call =
      (handlers.map fun handler => (handler, message.arguments),
        message.invocationId.map fun invocationId =>
          answerCompletion invocationId
            (answer (outputsOf call message.arguments [] handlers))) := by
  rw [answerInvocation]
  cases handlers with
  | nil => rfl
  | cons handler handlers =>
    rw [List.isEmpty_cons, if_neg Bool.false_ne_true, runHandlers_eq]
    dsimp only
    rw [List.nil_append]
    cases message.invocationId with
    | none => rfl
    | some invocationId =>
      rw [Option.map_some, Option.map_some, Option.isSome_some, completion_foldl_step]

/-- Where handlers do not see the calls before, this is `handleInvocation`. -/
lemma DispatchContext.invokeHandlers_const (cfg : DispatchConfig) (ctx : DispatchContext H)
    (message : InvocationMessage) (call : H → Arguments → ClientMethodOutput)
    (outcome : Except Error Unit) :
    (ctx.invokeHandlers cfg message (fun _ => call) outcome).2 =
      ctx.handleInvocation cfg message call outcome := by
  have hcompletion : completionOf message ((ctx.handlers.handlersFor message.target).map fun h =>
      call h message.arguments) =
        (answerInvocation (ctx.handlers.handlersFor message.target) message fun _ => call).2 := by
    rw [answerInvocation_eq, outputsOf_const, completionOf]
    refine congrArg (fun f => Option.map f message.invocationId) (funext fun invocationId => ?_)
    cases ctx.handlers.handlersFor message.target with
    | nil => rfl
    | cons handler handlers => exact completion_foldl_step _ invocationId
  simp only [handleInvocation, hcompletion, invokeHandlers]
  cases (answerInvocation (ctx.handlers.handlersFor message.target) message fun _ => call).2 with
  | none => rfl
  | some completion => rfl

/-- What is sent of a message: the message once, unless sending fails. -/
lemma DispatchContext.sendHubMessage_once (cfg : DispatchConfig) (ctx : DispatchContext H)
    (message : HubMessage) (outcome : Except Error Unit) :
    (∃ frame : Frame, frame.message = message ∧
        ctx.sendHubMessage cfg message outcome =
          ({ ctx with written := ctx.written ++ [frame] }, .ok ())) ∨
      ∃ error, ctx.sendHubMessage cfg message outcome = (ctx, .error error) := by
  simp only [sendHubMessage, HubConnection.sendHubMessage]
  cases hserialize : serialize cfg.protocol message with
  | error error => exact .inr ⟨error, by simp⟩
  | ok frame =>
    dsimp only
    cases sendSerialized cfg.transferFormat (fun _ => outcome) frame.payload with
    | error error => exact .inr ⟨error, by simp⟩
    | ok => exact .inl ⟨frame, message_of_serialize hserialize, rfl⟩

/-- Every call by the server is answered as it should be. For all handlers that are registered, in
any order and for any methods, all handlers of the method are called in the order of registration,
each once and with the same arguments. If there is no invocation id, nothing is sent; otherwise one
completion with the id and the answer, unless sending fails.

**Proof sketch.** The three variables of the loop are a function of what has been returned so far,
by induction on the outputs. -/
theorem DispatchContext.invokeHandlers_eq (cfg : DispatchConfig) (ctx : DispatchContext H)
    {registrations : List (ℕ × String × H)}
    (hregistered : ctx.handlers = HandlerTable.registerAll registrations)
    (message : InvocationMessage) {handlers : List H}
    (hhandlers : handlers = HandlerTable.registeredFor registrations message.target)
    (call : HandlerOracle H) (outcome : Except Error Unit) :
    (ctx.invokeHandlers cfg message call outcome).1 =
        handlers.map (fun handler => (handler, message.arguments)) ∧
      (message.invocationId = none →
        (ctx.invokeHandlers cfg message call outcome).2 = (ctx, .ok ())) ∧
      ∀ invocationId, message.invocationId = some invocationId →
        ∃ completion, completion = answerCompletion invocationId
            (answer (outputsOf call message.arguments [] handlers)) ∧
          ((∃ frame : Frame, frame.message = .completion completion ∧
              (ctx.invokeHandlers cfg message call outcome).2 =
                ({ ctx with written := ctx.written ++ [frame] }, .ok ())) ∨
            ∃ error, ctx.sendHubMessage cfg (.completion completion) outcome =
                (ctx, .error error) ∧
              (ctx.invokeHandlers cfg message call outcome).2 = (ctx, .error error)) := by
  have htable : ctx.handlers.handlersFor message.target = handlers := by
    rw [hregistered, HandlerTable.handlersFor_registerAll, hhandlers]
  simp only [invokeHandlers, htable, answerInvocation_eq]
  cases message.invocationId with
  | none =>
    refine ⟨rfl, fun _ => rfl, ?_⟩
    rintro invocationId ⟨⟩
  | some invocationId =>
    refine ⟨rfl, ?_, ?_⟩
    · rintro ⟨⟩
    · rintro _ ⟨⟩
      refine ⟨_, rfl, ?_⟩
      rcases sendHubMessage_once cfg ctx (.completion (answerCompletion invocationId
        (answer (outputsOf call message.arguments [] handlers)))) outcome with
        ⟨frame, hframe, hsend⟩ | ⟨error, hsend⟩
      · exact .inl ⟨frame, hframe, hsend⟩
      · exact .inr ⟨error, hsend, hsend⟩

/-- A method with three handlers: one fails, one returns a value and one returns nothing. All are
called, and the error is sent. -/
theorem DispatchContext.invokeHandlers_three :
    let ctx : DispatchContext ℕ :=
      { (init none : DispatchContext ℕ) with
        handlers := HandlerTable.registerAll [(1, "echo", 0), (2, "echo", 1), (3, "echo", 2)] }
    let call : HandlerOracle ℕ := fun _ handler _ =>
      if handler = 0 then .error "failed" else if handler = 1 then .ok (some .null) else .ok none
    let r := ctx.invokeHandlers ⟨.typeOnly, .binary⟩ ⟨[], some "1", "echo", .json [], none⟩ call
      (.ok ())
    r.1 = [(0, .json []), (1, .json []), (2, .json [])] ∧
      ∃ frame : Frame, frame.message = .completion ⟨[], "1", some "failed", none⟩ ∧
        r.2.1.written = [frame] := by
  intro ctx call r
  have hhandlers : [0, 1, 2] = HandlerTable.registeredFor
      [(1, "echo", 0), (2, "echo", 1), (3, "echo", 2)] "echo" := by
    simp [HandlerTable.registeredFor]
  obtain ⟨hcalls, -, hanswer⟩ := invokeHandlers_eq ⟨.typeOnly, .binary⟩ ctx rfl
    ⟨[], some "1", "echo", .json [], none⟩ hhandlers call (.ok ())
  refine ⟨hcalls, ?_⟩
  obtain ⟨completion, rfl, ⟨frame, hframe, hsend⟩ | ⟨error, hsend, -⟩⟩ := hanswer "1" rfl
  · refine ⟨frame, hframe, ?_⟩
    change (ctx.invokeHandlers _ _ call _).2.1.written = _
    rw [hsend]
    rfl
  · cases congrArg Prod.snd hsend

end HubConnection

end Signalrr
