import Signalrr.Hub.PendingRuns
import Signalrr.HubConnection.ServerCalls

set_option relaxedAutoImplicit false
set_option autoImplicit false

/-!
# Results of calls

A call of the client waits in the table of the message bus for what the server answers. On a
connection other things happen at the same time: messages are sent and received, acknowledged and
dropped, handlers come and go. Of all this the table sees the operations of the bus only, so that a
connection is a run of the table and every call gets what the server has sent for it.

## Main definitions

* `Signalrr.HubConnection.pendingOp?` — what a message does to the table of waiting calls.
* `Signalrr.HubConnection.DispatchContext.operations` — the operations in a run of a connection.
* `Signalrr.HubConnection.DispatchContext.observe` — what the receiver of a call has observed.

## Main results

* `Signalrr.HubConnection.DispatchContext.observe_of_run` — a call in a run of a connection observes
  what it does in the run of the table.
* `Signalrr.HubConnection.DispatchContext.results_of_run` — a call observes what the server has
  sent.
-/

namespace Signalrr

open Framing Hub Transport

/-! ## Operations without an effect -/

namespace Hub.PendingCalls

/-- An operation that neither ends a call nor sends it an item does not matter. -/
lemma expected_cons_of_silent (p : PendingInvocation) {id : String} {op : PendingOp}
    (hends : op.ends id = false) (hitem : op.item? id = none) (ops : List PendingOp) :
    expected p id (op :: ops) = expected p id ops := by
  have hmid : midResults p id op = [] := by cases p <;> simp [midResults, hitem]
  rw [expected_cons_of_not_ends p hends, hmid, List.nil_append]

/-- What is observed behind an operation decides what is observed of it. -/
lemma expected_cons_congr (p : PendingInvocation) (id : String) (op : PendingOp)
    {ops ops' : List PendingOp} (h : expected p id ops = expected p id ops') :
    expected p id (op :: ops) = expected p id (op :: ops') := by
  cases hends : op.ends id with
  | true => rw [expected_cons_of_ends p hends, expected_cons_of_ends p hends]
  | false => rw [expected_cons_of_not_ends p hends, expected_cons_of_not_ends p hends, h]

end Hub.PendingCalls

namespace HubConnection

/-- What a message that is processed does to the table of waiting calls. A close without an error
fails them as canceled. -/
def pendingOp? : HubMessage → Option PendingOp
  | .streamItem message =>
    message.invocationId.map fun id => .sendStreamItem id (.ok message.item)
  | .completion message =>
    some (.completeInvocation message.invocationId
      (match message.error with
      | some error => .error error
      | none => .ok (message.result.getD .null)))
  | .close message => some (.cancelAllPending (message.error.getD invocationCanceledMessage))
  | _ => none

/-- The same message does the same. -/
lemma pendingOp?_same {rmp : Rmp} {serde : SerdeJson} {m m' : HubMessage}
    (h : m.Same rmp serde m') : pendingOp? m' = pendingOp? m := by
  cases m with
  | streamItem m =>
    cases m' with
    | streamItem m' =>
      obtain ⟨-, hid, hitem⟩ := h
      simp only [pendingOp?, hid, hitem]
    | _ => cases h
  | completion m =>
    cases m' with
    | completion m' =>
      obtain ⟨-, hid, herror, hresult⟩ := h
      simp only [pendingOp?, hid, herror, hresult]
    | _ => cases h
  | close m =>
    cases m' with
    | close m' =>
      obtain rfl : m = m' := h
      rfl
    | _ => cases h
  | _ =>
    cases m' with
    | streamItem | completion | close => cases h
    | _ => rfl

/-- The same messages do the same. -/
lemma filterMap_pendingOp?_same {rmp : Rmp} {serde : SerdeJson} {ms ms' : List HubMessage}
    (h : List.Forall₂ (HubMessage.Same rmp serde) ms ms') :
    ms'.filterMap pendingOp? = ms.filterMap pendingOp? := by
  induction h with
  | nil => rfl
  | cons hsame _ ih => rw [List.filterMap_cons, List.filterMap_cons, pendingOp?_same hsame, ih]

namespace DispatchContext

variable {H : Type} {cfg : DispatchConfig} {messageBuffer : Option MessageBuffer}
  {ctx ctx' : DispatchContext H}

/-! ## The table in a run -/

/-- `dispatch` processes the message, and does not drop it. -/
def accepts (ctx : DispatchContext H) (m : HubMessage) : Bool :=
  match ctx.messageBuffer with
  | none => true
  | some buffer => (buffer.shouldProcessMessage m).process

/-- What an action does to the table of waiting calls. -/
def Action.pendingOp? (ctx : DispatchContext H) : Action H → Option PendingOp
  | .receive m _ _ => if ctx.accepts m then HubConnection.pendingOp? m else none
  | .registerPending id _ => some (.registerPending id)
  | .registerStream id _ => some (.registerStream id)
  | .removePending id => some (.removePending id)
  | _ => none

/-- The channel that an action opens. -/
def Action.channel? : Action H → Option ℕ
  | .registerPending _ tx | .registerStream _ tx => some tx
  | _ => none

/-- Channels are named by how many have been opened before, `opened` of them at first. -/
def Numbered (opened : ℕ) (actions : List (Action H)) : Prop :=
  actions.filterMap Action.channel? =
    List.range' opened (actions.filterMap Action.channel?).length

/-- No id is registered again while a call waits under it. -/
def RegistersAbsent (ctx : DispatchContext H) : Action H → Prop
  | .registerPending id _ | .registerStream id _ => ctx.pending.lookup id = none
  | _ => True

instance (ctx : DispatchContext H) (a : Action H) : Decidable (ctx.RegistersAbsent a) :=
  match a with
  | .registerPending id _ | .registerStream id _ =>
    inferInstanceAs (Decidable (ctx.pending.lookup id = none))
  | .send .. | .receive .. | .ackTimer _ | .ping _ | .registerHandler .. | .removeHandler .. |
    .removePending _ => inferInstanceAs (Decidable True)

/-- The waiting calls of a connection. -/
def calls (ctx : DispatchContext H) (opened : ℕ) : PendingCalls :=
  ⟨ctx.pending, opened, ctx.deliveries⟩

/-- What the receiver of a channel has observed. -/
def observe (ctx : DispatchContext H) (tx : ℕ) : Observation := (ctx.calls 0).observe tx

/-- The table does not see more of a connection than its calls and their results. -/
lemma calls_congr (hpending : ctx'.pending = ctx.pending)
    (hdeliveries : ctx'.deliveries = ctx.deliveries) (opened : ℕ) :
    ctx'.calls opened = ctx.calls opened := by
  rw [calls, calls, hpending, hdeliveries]

/-- A message that is processed does one operation on the table, if any. -/
lemma runFrom_process (m : HubMessage) (call : H → Arguments → ClientMethodOutput)
    (outcome : Except Error Unit) (opened : ℕ) :
    PendingCalls.system.runFrom (ctx.calls opened) (HubConnection.pendingOp? m).toList =
      some ((ctx.process cfg m call outcome).1.calls opened) := by
  cases m with
  | invocation m =>
    refine congrArg some (calls_congr ?_ ?_ opened).symm <;>
      (simp only [process, handleInvocation]; split <;> rfl)
  | streamItem m =>
    simp only [process, handleStreamItem, HubConnection.pendingOp?]
    cases m.invocationId <;> rfl
  | sequence m =>
    refine congrArg some (calls_congr ?_ ?_ opened).symm <;>
      (simp only [process]; split <;> [rfl; split <;> rfl])
  | completion | ping | close | ack | streamInvocation | cancelInvocation => rfl

/-- A message that is received does one operation on the table, unless it is dropped. -/
lemma runFrom_dispatch (m : HubMessage) (call : H → Arguments → ClientMethodOutput)
    (outcome : Except Error Unit) (opened : ℕ) :
    PendingCalls.system.runFrom (ctx.calls opened)
        (if ctx.accepts m then HubConnection.pendingOp? m else none).toList =
      some ((ctx.dispatch cfg m call outcome).1.calls opened) := by
  cases hbuffer : ctx.messageBuffer with
  | none =>
    have haccepts : ctx.accepts m = true := by simp only [accepts, hbuffer]
    rw [if_pos haccepts]
    simp only [dispatch, hbuffer]
    exact runFrom_process m call outcome opened
  | some buffer =>
    have haccepts : ctx.accepts m = (buffer.shouldProcessMessage m).process := by
      simp only [accepts, hbuffer]
    have hprocess : ∀ u : DispatchContext H, u.pending = ctx.pending →
        u.deliveries = ctx.deliveries →
          PendingCalls.system.runFrom (ctx.calls opened) (HubConnection.pendingOp? m).toList =
            some ((u.process cfg m call outcome).1.calls opened) := by
      intro u hpending hdeliveries
      rw [← calls_congr hpending hdeliveries opened]
      exact runFrom_process m call outcome opened
    simp only [dispatch, hbuffer, haccepts]
    split
    · exact hprocess _ rfl rfl
    · rfl

/-- A message registers no call. -/
lemma registersAbsent_pendingOp? {m : HubMessage} {op : PendingOp}
    (h : op ∈ HubConnection.pendingOp? m) (s : PendingCalls) : s.RegistersAbsent op := by
  cases m with
  | streamItem m =>
    obtain ⟨id, -, rfl⟩ := Option.map_eq_some_iff.mp h
    trivial
  | completion m | close m =>
    obtain rfl := Option.some.inj h
    trivial
  | _ => cases h

/-- The calls after an action. -/
lemma runFrom_next {a : Action H} {opened : ℕ} (htx : ∀ tx ∈ a.channel?, tx = opened)
    (h : ctx.next cfg a = some ctx') :
    PendingCalls.system.runFrom (ctx.calls opened) (a.pendingOp? ctx).toList =
      some (ctx'.calls (opened + a.channel?.toList.length)) := by
  cases a with
  | receive m call outcome =>
    cases h
    exact runFrom_dispatch m call outcome opened
  | registerPending id tx | registerStream id tx =>
    cases h
    obtain rfl : tx = opened := htx tx rfl
    rfl
  | send m waiter outcome =>
    cases h
    refine congrArg some (calls_congr ?_ ?_ opened).symm <;>
      (simp only [send]; split <;> rfl)
  | ackTimer outcome =>
    simp only [next] at h
    split at h
    · cases h
      refine congrArg some (calls_congr ?_ ?_ opened).symm <;>
        (simp only [ackTimer]; split <;> [rfl; split <;> rfl])
    · cases h
  | ping | registerHandler | removeHandler | removePending =>
    cases h
    rfl

/-- The first of some channels that are numbered. -/
lemma Numbered.cons {opened : ℕ} {a : Action H} {actions : List (Action H)}
    (h : Numbered opened (a :: actions)) :
    (∀ tx ∈ a.channel?, tx = opened) ∧ Numbered (opened + a.channel?.toList.length) actions := by
  rw [Numbered, List.filterMap_cons] at h
  cases hchannel : a.channel? with
  | none =>
    rw [hchannel] at h
    exact ⟨by simp, h⟩
  | some tx =>
    rw [hchannel, List.length_cons, List.range'_succ, List.cons.injEq] at h
    exact ⟨by simp [h.1], h.2⟩

/-- The operations on the table in a run. -/
def operations (cfg : DispatchConfig) (ctx : DispatchContext H) : List (Action H) → List PendingOp
  | [] => []
  | a :: actions =>
    (a.pendingOp? ctx).toList ++
      ((ctx.next cfg a).map fun ctx => operations cfg ctx actions).getD []

/-- The operations of a run are those of its parts. -/
lemma operations_append {pre : List (Action H)}
    (hpre : (connection cfg messageBuffer).runFrom ctx pre = some ctx') (post : List (Action H)) :
    operations cfg ctx (pre ++ post) = operations cfg ctx pre ++ operations cfg ctx' post := by
  induction pre generalizing ctx with
  | nil =>
    cases hpre
    rfl
  | cons a pre ih =>
    obtain ⟨u, hnext, hrest⟩ := Option.bind_eq_some_iff.mp hpre
    have hstep : ctx.next cfg a = some u := hnext
    simp only [List.cons_append, operations, hstep, Option.map_some, Option.getD_some, ih hrest,
      List.append_assoc]

/-- **A connection is a run of the table**: its calls after a run are those after the operations in
it. -/
lemma runFrom_calls {actions : List (Action H)} {opened : ℕ}
    (hrun : (connection cfg messageBuffer).runFrom ctx actions = some ctx')
    (hnumbered : Numbered opened actions) :
    PendingCalls.system.runFrom (ctx.calls opened) (operations cfg ctx actions) =
      some (ctx'.calls (opened + (actions.filterMap Action.channel?).length)) := by
  induction actions generalizing ctx opened with
  | nil =>
    cases hrun
    rfl
  | cons a actions ih =>
    obtain ⟨u, hnext, hrest⟩ := Option.bind_eq_some_iff.mp hrun
    have hstep : ctx.next cfg a = some u := hnext
    obtain ⟨htx, hnumbered⟩ := hnumbered.cons
    rw [operations, hstep, Option.map_some, Option.getD_some, Automata.System.runFrom_append,
      runFrom_next htx hstep, Option.bind_some, ih hrest hnumbered, List.filterMap_cons]
    cases a.channel? with
    | none => rfl
    | some tx =>
      rw [Option.toList_some, List.length_singleton, List.length_cons, Nat.add_assoc,
        Nat.add_comm 1]

/-- The operations register absent ids if the actions do. -/
lemma meetsFrom_calls {actions : List (Action H)} {opened : ℕ}
    (hm : (connection cfg messageBuffer).MeetsFrom RegistersAbsent ctx actions)
    (hnumbered : Numbered opened actions) :
    PendingCalls.system.MeetsFrom PendingCalls.RegistersAbsent (ctx.calls opened)
      (operations cfg ctx actions) := by
  induction actions generalizing ctx opened with
  | nil => trivial
  | cons a actions ih =>
    obtain ⟨htx, hnumbered⟩ := hnumbered.cons
    obtain ⟨habsent, hrest⟩ := hm
    have hop : ∀ op ∈ a.pendingOp? ctx, (ctx.calls opened).RegistersAbsent op := by
      intro op hop
      cases a with
      | receive m call outcome =>
        simp only [Action.pendingOp?] at hop
        split at hop
        · exact registersAbsent_pendingOp? hop _
        · cases hop
      | registerPending id tx | registerStream id tx =>
        obtain rfl := Option.some.inj hop
        exact habsent
      | removePending id =>
        obtain rfl := Option.some.inj hop
        trivial
      | send | ackTimer | ping | registerHandler | removeHandler => cases hop
    have hbehind : ∀ u : DispatchContext H, ctx.next cfg a = some u →
        PendingCalls.system.MeetsFrom PendingCalls.RegistersAbsent
          (u.calls (opened + a.channel?.toList.length)) (operations cfg u actions) :=
      fun u hnext => ih (hrest u hnext) hnumbered
    cases hnext : ctx.next cfg a with
    | none =>
      rw [operations, hnext, Option.map_none, Option.getD_none, List.append_nil]
      cases hpending : a.pendingOp? ctx with
      | none => trivial
      | some op => exact ⟨hop op hpending, fun _ _ => trivial⟩
    | some u =>
      have hstep := runFrom_next htx hnext
      rw [operations, hnext, Option.map_some, Option.getD_some]
      cases hpending : a.pendingOp? ctx with
      | none =>
        rw [hpending] at hstep
        obtain heq := Option.some.inj hstep
        rw [Option.toList_none, List.nil_append, heq]
        exact hbehind u hnext
      | some op =>
        rw [hpending, Option.toList_some, Automata.System.runFrom_cons] at hstep
        obtain ⟨v, hv, heq⟩ := Option.bind_eq_some_iff.mp hstep
        obtain rfl := Option.some.inj heq
        exact Automata.System.meetsFrom_cons_of_next _ hv (hop op hpending) (hbehind u hnext)

/-! ## What a call observes -/

/-- Channels are numbered in the parts of a run. -/
lemma Numbered.append {opened : ℕ} {pre post : List (Action H)}
    (h : Numbered opened (pre ++ post)) :
    Numbered opened pre ∧
      Numbered (opened + (pre.filterMap Action.channel?).length) post := by
  rw [Numbered, List.filterMap_append, List.length_append, ← List.range'_append_1] at h
  exact List.append_inj h (by rw [List.length_range'])

/-- A call is registered under an id, with its channel. -/
inductive Registers (id : String) (tx : ℕ) : Action H → PendingInvocation → Prop
  | stream : Registers id tx (.registerStream id tx) (.stream tx)
  | single : Registers id tx (.registerPending id tx) (.single tx)

/-- **A call in a run of a connection** observes what it does in the run of the table: of all that
happens behind its registration, the operations on the table. -/
lemma observe_of_run {id : String} {tx : ℕ} {a : Action H} {p : PendingInvocation}
    (hreg : Registers id tx a p) {pre post : List (Action H)}
    (hrun : (connection cfg messageBuffer).run (pre ++ a :: post) = some ctx)
    (hnumbered : Numbered 0 (pre ++ a :: post))
    (hm : (connection cfg messageBuffer).Meets RegistersAbsent (pre ++ a :: post)) :
    ∃ s, (connection cfg messageBuffer).run (pre ++ [a]) = some s ∧
      (connection cfg messageBuffer).runFrom s post = some ctx ∧
        ctx.observe tx = PendingCalls.expected p id (operations cfg s post) := by
  -- the run, cut around the registration
  have hsplit := hrun
  rw [Automata.System.run, Automata.System.runFrom_append] at hsplit
  obtain ⟨s₀, hpre, hrest⟩ := Option.bind_eq_some_iff.mp hsplit
  obtain ⟨s, hnext, hpost⟩ := Option.bind_eq_some_iff.mp hrest
  have hstep : s₀.next cfg a = some s := hnext
  obtain ⟨hnumberedPre, hnumberedPost⟩ := hnumbered.append
  have htx : tx = 0 + (pre.filterMap Action.channel?).length := by
    cases hreg <;> exact hnumberedPost.cons.1 tx rfl
  -- the same of the table
  have hcallsPre := runFrom_calls hpre hnumberedPre
  have hcalls := runFrom_calls hrun hnumbered
  have hmeets := meetsFrom_calls hm hnumbered
  obtain ⟨op, hop, hregister⟩ : ∃ op, a.pendingOp? s₀ = some op ∧ ∃ q : ℕ → PendingInvocation,
      (∀ n, (q n).tx = n) ∧ q tx = p ∧ ∀ u : PendingCalls, PendingCalls.next u op =
        some (PendingCalls.register q u id) ∧
          (u.RegistersAbsent op ↔ u.table.lookup id = none) := by
    cases hreg with
    | stream => exact ⟨_, rfl, .stream, fun _ => rfl, rfl, fun _ => ⟨rfl, Iff.rfl⟩⟩
    | single => exact ⟨_, rfl, .single, fun _ => rfl, rfl, fun _ => ⟨rfl, Iff.rfl⟩⟩
  obtain ⟨q, hq, hp, hnextOp⟩ := hregister
  rw [operations_append hpre, operations, hop, hstep, Option.map_some, Option.getD_some,
    Option.toList_some, List.singleton_append] at hcalls hmeets
  have hobserve := PendingCalls.observe_of_register hq hnextOp hcallsPre hcalls hmeets
  rw [PendingCalls.expected_filter_names] at hobserve
  refine ⟨s, ?_, hpost, ?_⟩
  · rw [Automata.System.run, Automata.System.runFrom_append, hpre, Option.bind_some,
      Automata.System.runFrom_cons, hnext]
    rfl
  · rw [← hp, htx]
    exact hobserve

/-- The message that an action receives. -/
def Action.received? : Action H → Option HubMessage
  | .receive m _ _ => some m
  | _ => none

/-- A connection without a buffer stays one. -/
lemma messageBuffer_next {a : Action H} (hbuffer : ctx.messageBuffer = none)
    (h : ctx.next cfg a = some ctx') : ctx'.messageBuffer = none := by
  cases a with
  | receive m call outcome =>
    cases h
    simp only [dispatch, hbuffer]
    rw [process_messageBuffer, hbuffer]
    rfl
  | send m waiter outcome =>
    cases h
    simp only [send, hbuffer]
    exact hbuffer
  | ackTimer outcome =>
    simp only [next] at h
    split at h
    · cases h
      simp only [ackTimer, hbuffer]
    · cases h
  | ping | registerHandler | removeHandler | registerPending | registerStream | removePending =>
    cases h
    exact hbuffer

/-- Without a buffer a call observes what is received, as long as the client does not give it up. -/
lemma expected_operations (p : PendingInvocation) (id : String) {actions : List (Action H)}
    (hbuffer : ctx.messageBuffer = none)
    (hrun : (connection cfg messageBuffer).runFrom ctx actions = some ctx')
    (hkept : ∀ a ∈ actions, a ≠ .removePending id) :
    PendingCalls.expected p id (operations cfg ctx actions) =
      PendingCalls.expected p id
        ((actions.filterMap Action.received?).filterMap HubConnection.pendingOp?) := by
  induction actions generalizing ctx with
  | nil => rfl
  | cons a actions ih =>
    obtain ⟨u, hnext, hrest⟩ := Option.bind_eq_some_iff.mp hrun
    have hstep : ctx.next cfg a = some u := hnext
    obtain ⟨hkeep, hkept⟩ := List.forall_mem_cons.mp hkept
    have ih := ih (messageBuffer_next hbuffer hstep) hrest hkept
    rw [operations, hstep, Option.map_some, Option.getD_some]
    cases a with
    | receive m call outcome =>
      have hop : (Action.receive m call outcome).pendingOp? ctx = HubConnection.pendingOp? m :=
        if_pos (by simp only [accepts, hbuffer])
      have hreceived : (Action.receive m call outcome).received? = some m := rfl
      rw [hop, List.filterMap_cons, hreceived, List.filterMap_cons]
      cases HubConnection.pendingOp? m with
      | none => exact ih
      | some op => exact PendingCalls.expected_cons_congr p id op ih
    | registerPending id' tx | registerStream id' tx =>
      exact (PendingCalls.expected_cons_of_silent p rfl rfl _).trans ih
    | removePending id' =>
      have hends : (PendingOp.removePending id').ends id = false := by
        simp only [PendingOp.ends, decide_eq_false_iff_not]
        rintro rfl
        exact hkeep rfl
      exact (PendingCalls.expected_cons_of_silent p hends rfl _).trans ih
    | send | ackTimer | ping | registerHandler | removeHandler => exact ih

section

variable {rmp : Rmp} {serde : SerdeJson} {decoder : BrotliDecoder} {w : ℕ} {kind : ProtocolKind}

/-- What is parsed from some frames are the messages in them. -/
lemma same_of_parsed (hrel : kind.Relies rmp serde) (hw : w = 32 ∨ w = 64)
    {groups : List (List HubMessage)} {payloads : List OutboundPayload}
    (hframes : List.Forall₂ (WritesFrame rmp serde w kind) groups payloads)
    (hreadable : ∀ g ∈ groups, ∀ m ∈ g, kind.Readable rmp serde m)
    {parsed : List (List HubMessage)}
    (hparsed : List.Forall₂ (fun p ms =>
      kind.parseMessages rmp serde decoder w p.input = pure ms) payloads parsed) :
    List.Forall₂ (List.Forall₂ (HubMessage.Same rmp serde)) groups parsed := by
  induction hframes generalizing parsed with
  | nil =>
    cases hparsed
    exact .nil
  | cons hframe _ ih =>
    cases hparsed with
    | cons hparse hparsed =>
      obtain ⟨hg, hreadable⟩ := List.forall_mem_cons.mp hreadable
      obtain ⟨ps, hwrites, hbatch, hfit⟩ := hframe
      obtain ⟨ms', hparse', hsame⟩ :=
        ProtocolKind.parseMessages_batch hrel hw hg hwrites hbatch hfit
      obtain rfl := Except.ok.inj (Option.some.inj (hparse.symm.trans hparse'))
      exact .cons hsame (ih hreadable hparsed)

/-- **A call observes what the server has sent for it**, in every run of a connection without a
buffer for stateful reconnect, in any of the protocols. A server has sent frames of messages, which
the client receives one message after the other, while it sends, registers and removes other calls
and handlers. A stream that the client does not give up gets the items the server has sent for its
id since it was registered, up to the first completion with its id or the close of the connection.
Then it gets the error of that message, for a close without one that the invocation was canceled,
and for a completion without one nothing, and then the end. A single call gets the result or the
error.

**Proof sketch.** The connection is a run of the table, and the messages that are parsed do to the
table what the messages that were sent do. -/
theorem results_of_run (hrel : kind.Relies rmp serde) (hw : w = 32 ∨ w = 64)
    {groups : List (List HubMessage)} {payloads : List OutboundPayload}
    (hframes : List.Forall₂ (WritesFrame rmp serde w kind) groups payloads)
    (hreadable : ∀ g ∈ groups, ∀ m ∈ g, kind.Readable rmp serde m)
    {parsed : List (List HubMessage)}
    (hparsed : List.Forall₂ (fun p ms =>
      kind.parseMessages rmp serde decoder w p.input = pure ms) payloads parsed)
    {id : String} {tx : ℕ} {a : Action H} {p : PendingInvocation} (hreg : Registers id tx a p)
    {pre post : List (Action H)}
    (hrun : (connection cfg none).run (pre ++ a :: post) = some ctx)
    (hreceived : (pre ++ a :: post).filterMap Action.received? <+: parsed.flatten)
    (hnumbered : Numbered 0 (pre ++ a :: post))
    (hm : (connection cfg none).Meets RegistersAbsent (pre ++ a :: post))
    (hkept : ∀ b ∈ post, b ≠ .removePending id) :
    ctx.observe tx = PendingCalls.expected p id
      (((groups.flatten.take ((pre ++ a :: post).filterMap Action.received?).length).drop
        (pre.filterMap Action.received?).length).filterMap HubConnection.pendingOp?) := by
  obtain ⟨s, hpre, hpost, hobserve⟩ := observe_of_run hreg hrun hnumbered hm
  have hbuffer : s.messageBuffer = none := by
    have hreachable : (connection cfg none).Reachable s := ⟨_, hpre⟩
    have hinit : (connection cfg none : Automata.System (DispatchContext H) _).init.messageBuffer =
        none := rfl
    exact hreachable.invariant hinit fun _ _ _ hnone hstep => messageBuffer_next hnone hstep
  have hsame := List.rel_flatten (same_of_parsed hrel hw hframes hreadable hparsed)
  have hall := List.prefix_iff_eq_take.mp hreceived
  have hbehind : post.filterMap Action.received? =
      ((pre ++ a :: post).filterMap Action.received?).drop
        (pre.filterMap Action.received?).length := by
    have hsilent : a.received? = none := by cases hreg <;> rfl
    rw [List.filterMap_append, List.drop_left, List.filterMap_cons, hsilent]
  have hgot : List.Forall₂ (HubMessage.Same rmp serde)
      ((groups.flatten.take ((pre ++ a :: post).filterMap Action.received?).length).drop
        (pre.filterMap Action.received?).length) (post.filterMap Action.received?) := by
    rw [hbehind]
    conv_rhs => rw [hall]
    exact List.forall₂_drop _ (List.forall₂_take _ hsame)
  rw [hobserve, expected_operations p id hbuffer hpost hkept, filterMap_pendingOp?_same hgot]

end

/-- An item of a stream and its end with an error. -/
def streamMessages : List HubMessage :=
  [.streamItem ⟨[], some "1", .bool true⟩, .completion ⟨[], "1", some "failed", none⟩]

/-- The frame of the messages. -/
def streamFrame : Bytes :=
  [6, 148, 2, 128, 161, 49, 195, 13, 149, 3, 128, 161, 49, 1, 166, 102, 97, 105, 108, 101, 100]

/-- The packed messages of the example. -/
lemma writes_stream :
    ProtocolKind.messagePack.writeMessage Rmp.reference SerdeJson.reference
        (.streamItem ⟨[], some "1", .bool true⟩) =
          .ok (BinaryMessageFormat.write [148, 2, 128, 161, 49, 195]) ∧
      ProtocolKind.messagePack.writeMessage Rmp.reference SerdeJson.reference
        (.completion ⟨[], "1", some "failed", none⟩) =
          .ok (BinaryMessageFormat.write
            [149, 3, 128, 161, 49, 1, 166, 102, 97, 105, 108, 101, 100]) :=
  ⟨rfl, rfl⟩

/-- The messages are written as the frame. -/
lemma writesFrame_stream : WritesFrame Rmp.reference SerdeJson.reference 64 .messagePack
    streamMessages (.binary streamFrame) := by
  obtain ⟨hitem, hcompletion⟩ := writes_stream
  rw [write_short (by decide)] at hitem hcompletion
  exact ⟨_, .cons ⟨_, hitem, rfl⟩ (.cons ⟨_, hcompletion, rfl⟩ .nil), rfl, by decide⟩

/-- The messages are read back. -/
lemma readable_stream : ∀ m ∈ streamMessages,
    ProtocolKind.messagePack.Readable Rmp.reference SerdeJson.reference m := by
  obtain ⟨hitem, hcompletion⟩ := writes_stream
  simp only [streamMessages, List.forall_mem_cons]
  refine ⟨⟨⟨by simp, ?_⟩, ?_⟩, ⟨⟨by simp, .inr rfl, by simp⟩, ?_⟩, by simp⟩
  · simp [Value.Valid, Value.depth]
  · exact length_packed_lt hitem (by decide)
  · exact length_packed_lt hcompletion (by decide)

/-- A call is registered while the stream is answered, and a handler behind that. -/
def streamRun : List (Action Unit) :=
  [.receive (.streamItem ⟨[], some "1", .bool true⟩) (fun _ _ => .ok none) (.ok ()),
    .registerPending "2" 1,
    .receive (.completion ⟨[], "1", some "failed", none⟩) (fun _ _ => .ok none) (.ok ()),
    .registerHandler 1 "show" ()]

/-- The stream gets the item, the error and the end. -/
theorem results_of_run_stream :
    ∃ ctx : DispatchContext Unit,
      (connection ⟨.typeOnly, .binary⟩ none).run ([] ++ .registerStream "1" 0 :: streamRun) =
          some ctx ∧
        ctx.observe 0 = ⟨[.ok (.bool true), .error "failed"], true⟩ := by
  have hrel : ProtocolKind.messagePack.Relies Rmp.reference SerdeJson.reference :=
    ⟨Rmp.reference_lawful, SerdeJson.reference_invertsJson⟩
  have hrun : (connection ⟨.typeOnly, .binary⟩ none).run
      ([] ++ .registerStream "1" 0 :: streamRun) = some _ := rfl
  have hparse : ProtocolKind.messagePack.parseMessages Rmp.reference SerdeJson.reference
      (fun bytes => .ok bytes) 64 (OutboundPayload.binary streamFrame).input =
        pure streamMessages := rfl
  have hreadable : ∀ g ∈ [streamMessages], ∀ m ∈ g,
      ProtocolKind.messagePack.Readable Rmp.reference SerdeJson.reference m := by
    rw [List.forall_mem_singleton]
    exact readable_stream
  have hreceived : ([] ++ .registerStream "1" 0 :: streamRun : List (Action Unit)).filterMap
      Action.received? <+: [streamMessages].flatten := List.prefix_rfl
  have hmeets : (connection ⟨.typeOnly, .binary⟩ none).Meets RegistersAbsent
      ([] ++ .registerStream "1" 0 :: streamRun) := by
    decide
  have hkept : ∀ b ∈ streamRun, b ≠ .removePending "1" := by
    simp [streamRun]
  have hresults := results_of_run hrel (.inr rfl) (.cons writesFrame_stream .nil) hreadable
    (.cons hparse .nil) (.stream : Registers "1" 0 (.registerStream "1" 0) (.stream 0)) hrun
    hreceived rfl hmeets hkept
  exact ⟨_, hrun, hresults⟩

end DispatchContext

end HubConnection

end Signalrr
