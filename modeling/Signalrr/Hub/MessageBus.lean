import Signalrr.Hub.Message

set_option relaxedAutoImplicit false
set_option autoImplicit false

/-!
# The message bus

`src/bus.rs`: the handlers a client has registered for calls by the server, and the table of its
own calls that wait for an answer. Both tables are hash maps behind a lock; every function here is
what the source does while it holds that lock.

## Main definitions

* `Signalrr.Hub.HandlerTable` with `registerHandler`, `removeHandler`, `handlersFor`.
* `Signalrr.Hub.PendingTable` with `registerPending`, `registerStream`, `completeInvocation`,
  `sendStreamItem`, `removePending`, `cancelAllPending`.

## Main results

* `Signalrr.Hub.PendingTable.mem_insert`, `mem_erase` — the entries after an operation.
* `Signalrr.Hub.PendingTable.delivered_completeInvocation`, `delivered_sendStreamItem` — who gets
  a message.

## Design

A map is a list of entries, a new entry goes to the end. The order is only visible in the order in
which `cancel_all_pending` signals the waiting calls, which the source leaves open. The channel of
a waiting call is named by a number; a result sent to it is recorded as a `Delivery`.
-/

namespace Signalrr.Hub

/-- `INVOCATION_CANCELED_MESSAGE`. -/
def invocationCanceledMessage : String :=
  "Invocation canceled due to the underlying connection being closed."

/-! ## Handlers -/

/-- What a client handler returns: a value, nothing, or an error. -/
abbrev ClientMethodOutput := Except String (Option Value)

/-- A registered handler with its id. -/
structure RegisteredClientHandler (H : Type) where
  id : ℕ
  handler : H

/-- The handlers by lower-case method name. -/
abbrev HandlerTable (H : Type) := List (String × List (RegisteredClientHandler H))

namespace HandlerTable

variable {H : Type}

/-- The handlers of an entry, in the order of their registration. -/
def entry (table : HandlerTable H) (target : String) : List (RegisteredClientHandler H) :=
  (table.lookup target).getD []

/-- `register_handler`; `id` is the next value of the handler counter. -/
def registerHandler (table : HandlerTable H) (id : ℕ) (target : String) (handler : H) :
    HandlerTable H :=
  let target := target.toLower
  table.filter (fun e => e.1 ≠ target) ++ [(target, table.entry target ++ [⟨id, handler⟩])]

/-- `remove_handler`. -/
def removeHandler (table : HandlerTable H) (target : String) (handlerId : Option ℕ) :
    HandlerTable H :=
  let target := target.toLower
  let others := table.filter fun e => e.1 ≠ target
  match table.lookup target with
  | none => table
  | some handlers =>
    match handlerId with
    | none => others
    | some id =>
      match handlers.filter fun h => h.id ≠ id with
      | [] => others
      | rest => others ++ [(target, rest)]

/-- `handlers_for`. -/
def handlersFor (table : HandlerTable H) (target : String) : List H :=
  (table.entry target.toLower).map RegisteredClientHandler.handler

end HandlerTable

/-! ## Waiting calls -/

/-- A call that waits for an answer, with the name of its channel. -/
inductive PendingInvocation where
  /-- It waits for a single `Completion`. -/
  | single (tx : ℕ)
  /-- It receives `StreamItem`s until a `Completion`. -/
  | stream (tx : ℕ)
  deriving DecidableEq, Repr

/-- The channel of a waiting call. -/
def PendingInvocation.tx : PendingInvocation → ℕ
  | single tx => tx
  | stream tx => tx

/-- A result sent to the channel of a waiting call. -/
structure Delivery where
  tx : ℕ
  result : Except String Value

/-- The calls that wait for an answer, by invocation id. -/
abbrev PendingTable := List (String × PendingInvocation)

namespace PendingTable

/-- Inserting into the map replaces an entry with the same id. -/
def insert (table : PendingTable) (id : String) (pending : PendingInvocation) : PendingTable :=
  table.filter (fun e => e.1 ≠ id) ++ [(id, pending)]

/-- Removing an id from the map. -/
def erase (table : PendingTable) (id : String) : PendingTable :=
  table.filter fun e => e.1 ≠ id

/-- The entries of an id. -/
def entries (table : PendingTable) (id : String) : PendingTable :=
  table.filter fun e => e.1 = id

/-- `register_pending`. -/
def registerPending (table : PendingTable) (id : String) (tx : ℕ) : PendingTable :=
  table.insert id (.single tx)

/-- `register_stream`. -/
def registerStream (table : PendingTable) (id : String) (tx : ℕ) : PendingTable :=
  table.insert id (.stream tx)

/-- `complete_invocation`: a stream only gets errors, and ends when its sender is dropped. -/
def completeInvocation (table : PendingTable) (id : String) (result : Except String Value) :
    PendingTable × List Delivery :=
  match table.lookup id with
  | none => (table, [])
  | some (.single tx) => (table.erase id, [⟨tx, result⟩])
  | some (.stream tx) =>
    (table.erase id, match result with
      | .error _ => [⟨tx, result⟩]
      | .ok _ => [])

/-- `send_stream_item`: items for a single call are ignored. -/
def sendStreamItem (table : PendingTable) (id : String) (item : Except String Value) :
    List Delivery :=
  match table.lookup id with
  | some (.stream tx) => [⟨tx, item⟩]
  | _ => []

/-- `remove_pending`: the table, and whether there was an entry. -/
def removePending (table : PendingTable) (id : String) : PendingTable × Bool :=
  (table.erase id, (table.lookup id).isSome)

/-- `cancel_all_pending`. -/
def cancelAllPending (table : PendingTable) (error : String) : PendingTable × List Delivery :=
  ([], table.map fun e => ⟨e.2.tx, .error error⟩)

/-! ### Entries -/

/-- The entries after an insertion. -/
lemma mem_insert {table : PendingTable} {id : String} {p : PendingInvocation}
    {e : String × PendingInvocation} :
    e ∈ table.insert id p ↔ (e ∈ table ∧ e.1 ≠ id) ∨ e = (id, p) := by
  simp [insert]

/-- The entries after a removal. -/
lemma mem_erase {table : PendingTable} {id : String} {e : String × PendingInvocation} :
    e ∈ table.erase id ↔ e ∈ table ∧ e.1 ≠ id := by
  simp [erase]

/-- The entries of an id are the entries with that id. -/
lemma mem_entries {table : PendingTable} {id : String} {e : String × PendingInvocation} :
    e ∈ table.entries id ↔ e ∈ table ∧ e.1 = id := by
  simp [entries]

/-- What is found in the table is an entry of it. -/
lemma mem_of_lookup {table : PendingTable} {id : String} {p : PendingInvocation}
    (h : table.lookup id = some p) : (id, p) ∈ table := by
  obtain ⟨l₁, l₂, rfl, -⟩ := List.lookup_eq_some_iff.mp h
  simp

/-- A completion leaves the entries with other ids. -/
lemma mem_completeInvocation {table : PendingTable} {id : String} {r : Except String Value}
    {e : String × PendingInvocation} (h : e ∈ (table.completeInvocation id r).1) : e ∈ table := by
  unfold completeInvocation at h
  split at h
  · exact h
  · exact (mem_erase.mp h).1
  · exact (mem_erase.mp h).1

/-- A completion is delivered to the entry with its id. -/
lemma delivered_completeInvocation {table : PendingTable} {id : String}
    {r : Except String Value} {d : Delivery} (h : d ∈ (table.completeInvocation id r).2) :
    ∃ p, (id, p) ∈ table ∧ p.tx = d.tx := by
  unfold completeInvocation at h
  split at h
  · simp at h
  · rename_i tx hl
    rw [List.mem_singleton.mp h]
    exact ⟨_, mem_of_lookup hl, rfl⟩
  · rename_i tx hl
    refine ⟨_, mem_of_lookup hl, ?_⟩
    dsimp only at h
    split at h
    · rw [List.mem_singleton.mp h]
      rfl
    · simp at h

/-- A stream item is delivered to the entry with its id. -/
lemma delivered_sendStreamItem {table : PendingTable} {id : String} {r : Except String Value}
    {d : Delivery} (h : d ∈ table.sendStreamItem id r) :
    ∃ p, (id, p) ∈ table ∧ p.tx = d.tx := by
  unfold sendStreamItem at h
  split at h
  · rename_i tx hl
    rw [List.mem_singleton.mp h]
    exact ⟨_, mem_of_lookup hl, rfl⟩
  · simp at h

end PendingTable

end Signalrr.Hub
