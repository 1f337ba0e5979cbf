import Signalrr.Transport.WireMessages

set_option relaxedAutoImplicit false
set_option autoImplicit false

/-!
# The read loop of a web socket

`read_loop` of `src/transport/websocket.rs` forwards the data frames of a web socket to the
connection and passes over control frames. The first `Close` frame or error ends it, and so does the
end of the stream; whatever ends it, the last thing forwarded is a close without a reason.

## Main definitions

* `Signalrr.Transport.TransportMessage` — what the connection gets.
* `Signalrr.Transport.readLoop` — what is forwarded of the items read so far.

## Main results

* `Signalrr.Transport.readLoop_append` — what is forwarded of data frames is not changed by what
  follows.
* `Signalrr.Transport.exists_readLoop` — the data frames in front of the end, and how it ends.
-/

namespace Signalrr.Transport

open Hub

/-- A message received from the web socket. -/
inductive TransportMessage where
  | text (text : String)
  | binary (bytes : Bytes)
  | closed (reason : Option String)
  deriving DecidableEq, Repr

/-- What `read.next()` returns, with the text of an error. -/
inductive WebSocketItem where
  | text (text : String)
  | binary (bytes : Bytes)
  | ping
  | pong
  | frame
  | close (reason : Option String)
  | error (error : String)
  /-- The end of the stream. -/
  | finished
  deriving DecidableEq, Repr

/-- The frame that carries a payload. -/
def OutboundPayload.received : OutboundPayload → TransportMessage
  | text t => .text t
  | binary b => .binary b

/-- The data of an item. -/
def WebSocketItem.payload? : WebSocketItem → Option OutboundPayload
  | text t => some (.text t)
  | binary b => some (.binary b)
  | _ => none

/-- The last messages that are forwarded, when an item ends the loop. -/
def WebSocketItem.ending? : WebSocketItem → Option (List TransportMessage)
  | close reason => some [.closed reason, .closed none]
  | error e => some [.closed (some e), .closed none]
  | finished => some [.closed none]
  | _ => none

/-- `read_loop`: what is forwarded of the items read so far, while the connection takes it. -/
def readLoop : List WebSocketItem → List TransportMessage
  | [] => []
  | .text t :: items => .text t :: readLoop items
  | .binary b :: items => .binary b :: readLoop items
  | .ping :: items | .pong :: items | .frame :: items => readLoop items
  | .close reason :: _ => [.closed reason, .closed none]
  | .error e :: _ => [.closed (some e), .closed none]
  | .finished :: _ => [.closed none]

/-- Items that do not end the loop are read to the last one, and their data is forwarded. -/
lemma readLoop_append {items : List WebSocketItem} (h : ∀ item ∈ items, item.ending? = none)
    (more : List WebSocketItem) :
    readLoop (items ++ more) =
      (items.filterMap WebSocketItem.payload?).map OutboundPayload.received ++ readLoop more := by
  induction items with
  | nil => rfl
  | cons item items ih =>
    obtain ⟨hitem, hitems⟩ := List.forall_mem_cons.mp h
    cases item with
    | close reason | error e | finished => cases hitem
    | text t | binary b | ping | pong | frame =>
      simp only [List.cons_append, readLoop, ih hitems, WebSocketItem.payload?,
        List.filterMap_cons, List.map_cons, OutboundPayload.received]

/-- An item that ends the loop is the last one that counts. -/
lemma readLoop_of_ending {item : WebSocketItem} {last : List TransportMessage}
    (h : item.ending? = some last) (items : List WebSocketItem) :
    readLoop (item :: items) = last := by
  cases item with
  | close reason | error e | finished => exact Option.some.inj h
  | text t | binary b | ping | pong | frame => cases h

/-- **What is forwarded**: the data in front of the first item that ends the loop, in order, and
then what this item ends it with.

**Proof sketch.** The items are cut at the first one that ends the loop. -/
theorem exists_readLoop (items : List WebSocketItem) :
    ∃ front back, items = front ++ back ∧ (∀ item ∈ front, item.ending? = none) ∧
      (back = [] ∨ ∃ item rest last, back = item :: rest ∧ item.ending? = some last ∧
        readLoop back = last) ∧
      readLoop items =
        (front.filterMap WebSocketItem.payload?).map OutboundPayload.received ++ readLoop back := by
  induction items with
  | nil => exact ⟨[], [], rfl, by simp, .inl rfl, rfl⟩
  | cons item items ih =>
    cases hending : item.ending? with
    | some last =>
      exact ⟨[], item :: items, rfl, by simp,
        .inr ⟨item, items, last, rfl, hending, readLoop_of_ending hending items⟩, rfl⟩
    | none =>
      obtain ⟨front, back, rfl, hfront, hback, -⟩ := ih
      have hcons : ∀ x ∈ item :: front, x.ending? = none :=
        List.forall_mem_cons.mpr ⟨hending, hfront⟩
      exact ⟨item :: front, back, rfl, hcons, hback, readLoop_append hcons back⟩

end Signalrr.Transport
