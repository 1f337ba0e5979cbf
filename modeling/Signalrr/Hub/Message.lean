import Mathlib.Algebra.Group.Int.Defs
import Mathlib.Algebra.Group.Nat.Defs
import Mathlib.Data.List.Basic
import Mathlib.Data.Int.Notation

set_option relaxedAutoImplicit false
set_option autoImplicit false

/-!
# Hub messages and the hub protocol interface

The messages of `src/hub/message.rs`, the errors of `src/error.rs` and the trait of
`src/hub/protocol.rs`. A protocol is a parameter of every later result: what the client does
with a message does not depend on the bytes it is written to.

## Main definitions

* `Signalrr.Hub.HubMessage`, `Signalrr.Hub.MessageType` — the nine kinds of messages.
* `Signalrr.Hub.HubProtocol` — `write_message` and `parse_messages` of a hub protocol.
* `Signalrr.Hub.isInvocationMessage` — the messages a stateful connection numbers.
* `Signalrr.Hub.Frame`, `Signalrr.Hub.serialize` — the bytes of a message, together with the
  message they were written from.

## Design

`Frame.message` is not in the bytes. It records which message a payload was written from, so
that a statement about what the other side receives does not need the decoder of the protocol.
-/

namespace Signalrr.Hub

/-- A byte string. -/
abbrev Bytes := List UInt8

/-- A JSON number: an unsigned or a negative 64-bit integer, or the bits of a double. -/
inductive Number where
  | posInt (n : UInt64)
  | negInt (n : Int64)
  | float (bits : UInt64)
  deriving DecidableEq, Repr

/-- A JSON value. The members of an object are kept in order. -/
inductive Value where
  | null
  | bool (b : Bool)
  | number (n : Number)
  | string (s : String)
  | array (items : List Value)
  | object (members : List (String × Value))
  deriving Repr

/-- Invocation arguments: JSON values, or the raw MessagePack array they arrived as. -/
inductive Arguments where
  | json (values : List Value)
  | messagePack (bytes : Bytes)
  deriving Repr

/-- Message headers, an association list. -/
abbrev Headers := List (String × String)

/-- The numeric message types of the SignalR protocol. -/
inductive MessageType where
  | invocation
  | streamItem
  | completion
  | streamInvocation
  | cancelInvocation
  | ping
  | close
  | ack
  | sequence
  deriving DecidableEq, Repr

/-- The numeric identifier of a message type. -/
def MessageType.toNat : MessageType → ℕ
  | invocation => 1
  | streamItem => 2
  | completion => 3
  | streamInvocation => 4
  | cancelInvocation => 5
  | ping => 6
  | close => 7
  | ack => 8
  | sequence => 9

/-- `MessageType::from_i32`. -/
def MessageType.fromI32 : ℤ → Option MessageType
  | 1 => some invocation
  | 2 => some streamItem
  | 3 => some completion
  | 4 => some streamInvocation
  | 5 => some cancelInvocation
  | 6 => some ping
  | 7 => some close
  | 8 => some ack
  | 9 => some sequence
  | _ => none

/-- The lowest 32 bits of a 64-bit integer, as a signed integer: `as i32`. -/
def asI32 (n : ℤ) : ℤ := n.bmod (2 ^ 32)

/-- Every type is found under its number. -/
lemma MessageType.fromI32_toNat (t : MessageType) : fromI32 (asI32 t.toNat) = some t := by
  cases t <;> rfl

/-- A call of a hub method, in either direction. -/
structure InvocationMessage where
  headers : Headers := []
  invocationId : Option String
  target : String
  arguments : Arguments
  streamIds : Option (List String)
  deriving Repr

/-- A call of a hub method that answers with a stream. -/
structure StreamInvocationMessage where
  headers : Headers := []
  invocationId : String
  target : String
  arguments : List Value
  streamIds : Option (List String)
  deriving Repr

/-- One item of a stream. -/
structure StreamItemMessage where
  headers : Headers := []
  invocationId : Option String
  item : Value
  deriving Repr

/-- The end of an invocation or of a stream, with its result or its error. -/
structure CompletionMessage where
  headers : Headers := []
  invocationId : String
  error : Option String
  result : Option Value
  deriving Repr

/-- The request to stop a stream. -/
structure CancelInvocationMessage where
  headers : Headers := []
  invocationId : String
  deriving Repr

/-- The request to close the connection. -/
structure CloseMessage where
  error : Option String
  allowReconnect : Option Bool
  deriving Repr, DecidableEq

/-- The acknowledgement of all messages up to a sequence id. -/
structure AckMessage where
  sequenceId : ℤ
  deriving Repr, DecidableEq

/-- The number of the first message that follows on a reopened transport. -/
structure SequenceMessage where
  sequenceId : ℤ
  deriving Repr, DecidableEq

/-- All supported hub protocol messages. -/
inductive HubMessage where
  | invocation (message : InvocationMessage)
  | streamInvocation (message : StreamInvocationMessage)
  | streamItem (message : StreamItemMessage)
  | completion (message : CompletionMessage)
  | cancelInvocation (message : CancelInvocationMessage)
  | ping
  | close (message : CloseMessage)
  | ack (message : AckMessage)
  | sequence (message : SequenceMessage)
  deriving Repr

namespace HubMessage

/-- The type of a message. -/
def messageType : HubMessage → MessageType
  | invocation _ => .invocation
  | streamInvocation _ => .streamInvocation
  | streamItem _ => .streamItem
  | completion _ => .completion
  | cancelInvocation _ => .cancelInvocation
  | ping => .ping
  | close _ => .close
  | ack _ => .ack
  | sequence _ => .sequence

/-- The sequence id of a `Sequence` message. -/
def sequenceId? : HubMessage → Option ℤ
  | sequence message => some message.sequenceId
  | _ => none

/-- Only a `Sequence` message has a sequence id. -/
lemma eq_of_sequenceId? {m : HubMessage} {k : ℤ} (h : m.sequenceId? = some k) :
    m = sequence ⟨k⟩ := by
  cases m <;> simp [sequenceId?] at h
  rw [← h]

/-- The sequence id of an `Ack` message. -/
def ackId? : HubMessage → Option ℤ
  | ack message => some message.sequenceId
  | _ => none

end HubMessage

/-- The messages that are numbered and buffered on a stateful connection. -/
def isInvocationMessage (message : HubMessage) : Bool :=
  match message.messageType with
  | .invocation | .streamInvocation | .streamItem | .completion | .cancelInvocation => true
  | .ping | .close | .ack | .sequence => false

/-- An invocation-type message carries no sequence id. -/
lemma sequenceId?_of_isInvocationMessage {m : HubMessage} (h : isInvocationMessage m = true) :
    m.sequenceId? = none := by
  cases m <;> first | rfl | simp [isInvocationMessage, HubMessage.messageType] at h

/-- An invocation-type message is no `Ack`. -/
lemma ackId?_of_isInvocationMessage {m : HubMessage} (h : isInvocationMessage m = true) :
    m.ackId? = none := by
  cases m <;> first | rfl | simp [isInvocationMessage, HubMessage.messageType] at h

/-! ## Errors -/

/-- Errors of encoding or decoding hub protocol messages. -/
inductive ProtocolError where
  | invalidInput (message : String)
  | invalidPayload (message : String)
  | messagePack (message : String)
  | json (message : String)
  | framing (message : String)
  deriving DecidableEq, Repr

/-- The text of a protocol error. -/
def ProtocolError.toText : ProtocolError → String
  | invalidInput message => "invalid input: " ++ message
  | invalidPayload message => "invalid payload: " ++ message
  | messagePack message => "messagepack error: " ++ message
  | json message => message
  | framing message => message

/-- Errors of the client. -/
inductive Error where
  | urlParse (message : String)
  | http (message : String)
  | webSocket (message : String)
  | negotiate (message : String)
  | unauthorized (message : String)
  | handshake (message : String)
  | framing (message : String)
  | json (message : String)
  | notConnected
  | canceled
  | invocation (message : String)
  | aborted (message : String)
  | invalidState (message : String)
  | protocol (message : String)
  | invalidArguments (message : String)
  deriving DecidableEq, Repr

/-- The text of an error. -/
def Error.toText : Error → String
  | urlParse message => "URL parse error: " ++ message
  | http message => "HTTP request failed: " ++ message
  | webSocket message => "WebSocket error: " ++ message
  | negotiate message => "negotiate failed: " ++ message
  | unauthorized message => "unauthorized: " ++ message
  | handshake message => "handshake failed: " ++ message
  | framing message => "framing error: " ++ message
  | json message => "JSON error: " ++ message
  | notConnected => "not connected"
  | canceled => "invocation canceled"
  | invocation message => "invocation error: " ++ message
  | aborted message => "connection aborted: " ++ message
  | invalidState message => "invalid connection state: " ++ message
  | protocol message => "protocol error: " ++ message
  | invalidArguments message => "invalid invocation arguments: " ++ message

/-! ## Protocols -/

/-- Wire format selected during negotiate and handshake. -/
inductive TransferFormat where
  | text
  | binary
  deriving DecidableEq, Repr

/-- What a hub protocol is given to parse. -/
inductive HubProtocolInput where
  | text (text : String)
  | binary (bytes : Bytes)

/-- A hub protocol implementation. -/
structure HubProtocol where
  name : String
  version : ℤ
  transferFormat : TransferFormat
  parseMessages : HubProtocolInput → Except ProtocolError (List HubMessage)
  writeMessage : HubMessage → Except ProtocolError Bytes

/-- A protocol that writes the type of a message and nothing else, for runs that do not read
payloads. -/
def HubProtocol.typeOnly : HubProtocol where
  name := "type-only"
  version := 1
  transferFormat := .binary
  parseMessages := fun _ => .error (.invalidInput "write only")
  writeMessage := fun message => .ok [message.messageType.toNat.toUInt8]

/-- A serialized message, with the message it was written from. -/
structure Frame where
  message : HubMessage
  payload : Bytes

/-- Writing a message with the protocol, a failure as the error the client reports. -/
def serialize (protocol : HubProtocol) (message : HubMessage) : Except Error Frame :=
  match protocol.writeMessage message with
  | .ok payload => .ok ⟨message, payload⟩
  | .error error => .error (.protocol error.toText)

/-- A serialized message records the message it was written from. -/
lemma message_of_serialize {protocol : HubProtocol} {m : HubMessage} {f : Frame}
    (h : serialize protocol m = .ok f) : f.message = m := by
  unfold serialize at h
  split at h
  · cases h
    rfl
  · cases h

end Signalrr.Hub
