import Signalrr.Framing.MessageFormat
import Signalrr.Hub.MessagePack.Values

set_option relaxedAutoImplicit false
set_option autoImplicit false

/-!
# The MessagePack hub protocol

`src/hub/messagepack/parse.rs`, `write.rs` and `mod.rs`: a message is an array of its fields, framed
with its length.

## Main definitions

* `Signalrr.Hub.MessagePackProtocol.writeMessage` — one writer for each kind of message.
* `Signalrr.Hub.MessagePackProtocol.parseMessage` — one reader for each kind of message.
* `Signalrr.Hub.parseFrames` — the loop over the frames of a batch, for both MessagePack protocols.
* `Signalrr.Hub.MessagePackProtocol.parseMessages` — `parse_messages`.

## Design

The reader of a frame is a parameter of the loop, since the two MessagePack protocols differ in it
alone.
-/

namespace Signalrr.Hub

open Framing

namespace MessagePackProtocol

/-- `ERROR_RESULT`. -/
def errorResult : ℤ := 1

/-- `VOID_RESULT`. -/
def voidResult : ℤ := 2

/-- `NON_VOID_RESULT`. -/
def nonVoidResult : ℤ := 3

/-! ## Writing -/

/-- The type of a message as the first element of its array. -/
def typeValue (messageType : MessageType) : MessagePack.Value := intValue messageType.toNat

/-- `encode_array`. -/
def encodeArray (rmp : Rmp) (values : List MessagePack.Value) : Except ProtocolError Bytes :=
  match rmp.writeValue (.array values) with
  | .ok buffer => .ok buffer
  | .error error => .error (.messagePack ("failed to encode messagepack payload: " ++ error))

/-- `pack_payload`. -/
def packPayload (rmp : Rmp) (payload : List MessagePack.Value) : Except ProtocolError Bytes :=
  (encodeArray rmp payload).map BinaryMessageFormat.write

/-- The stream ids at the end of an invocation; nothing if there are none. -/
def streamIdsValue : Option (List String) → List MessagePack.Value
  | some (id :: ids) => [.array ((id :: ids).map stringValue)]
  | _ => []

/-- `write_ping`. -/
def writePing (rmp : Rmp) : Except ProtocolError Bytes := packPayload rmp [typeValue .ping]

/-- `write_cancel_invocation`. -/
def writeCancelInvocation (rmp : Rmp) (message : CancelInvocationMessage) :
    Except ProtocolError Bytes :=
  packPayload rmp
    [typeValue .cancelInvocation, headersValue message.headers, stringValue message.invocationId]

/-- The kind of result of a completion. -/
def resultKind (message : CompletionMessage) : ℤ :=
  if message.error.isSome then errorResult
  else if message.result.isSome then nonVoidResult
  else voidResult

/-- `write_completion`. -/
def writeCompletion (rmp : Rmp) (message : CompletionMessage) : Except ProtocolError Bytes :=
  let payload := [typeValue .completion, headersValue message.headers,
    stringValue message.invocationId, intValue (resultKind message)]
  let result :=
    if resultKind message = errorResult then [jsonToValue (message.error.map .string)]
    else if resultKind message = nonVoidResult then [jsonToValue message.result]
    else []
  packPayload rmp (payload ++ result)

/-- `write_stream_item`. -/
def writeStreamItem (rmp : Rmp) (message : StreamItemMessage) : Except ProtocolError Bytes :=
  packPayload rmp [typeValue .streamItem, headersValue message.headers,
    optionalStringValue message.invocationId, jsonToValue (some message.item)]

/-- `write_stream_invocation`. -/
def writeStreamInvocation (rmp : Rmp) (message : StreamInvocationMessage) :
    Except ProtocolError Bytes :=
  packPayload rmp ([typeValue .streamInvocation, headersValue message.headers,
    stringValue message.invocationId, stringValue message.target,
    jsonArrayValue message.arguments] ++ streamIdsValue message.streamIds)

/-- `write_invocation`. -/
def writeInvocation (rmp : Rmp) (message : InvocationMessage) : Except ProtocolError Bytes := do
  let arguments ← message.arguments.messagepackValue rmp
  packPayload rmp ([typeValue .invocation, headersValue message.headers,
    optionalStringValue message.invocationId, stringValue message.target, arguments] ++
      streamIdsValue message.streamIds)

/-- `write_close`: the fields of the message are not written. -/
def writeClose (rmp : Rmp) : Except ProtocolError Bytes := packPayload rmp [typeValue .close, .nil]

/-- `write_ack`. -/
def writeAck (rmp : Rmp) (message : AckMessage) : Except ProtocolError Bytes :=
  packPayload rmp [typeValue .ack, intValue message.sequenceId]

/-- `write_sequence`. -/
def writeSequence (rmp : Rmp) (message : SequenceMessage) : Except ProtocolError Bytes :=
  packPayload rmp [typeValue .sequence, intValue message.sequenceId]

/-- `write_message`. -/
def writeMessage (rmp : Rmp) : HubMessage → Except ProtocolError Bytes
  | .invocation message => writeInvocation rmp message
  | .streamInvocation message => writeStreamInvocation rmp message
  | .streamItem message => writeStreamItem rmp message
  | .completion message => writeCompletion rmp message
  | .ping => writePing rmp
  | .cancelInvocation message => writeCancelInvocation rmp message
  | .close _ => writeClose rmp
  | .ack message => writeAck rmp message
  | .sequence message => writeSequence rmp message

/-! ## Parsing one message -/

/-- `create_close_message`. -/
def createCloseMessage (data : List MessagePack.Value) : Except ProtocolError CloseMessage :=
  if data.length < 2 then .error (.invalidPayload "invalid payload for Close message")
  else do
    let error ← optionalString (data.getD 1 .nil)
    pure { error := error, allowReconnect := data[2]?.bind asBool }

/-- `create_ping_message`. -/
def createPingMessage (data : List MessagePack.Value) : Except ProtocolError Unit :=
  if data.isEmpty then .error (.invalidPayload "invalid payload for Ping message") else pure ()

/-- `create_completion_message`. -/
def createCompletionMessage (serde : SerdeJson) (data : List MessagePack.Value) :
    Except ProtocolError CompletionMessage :=
  if data.length < 4 then .error (.invalidPayload "invalid payload for Completion message")
  else do
    let headers ← createMessageHeaders data
    let resultKind ← valueToI64 (data.getD 3 .nil)
    if resultKind ≠ voidResult ∧ data.length < 5 then
      .error (.invalidPayload "invalid payload for Completion message")
    else do
      let invocationId ← valueToString (data.getD 2 .nil)
      if resultKind = errorResult then do
        let error ← optionalString (data[4]?.getD .nil)
        pure { headers := headers, invocationId := invocationId, error := error, result := none }
      else if resultKind = nonVoidResult then
        pure { headers := headers, invocationId := invocationId, error := none,
               result := data[4]?.map (valueToJson serde) }
      else
        pure { headers := headers, invocationId := invocationId, error := none, result := none }

/-- `create_stream_item_message`. -/
def createStreamItemMessage (serde : SerdeJson) (data : List MessagePack.Value) :
    Except ProtocolError StreamItemMessage :=
  if data.length < 4 then .error (.invalidPayload "invalid payload for StreamItem message")
  else do
    let headers ← createMessageHeaders data
    let invocationId ← optionalString (data.getD 2 .nil)
    pure { headers := headers, invocationId := invocationId,
           item := valueToJson serde (data.getD 3 .nil) }

/-- `create_invocation_message`: the stream ids are not read. -/
def createInvocationMessage (rmp : Rmp) (data : List MessagePack.Value)
    (rawArguments : Option Bytes) : Except ProtocolError InvocationMessage :=
  match decide (5 ≤ data.length), rawArguments with
  | true, some rawArguments => do
    let headers ← createMessageHeaders data
    let invocationId ← optionalString (data.getD 2 .nil)
    let target ← valueToString (data.getD 3 .nil)
    let arguments ← Arguments.fromMessagepack rmp rawArguments
    pure { headers := headers, invocationId := invocationId, target := target,
           arguments := arguments, streamIds := some [] }
  | _, _ => .error (.invalidPayload "invalid payload for Invocation message")

/-- `create_ack_message`. -/
def createAckMessage (data : List MessagePack.Value) : Except ProtocolError AckMessage :=
  if data.length < 2 then .error (.invalidPayload "invalid payload for Ack message")
  else do
    let sequenceId ← valueToI64 (data.getD 1 .nil)
    pure { sequenceId := sequenceId }

/-- `create_sequence_message`. -/
def createSequenceMessage (data : List MessagePack.Value) : Except ProtocolError SequenceMessage :=
  if data.length < 2 then .error (.invalidPayload "invalid payload for Sequence message")
  else do
    let sequenceId ← valueToI64 (data.getD 1 .nil)
    pure { sequenceId := sequenceId }

/-- `parse_message`: a message of a type that is not known, or that a client does not receive, is
ignored. -/
def parseMessage (rmp : Rmp) (serde : SerdeJson) (data : List MessagePack.Value)
    (rawArguments : Option Bytes) : Except ProtocolError (Option HubMessage) :=
  if data.isEmpty then .error (.invalidPayload "invalid payload")
  else do
    let messageType ← valueToI64 (data.getD 0 .nil)
    match MessageType.fromI32 (asI32 messageType) with
    | none => pure none
    | some .invocation => do
      let message ← createInvocationMessage rmp data rawArguments
      pure (some (.invocation message))
    | some .streamItem => do
      let message ← createStreamItemMessage serde data
      pure (some (.streamItem message))
    | some .completion => do
      let message ← createCompletionMessage serde data
      pure (some (.completion message))
    | some .ping => do
      createPingMessage data
      pure (some .ping)
    | some .close => do
      let message ← createCloseMessage data
      pure (some (.close message))
    | some .ack => do
      let message ← createAckMessage data
      pure (some (.ack message))
    | some .sequence => do
      let message ← createSequenceMessage data
      pure (some (.sequence message))
    | some .streamInvocation | some .cancelInvocation => pure none

end MessagePackProtocol

/-! ## Parsing a batch -/

/-- The loop of `parse_messages` over the frames of a batch, with what is done for one frame. -/
def parseFrames (parseFrame : Bytes → Checked (Option HubMessage)) :
    List Bytes → Checked (List HubMessage)
  | [] => pure []
  | frame :: frames =>
    if frame.isEmpty then throw (.invalidPayload "cannot encode message which is null")
    else do
      let message ← parseFrame frame
      let messages ← parseFrames parseFrame frames
      pure (message.toList ++ messages)

/-- `parse_messages` of a MessagePack protocol, with the error on text and what is done for one
frame. -/
def parseBatch (w : ℕ) (notBinary : String) (parseFrame : Bytes → Checked (Option HubMessage)) :
    HubProtocolInput → Checked (List HubMessage)
  | .text _ => throw (.invalidInput notBinary)
  | .binary bytes =>
    match BinaryMessageFormat.parse w bytes with
    | none => Checked.overflow
    | some (.error error) => throw (.framing error.toText)
    | some (.ok frames) =>
      if frames.isEmpty then throw (.invalidPayload "cannot encode message which is null")
      else parseFrames parseFrame frames

namespace MessagePackProtocol

/-- What `parse_messages` does for one frame. -/
def parseFrame (rmp : Rmp) (serde : SerdeJson) (w : ℕ) (frame : Bytes) :
    Checked (Option HubMessage) := do
  let (items, rawArguments) ← decodeMessage rmp w frame 4
  Checked.ofExcept (parseMessage rmp serde items rawArguments)

/-- `parse_messages`. -/
def parseMessages (rmp : Rmp) (serde : SerdeJson) (w : ℕ) :
    HubProtocolInput → Checked (List HubMessage) :=
  parseBatch w "invalid input for MessagePack hub protocol; expected binary"
    (parseFrame rmp serde w)

end MessagePackProtocol

end Signalrr.Hub
