import Signalrr.Hub.MessagePack.Protocol

set_option relaxedAutoImplicit false
set_option autoImplicit false

/-!
# The MessagePack+Brotli hub protocol

`src/hub/messagepack/brotli/parse.rs`, `write.rs` and `mod.rs`: in front of the arguments, the item
or the result of a message stands a flag; if it is one, the payload is compressed. The client writes
nothing compressed.

## Main definitions

* `Signalrr.Hub.BrotliDecoder` — the decoder of the protocol, a parameter.
* `Signalrr.Hub.MessagePackBrotliProtocol.unpackData` — a payload and its flag.
* `Signalrr.Hub.MessagePackBrotliProtocol.writeMessage`, `parseMessage`, `parseMessages` — the
  protocol.
-/

namespace Signalrr.Hub

/-- The trait `BrotliDecoder`: its `decode`. -/
abbrev BrotliDecoder := Bytes → Except ProtocolError Bytes

namespace MessagePackBrotliProtocol

open MessagePackProtocol

/-! ## Writing -/

/-- `write_invocation_brotli`. -/
def writeInvocationBrotli (rmp : Rmp) (message : InvocationMessage) :
    Except ProtocolError Bytes := do
  let arguments ← message.arguments.messagepackValue rmp
  packPayload rmp ([typeValue .invocation, headersValue message.headers,
    optionalStringValue message.invocationId, stringValue message.target, intValue 0, arguments] ++
      streamIdsValue message.streamIds)

/-- `write_stream_invocation_brotli`. -/
def writeStreamInvocationBrotli (rmp : Rmp) (message : StreamInvocationMessage) :
    Except ProtocolError Bytes :=
  packPayload rmp ([typeValue .streamInvocation, headersValue message.headers,
    stringValue message.invocationId, stringValue message.target, intValue 0,
    jsonArrayValue message.arguments] ++ streamIdsValue message.streamIds)

/-- `write_stream_item_brotli`. -/
def writeStreamItemBrotli (rmp : Rmp) (message : StreamItemMessage) : Except ProtocolError Bytes :=
  packPayload rmp [typeValue .streamItem, headersValue message.headers,
    optionalStringValue message.invocationId, intValue 0, jsonToValue (some message.item)]

/-- `write_completion_brotli`. -/
def writeCompletionBrotli (rmp : Rmp) (message : CompletionMessage) : Except ProtocolError Bytes :=
  let payload := [typeValue .completion, headersValue message.headers,
    stringValue message.invocationId, intValue (resultKind message)]
  let result :=
    if resultKind message = errorResult then
      [intValue 0, jsonToValue (message.error.map .string)]
    else if resultKind message = nonVoidResult then [intValue 0, jsonToValue message.result]
    else []
  packPayload rmp (payload ++ result)

/-- `write_message`. -/
def writeMessage (rmp : Rmp) : HubMessage → Except ProtocolError Bytes
  | .invocation message => writeInvocationBrotli rmp message
  | .streamInvocation message => writeStreamInvocationBrotli rmp message
  | .streamItem message => writeStreamItemBrotli rmp message
  | .completion message => writeCompletionBrotli rmp message
  | .ping => writePing rmp
  | .cancelInvocation message => writeCancelInvocation rmp message
  | .close _ => writeClose rmp
  | .ack message => writeAck rmp message
  | .sequence message => writeSequence rmp message

/-! ## Parsing -/

/-- The bytes of integers; `as u8` keeps the lowest byte of each. -/
def itemBytes : List MessagePack.Value → Option Bytes
  | [] => some []
  | item :: items =>
    (asU64 item).bind fun byte => (itemBytes items).map fun bytes => UInt8.ofNat byte :: bytes

/-- `value_to_bytes`. -/
def valueToBytes : MessagePack.Value → Option Bytes
  | .binary bytes => some bytes
  | .array items => itemBytes items
  | _ => none

/-- `unpack_data`. -/
def unpackData (rmp : Rmp) (decoder : BrotliDecoder) (data : Option MessagePack.Value)
    (isCompressed : Bool) : Except ProtocolError (Option MessagePack.Value) :=
  match data with
  | none => pure none
  | some data =>
    if isCompressed then
      match valueToBytes data with
      | none => pure none
      | some bytes => do
        let decoded ← decoder bytes
        match rmp.readValue decoded with
        | .ok (value, _) => pure (some value)
        | .error error =>
          .error (.messagePack ("failed to decode brotli payload: " ++ error))
    else pure (some data)

/-- The flag in front of a payload. -/
def isCompressed (flag : Option MessagePack.Value) : Bool := flag.bind asI64 == some 1

/-- `create_completion_message`. -/
def createCompletionMessage (rmp : Rmp) (serde : SerdeJson) (decoder : BrotliDecoder)
    (data : List MessagePack.Value) : Except ProtocolError CompletionMessage :=
  if data.length < 4 then .error (.invalidPayload "invalid payload for Completion message")
  else do
    let headers ← createMessageHeaders data
    let resultKind ← valueToI64 (data.getD 3 .nil)
    if resultKind ≠ voidResult ∧ data.length < 5 then
      .error (.invalidPayload "invalid payload for Completion message")
    else do
      let invocationId ← valueToString (data.getD 2 .nil)
      if resultKind = errorResult ∨ resultKind = nonVoidResult then do
        let unpacked ← unpackData rmp decoder data[5]? (isCompressed data[4]?)
        if resultKind = errorResult then
          pure { headers := headers, invocationId := invocationId,
                 error := unpacked.bind asStr, result := none }
        else
          pure { headers := headers, invocationId := invocationId, error := none,
                 result := unpacked.map (valueToJson serde) }
      else
        pure { headers := headers, invocationId := invocationId, error := none, result := none }

/-- `create_stream_item_message`. -/
def createStreamItemMessage (rmp : Rmp) (serde : SerdeJson) (decoder : BrotliDecoder)
    (data : List MessagePack.Value) : Except ProtocolError StreamItemMessage :=
  if data.length < 5 then .error (.invalidPayload "invalid payload for StreamItem message")
  else do
    let unpacked ← unpackData rmp decoder data[4]? (isCompressed data[3]?)
    let headers ← createMessageHeaders data
    let invocationId ← optionalString (data.getD 2 .nil)
    pure { headers := headers, invocationId := invocationId,
           item := (unpacked.map (valueToJson serde)).getD .null }

/-- The arguments of an invocation from their encoding, which is the encoding of compressed bytes if
the flag is set. -/
def unpackArguments (rmp : Rmp) (decoder : BrotliDecoder) (rawArguments : Option Bytes)
    (isCompressed : Bool) : Except ProtocolError Arguments :=
  match rawArguments with
  | none => pure (.json [])
  | some raw =>
    if isCompressed then
      match rmp.readValue raw with
      | .error error => .error (.messagePack ("failed to decode arguments: " ++ error))
      | .ok (packed, _) =>
        match valueToBytes packed with
        | none => .error (.invalidPayload "compressed arguments are not binary")
        | some bytes => do
          let decoded ← decoder bytes
          Arguments.fromMessagepack rmp decoded
    else Arguments.fromMessagepack rmp raw

/-- `create_invocation_message`. -/
def createInvocationMessage (rmp : Rmp) (decoder : BrotliDecoder) (data : List MessagePack.Value)
    (rawArguments : Option Bytes) : Except ProtocolError InvocationMessage :=
  if data.length < 5 then .error (.invalidPayload "invalid payload for Invocation message")
  else do
    let arguments ← unpackArguments rmp decoder rawArguments (isCompressed data[4]?)
    let headers ← createMessageHeaders data
    let invocationId ← optionalString (data.getD 2 .nil)
    let target ← valueToString (data.getD 3 .nil)
    pure { headers := headers, invocationId := invocationId, target := target,
           arguments := arguments, streamIds := some [] }

/-- `create_stream_invocation_message`. -/
def createStreamInvocationMessage (rmp : Rmp) (serde : SerdeJson) (decoder : BrotliDecoder)
    (data : List MessagePack.Value) : Except ProtocolError StreamInvocationMessage :=
  if data.length < 6 then .error (.invalidPayload "invalid payload for StreamInvocation message")
  else do
    let unpacked ← unpackData rmp decoder data[5]? (isCompressed data[4]?)
    let arguments ←
      match unpacked with
      | some value => valueToJsonArray serde value
      | none => pure []
    let headers ← createMessageHeaders data
    let invocationId ← valueToString (data.getD 2 .nil)
    let target ← valueToString (data.getD 3 .nil)
    pure { headers := headers, invocationId := invocationId, target := target,
           arguments := arguments, streamIds := some [] }

/-- `parse_message`. -/
def parseMessage (rmp : Rmp) (serde : SerdeJson) (decoder : BrotliDecoder)
    (data : List MessagePack.Value) (rawArguments : Option Bytes) :
    Except ProtocolError (Option HubMessage) :=
  if data.isEmpty then .error (.invalidPayload "invalid payload")
  else do
    let messageType ← valueToI64 (data.getD 0 .nil)
    match MessageType.fromI32 (asI32 messageType) with
    | none => pure none
    | some .invocation => do
      let message ← createInvocationMessage rmp decoder data rawArguments
      pure (some (.invocation message))
    | some .streamInvocation => do
      let message ← createStreamInvocationMessage rmp serde decoder data
      pure (some (.streamInvocation message))
    | some .streamItem => do
      let message ← createStreamItemMessage rmp serde decoder data
      pure (some (.streamItem message))
    | some .completion => do
      let message ← createCompletionMessage rmp serde decoder data
      pure (some (.completion message))
    | some .ping => do
      createPingMessage data
      pure (some .ping)
    | some .close => do
      let message ← createCloseMessage data
      pure (some (.close message))
    | some .ack => do
      let message ← createAckMessage data
      pure (some (.ack message))
    | some .sequence => do
      let message ← createSequenceMessage data
      pure (some (.sequence message))
    | some .cancelInvocation => pure none

/-- What `parse_messages` does for one frame. -/
def parseFrame (rmp : Rmp) (serde : SerdeJson) (decoder : BrotliDecoder) (w : ℕ) (frame : Bytes) :
    Checked (Option HubMessage) := do
  let (items, rawArguments) ← decodeMessage rmp w frame 5
  if items.isEmpty then throw (.invalidPayload "cannot encode message which is null")
  else Checked.ofExcept (parseMessage rmp serde decoder items rawArguments)

/-- `parse_messages`. -/
def parseMessages (rmp : Rmp) (serde : SerdeJson) (decoder : BrotliDecoder) (w : ℕ) :
    HubProtocolInput → Checked (List HubMessage) :=
  parseBatch w "invalid input for MessagePack+Brotli hub protocol; expected binary"
    (parseFrame rmp serde decoder w)

end MessagePackBrotliProtocol

end Signalrr.Hub
