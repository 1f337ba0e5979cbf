import Mathlib.Data.List.Forall2
import Signalrr.Hub.MessagePack.Brotli

set_option relaxedAutoImplicit false
set_option autoImplicit false

/-!
# MessagePack round trips

What the writers of both MessagePack protocols write, their readers read back, message by message
and in batches.

## Main definitions

* `Signalrr.Hub.Encodable` — the messages that are written and read without loss.
* `Signalrr.Hub.ReadsBack` — a reader of frames reads a written message back.

## Main results

* `Signalrr.Hub.MessagePackProtocol.readsBack`, `Signalrr.Hub.MessagePackBrotliProtocol.readsBack` —
  every encodable message is read back.
* `Signalrr.Hub.parse_written` — batches of encodable messages are read back in order.

## Design

A message is first turned into the list of its elements, so that the framing, the encoding of the
list and the reading of the elements are separate steps.
-/

namespace Signalrr.Hub

open Framing
open MessagePack (Encodes Header)

/-! ## Packing and unpacking -/

section Packing

variable {rmp : Rmp}

/-- Packing a list of elements: the encoding of the array, framed with its length. -/
lemma packPayload_ok (hlaw : rmp.Lawful) (xs : List MessagePack.Value) :
    ∃ packed, MessagePackProtocol.packPayload rmp xs = .ok (BinaryMessageFormat.write packed) ∧
      (packed.length < 2 ^ 31 → Encodes [.array xs] packed) := by
  obtain ⟨packed, hpacked⟩ := hlaw.writeValue_ok (.array xs)
  refine ⟨packed, ?_, fun hlen => hlaw.encodes_writeValue hpacked (by omega)⟩
  rw [MessagePackProtocol.packPayload, MessagePackProtocol.encodeArray, hpacked]
  rfl

/-- The loop over frames that are all read. -/
lemma parseFrames_eq {parseFrame : Bytes → Checked (Option HubMessage)} {packeds : List Bytes}
    {ms : List HubMessage} (hne : ∀ p ∈ packeds, p ≠ [])
    (h : List.Forall₂ (fun p m => parseFrame p = pure (some m)) packeds ms) :
    parseFrames parseFrame packeds = pure ms := by
  induction h with
  | nil => rfl
  | @cons p m packeds ms hp _ ih =>
    obtain ⟨hpne, hne⟩ := List.forall_mem_cons.mp hne
    rw [parseFrames, if_neg (by simpa using hpne), hp, ih hne]
    rfl

/-- A batch of frames that are all read. -/
lemma parseBatch_write {w : ℕ} (hw : w = 32 ∨ w = 64) {notBinary : String}
    {parseFrame : Bytes → Checked (Option HubMessage)} {packeds : List Bytes} {ms : List HubMessage}
    (hsome : packeds ≠ []) (hne : ∀ p ∈ packeds, p ≠ []) (hsmall : ∀ p ∈ packeds, p.length < 2 ^ 31)
    (hlen : (packeds.flatMap BinaryMessageFormat.write).length < 2 ^ (w - 1))
    (h : List.Forall₂ (fun p m => parseFrame p = pure (some m)) packeds ms) :
    parseBatch w notBinary parseFrame (.binary (packeds.flatMap BinaryMessageFormat.write)) =
      pure ms := by
  have hframes := BinaryMessageFormat.parse_of_frames hw hlen
    (BinaryMessageFormat.frames_write hsmall)
  rw [parseBatch, hframes]
  simp only [List.isEmpty_iff, if_neg hsome]
  exact parseFrames_eq hne h

/-- A batch of one frame. -/
lemma parseBatch_single {w : ℕ} (hw : w = 32 ∨ w = 64) {notBinary : String}
    {parseFrame : Bytes → Checked (Option HubMessage)} {packed : Bytes} (hne : packed ≠ [])
    (hlen : packed.length < 2 ^ 31)
    (hfit : (BinaryMessageFormat.write packed).length < 2 ^ (w - 1)) :
    parseBatch w notBinary parseFrame (.binary (BinaryMessageFormat.write packed)) =
      parseFrame packed >>= fun message => pure message.toList := by
  have hsmall : ∀ p ∈ [packed], p.length < 2 ^ 31 := by simpa using hlen
  have hframes : Frames ([packed].flatMap BinaryMessageFormat.write) [packed] :=
    BinaryMessageFormat.frames_write hsmall
  rw [List.flatMap_singleton] at hframes
  rw [parseBatch, BinaryMessageFormat.parse_of_frames hw hfit hframes]
  simp [parseFrames, hne]

end Packing

namespace MessagePackProtocol

section Unpacking

variable {rmp : Rmp} {w k : ℕ}

/-- A packed message that is no invocation is decoded to its elements. -/
lemma decodeMessage_packed (hlaw : rmp.Lawful) {xs : List MessagePack.Value} {packed : Bytes}
    (h : Encodes [.array xs] packed) (hdepth : ∀ x ∈ xs, x.depth < Rmp.maxDepth)
    (hplain : ¬ isInvocation xs) : decodeMessage rmp w packed k = pure (xs, none) := by
  obtain ⟨p, inner, rfl, hp, hinner⟩ := h.array_inv
  have hdecode := decodeMessage_plain (w := w) (k := k) hlaw hp hinner hdepth (fun _ => hplain) []
  rwa [List.append_nil] at hdecode

/-- A packed invocation is decoded to its elements, with the arguments left encoded. -/
lemma decodeMessage_packed_invocation (hlaw : rmp.Lawful) (hw : 32 ≤ w)
    {front back : List MessagePack.Value} {x : MessagePack.Value} {packed : Bytes}
    (h : Encodes [.array (front ++ x :: back)] packed) (hk : front.length = k)
    (hfront : isInvocation front) (hfrontDepth : ∀ y ∈ front, y.depth < Rmp.maxDepth)
    (hdepth : x.depth ≤ maxDepth) (hbackDepth : ∀ y ∈ back, y.depth < Rmp.maxDepth)
    (hlen : packed.length < 2 ^ w) :
    ∃ raw, Encodes [x] raw ∧
      decodeMessage rmp w packed k = pure (front ++ .nil :: back, some raw) := by
  obtain ⟨p, inner, rfl, hp, hinner⟩ := h.array_inv
  obtain ⟨a, tail, rfl, ha, htail⟩ := hinner.append_inv
  obtain ⟨raw, b, rfl, hraw, hb⟩ := htail.cons_inv
  have hfit : raw.length < 2 ^ w := by
    simp only [List.length_append] at hlen
    omega
  have hdecode := decodeMessage_invocation hlaw hw hp ha hraw hb hfront hfrontDepth hdepth
    hbackDepth (.inr hfit) []
  rw [List.append_nil, hk] at hdecode
  exact ⟨raw, hraw, hdecode⟩

end Unpacking

/-! ## The elements of a message -/

/-- The type of a message is read back. -/
@[simp] lemma valueToI64_typeValue (t : MessageType) :
    valueToI64 (typeValue t) = .ok (t.toNat : ℤ) := by
  have ht : t.toNat < 10 := by cases t <;> decide
  rw [valueToI64, typeValue, asI64_intValue (by omega) (by omega)]

/-- An integer is read back. -/
lemma valueToI64_intValue {n : ℤ} (hlow : -2 ^ 63 ≤ n) (hhigh : n < 2 ^ 63) :
    valueToI64 (intValue n) = .ok n := by
  rw [valueToI64, asI64_intValue hlow hhigh]

/-- Only the elements of an invocation begin with its type. -/
lemma isInvocation_typeValue {t : MessageType} {xs : List MessagePack.Value} :
    isInvocation (typeValue t :: xs) ↔ t = .invocation := by
  have ht : t.toNat < 10 := by cases t <;> decide
  rw [isInvocation, List.head?_cons, Option.bind_some, typeValue,
    asI64_intValue (by omega) (by omega), Option.some_inj]
  cases t <;> simp [MessageType.toNat]

end MessagePackProtocol

/-- Messages that are written and read without loss: the kinds that a client writes and receives,
with what the types of their fields guarantee (distinct header keys, valid JSON, 64-bit sequence
ids) and payloads that are nested at most 511 deep. An invocation has no stream ids and JSON
arguments; a completion has not both an error and a result. -/
def Encodable : HubMessage → Prop
  | .invocation message =>
    (message.headers.map Prod.fst).Nodup ∧ message.streamIds.getD [] = [] ∧
      ∃ values, message.arguments = .json values ∧ ∀ j ∈ values, j.Valid ∧ j.depth ≤ 511
  | .streamItem message =>
    (message.headers.map Prod.fst).Nodup ∧ message.item.Valid ∧ message.item.depth ≤ 511
  | .completion message =>
    (message.headers.map Prod.fst).Nodup ∧ (message.error = none ∨ message.result = none) ∧
      ∀ j, message.result = some j → j.Valid ∧ j.depth ≤ 511
  | .ping => True
  | .ack message => -2 ^ 63 ≤ message.sequenceId ∧ message.sequenceId < 2 ^ 63
  | .sequence message => -2 ^ 63 ≤ message.sequenceId ∧ message.sequenceId < 2 ^ 63
  | .streamInvocation _ | .cancelInvocation _ | .close _ => False

/-- A written message is packed, and a reader of frames reads the same message back from it. -/
def ReadsBack (rmp : Rmp) (serde : SerdeJson)
    (writeMessage : HubMessage → Except ProtocolError Bytes)
    (parseFrame : Bytes → Checked (Option HubMessage)) (message : HubMessage) : Prop :=
  ∃ packed, writeMessage message = .ok (BinaryMessageFormat.write packed) ∧
    (packed.length < 2 ^ 31 → packed ≠ [] ∧
      ∃ message', parseFrame packed = pure (some message') ∧ message.Same rmp serde message')

section ReadsBack

open MessagePackProtocol

variable {rmp : Rmp} {serde : SerdeJson} {w k : ℕ} {message : HubMessage}
  {writeMessage : HubMessage → Except ProtocolError Bytes}
  {parseFrame : Bytes → Checked (Option HubMessage)}
  {parse : List MessagePack.Value → Option Bytes → Except ProtocolError (Option HubMessage)}

/-- Reading a frame is decoding it, with the arguments of an invocation at `k`, and parsing its
elements. -/
def DecodesThenParses (rmp : Rmp) (w k : ℕ) (parseFrame : Bytes → Checked (Option HubMessage))
    (parse : List MessagePack.Value → Option Bytes → Except ProtocolError (Option HubMessage)) :
    Prop :=
  ∀ {packed item items raw}, decodeMessage rmp w packed k = pure (item :: items, raw) →
    parseFrame packed = Checked.ofExcept (parse (item :: items) raw)

/-- A message whose elements are all decoded is read back from them. -/
lemma readsBack_of_plain (hlaw : rmp.Lawful) (hframe : DecodesThenParses rmp w k parseFrame parse)
    {t : MessageType} {xs : List MessagePack.Value}
    (hwrite : writeMessage message = packPayload rmp (typeValue t :: xs))
    (hdepth : ∀ x ∈ xs, x.depth < Rmp.maxDepth) (hplain : t ≠ .invocation)
    (hparse : ∃ message', parse (typeValue t :: xs) none = .ok (some message') ∧
      message.Same rmp serde message') :
    ReadsBack rmp serde writeMessage parseFrame message := by
  obtain ⟨packed, hpacked, hencodes⟩ := packPayload_ok hlaw (typeValue t :: xs)
  obtain ⟨message', hparse, hsame⟩ := hparse
  refine ⟨packed, hwrite.trans hpacked, fun hlen => ⟨?_, message', ?_, hsame⟩⟩
  · rintro rfl
    exact absurd (hencodes hlen).length_le (by simp)
  · have hdepths : ∀ x ∈ typeValue t :: xs, x.depth < Rmp.maxDepth :=
      List.forall_mem_cons.mpr ⟨Nat.succ_pos _, hdepth⟩
    rw [hframe (decodeMessage_packed hlaw (hencodes hlen) hdepths
      (isInvocation_typeValue.not.mpr hplain)), hparse, Checked.ofExcept_ok]

/-- An invocation is read back from its elements and its encoded arguments. -/
lemma readsBack_of_invocation (hlaw : rmp.Lawful) (hw : 32 ≤ w)
    (hframe : DecodesThenParses rmp w k parseFrame parse) (front : List MessagePack.Value)
    (x : MessagePack.Value)
    (hwrite : writeMessage message = packPayload rmp ((typeValue .invocation :: front) ++ [x]))
    (hk : (typeValue .invocation :: front).length = k)
    (hfront : ∀ y ∈ front, y.depth < Rmp.maxDepth)
    (hdepth : x.depth ≤ maxDepth)
    (hparse : ∀ raw, Encodes [x] raw → ∃ message',
      parse (typeValue .invocation :: (front ++ [.nil])) (some raw) = .ok (some message') ∧
        message.Same rmp serde message') :
    ReadsBack rmp serde writeMessage parseFrame message := by
  obtain ⟨packed, hpacked, hencodes⟩ :=
    packPayload_ok hlaw ((typeValue .invocation :: front) ++ [x])
  refine ⟨packed, hwrite.trans hpacked, fun hlen => ⟨?_, ?_⟩⟩
  · rintro rfl
    exact absurd (hencodes hlen).length_le (by simp)
  · have hdepths : ∀ y ∈ typeValue .invocation :: front, y.depth < Rmp.maxDepth :=
      List.forall_mem_cons.mpr ⟨Nat.succ_pos _, hfront⟩
    have hword : 2 ^ 31 ≤ 2 ^ w := Nat.pow_le_pow_right (by decide) (by omega)
    obtain ⟨raw, hraw, hdecode⟩ := decodeMessage_packed_invocation hlaw hw (hencodes hlen) hk
      (isInvocation_typeValue.mpr rfl) hdepths hdepth (by simp) (by omega)
    obtain ⟨message', hparse, hsame⟩ := hparse raw hraw
    exact ⟨message', by rw [hframe hdecode]; exact congrArg Checked.ofExcept hparse, hsame⟩

/-- Arguments that are read back from the encoding of their array are the same. -/
lemma same_arguments (hlaw : rmp.Lawful) (hserde : serde.InvertsJson) {values : List Value}
    (hvalues : ∀ j ∈ values, j.Valid ∧ j.depth ≤ 511) {raw : Bytes}
    (hraw : Encodes [jsonArrayValue values] raw) :
    (Arguments.json values).Same rmp serde (.messagePack raw) := by
  have hdepth : (jsonArrayValue values).depth < Rmp.maxDepth :=
    Nat.lt_of_le_of_lt (depth_jsonArrayValue fun j hj => Nat.lt_succ_of_le (hvalues j hj).2)
      (by decide)
  refine ⟨values, rfl, ?_⟩
  rw [Arguments.jsonValues_messagePack hlaw serde hraw hdepth,
    valueToJsonArray_jsonArrayValue hserde fun j hj => (hvalues j hj).1]

/-- Headers are not nested too deep. -/
lemma depth_headersValue_lt (headers : Headers) : (headersValue headers).depth < Rmp.maxDepth :=
  Nat.lt_of_le_of_lt (depth_headersValue headers) (by decide)

/-- A stream item is read back if its fields are, with or without a flag in front of the item. -/
lemma readsBack_streamItem (hlaw : rmp.Lawful) (hframe : DecodesThenParses rmp w k parseFrame parse)
    (flag : List MessagePack.Value) {m : StreamItemMessage} (hdepth : m.item.depth ≤ 511)
    (hflag : ∀ x ∈ flag, x.depth = 0)
    (hwrite : writeMessage (.streamItem m) =
      packPayload rmp (typeValue .streamItem :: headersValue m.headers ::
        optionalStringValue m.invocationId :: (flag ++ [jsonToValue (some m.item)])))
    (hparse : parse (typeValue .streamItem :: headersValue m.headers ::
        optionalStringValue m.invocationId :: (flag ++ [jsonToValue (some m.item)])) none =
      .ok (some (.streamItem m))) :
    ReadsBack rmp serde writeMessage parseFrame (.streamItem m) := by
  refine readsBack_of_plain hlaw hframe hwrite ?_ (by decide)
    ⟨.streamItem m, hparse, Headers.Same.refl _, rfl, rfl⟩
  have hzero : 0 < Rmp.maxDepth := by decide
  have hitem : (jsonToValue (some m.item)).depth < Rmp.maxDepth := by
    rw [jsonToValue, depth_jsonValue]
    exact Nat.lt_of_le_of_lt hdepth (by decide)
  have hflags : ∀ x ∈ flag, x.depth < Rmp.maxDepth := fun x hx => (hflag x hx).trans_lt hzero
  simp only [List.forall_mem_cons, List.forall_mem_append, depth_optionalStringValue]
  exact ⟨depth_headersValue_lt _, hzero, hflags, hitem, by simp⟩

/-- A completion is read back if its fields are. -/
lemma readsBack_completion (hlaw : rmp.Lawful) (hframe : DecodesThenParses rmp w k parseFrame parse)
    {m : CompletionMessage} {result : List MessagePack.Value}
    (hdepth : ∀ x ∈ result, x.depth < Rmp.maxDepth)
    (hwrite : writeMessage (.completion m) =
      packPayload rmp (typeValue .completion :: headersValue m.headers ::
        stringValue m.invocationId :: intValue (resultKind m) :: result))
    (hparse : parse (typeValue .completion :: headersValue m.headers ::
        stringValue m.invocationId :: intValue (resultKind m) :: result) none =
      .ok (some (.completion m))) :
    ReadsBack rmp serde writeMessage parseFrame (.completion m) := by
  refine readsBack_of_plain hlaw hframe hwrite ?_ (by decide)
    ⟨.completion m, hparse, Headers.Same.refl _, rfl, rfl, rfl⟩
  have hzero : 0 < Rmp.maxDepth := by decide
  simp only [List.forall_mem_cons, depth_stringValue, depth_intValue]
  exact ⟨depth_headersValue_lt _, hzero, hzero, hdepth⟩

/-- An invocation is read back if its fields are, with or without a flag in front of the arguments;
the arguments are read from their encoding. -/
lemma readsBack_invocation (hlaw : rmp.Lawful) (hserde : serde.InvertsJson) (hw : 32 ≤ w)
    (hframe : DecodesThenParses rmp w k parseFrame parse) (flag : List MessagePack.Value)
    {m : InvocationMessage} (hids : m.streamIds.getD [] = []) {values : List Value}
    (harguments : m.arguments = .json values) (hvalues : ∀ j ∈ values, j.Valid ∧ j.depth ≤ 511)
    (hflag : ∀ x ∈ flag, x.depth = 0) (hk : flag.length + 4 = k)
    (hwrite : writeMessage (.invocation m) =
      packPayload rmp ((typeValue .invocation :: headersValue m.headers ::
        optionalStringValue m.invocationId :: stringValue m.target :: flag) ++
          [jsonArrayValue values]))
    (hparse : ∀ raw, Encodes [jsonArrayValue values] raw →
      parse (typeValue .invocation :: headersValue m.headers ::
        optionalStringValue m.invocationId :: stringValue m.target :: (flag ++ [.nil])) (some raw) =
          .ok (some (.invocation { m with arguments := .messagePack raw, streamIds := some [] }))) :
    ReadsBack rmp serde writeMessage parseFrame (.invocation m) := by
  refine readsBack_of_invocation hlaw hw hframe (headersValue m.headers ::
    optionalStringValue m.invocationId :: stringValue m.target :: flag) (jsonArrayValue values)
    hwrite ?_ ?_ ?_ ?_
  · simp only [List.length_cons]
    omega
  · have hzero : 0 < Rmp.maxDepth := by decide
    have hflags : ∀ x ∈ flag, x.depth < Rmp.maxDepth := fun x hx => (hflag x hx).trans_lt hzero
    simp only [List.forall_mem_cons, depth_optionalStringValue, depth_stringValue]
    exact ⟨depth_headersValue_lt _, hzero, hzero, hflags⟩
  · exact depth_jsonArrayValue fun j hj => Nat.lt_succ_of_le (hvalues j hj).2
  · intro raw hraw
    refine ⟨_, hparse raw hraw, Headers.Same.refl _, rfl, rfl, ?_, hids⟩
    rw [harguments]
    exact same_arguments hlaw hserde hvalues hraw

end ReadsBack

/-! ## The MessagePack protocol -/

namespace MessagePackProtocol

variable {rmp : Rmp} {serde : SerdeJson} {w : ℕ}

/-- Reading a frame: the arguments of an invocation are its fifth element. -/
lemma decodesThenParses :
    DecodesThenParses rmp w 4 (parseFrame rmp serde w) (parseMessage rmp serde) := by
  intro packed item items raw h
  rw [parseFrame, h, pure_bind]

/-- Elements that begin with the type of a message. -/
lemma parseMessage_typeValue (t : MessageType) (rest : List MessagePack.Value)
    (raw : Option Bytes) :
    parseMessage rmp serde (typeValue t :: rest) raw =
      (let data := typeValue t :: rest
      match t with
      | .invocation => (createInvocationMessage rmp data raw).map fun m => some (.invocation m)
      | .streamItem => (createStreamItemMessage serde data).map fun m => some (.streamItem m)
      | .completion => (createCompletionMessage serde data).map fun m => some (.completion m)
      | .ping => (createPingMessage data).map fun _ => some .ping
      | .close => (createCloseMessage data).map fun m => some (.close m)
      | .ack => (createAckMessage data).map fun m => some (.ack m)
      | .sequence => (createSequenceMessage data).map fun m => some (.sequence m)
      | .streamInvocation | .cancelInvocation => pure none) := by
  rw [parseMessage, if_neg (by simp), List.getD_cons_zero, valueToI64_typeValue, ok_bind,
    MessageType.fromI32_toNat]
  cases t <;> rfl

/-- The sequence id of an `Ack` is read back. -/
lemma createAckMessage_eq {n : ℤ} (hlow : -2 ^ 63 ≤ n) (hhigh : n < 2 ^ 63) (t : MessageType) :
    createAckMessage [typeValue t, intValue n] = .ok ⟨n⟩ := by
  rw [createAckMessage, if_neg (by simp), List.getD_cons_succ, List.getD_cons_zero,
    valueToI64_intValue hlow hhigh]
  rfl

/-- The sequence id of a `Sequence` is read back. -/
lemma createSequenceMessage_eq {n : ℤ} (hlow : -2 ^ 63 ≤ n) (hhigh : n < 2 ^ 63) (t : MessageType) :
    createSequenceMessage [typeValue t, intValue n] = .ok ⟨n⟩ := by
  rw [createSequenceMessage, if_neg (by simp), List.getD_cons_succ, List.getD_cons_zero,
    valueToI64_intValue hlow hhigh]
  rfl

/-- Messages without headers and payload are read back wherever they are written and parsed as the
MessagePack protocol does. -/
lemma readsBack_of_noPayload {k : ℕ} {m : HubMessage}
    {write : HubMessage → Except ProtocolError Bytes} {frame : Bytes → Checked (Option HubMessage)}
    {parse : List MessagePack.Value → Option Bytes → Except ProtocolError (Option HubMessage)}
    (hlaw : rmp.Lawful) (hframe : DecodesThenParses rmp w k frame parse)
    (hwrite : write m = writeMessage rmp m)
    (hparse : ∀ rest, parse (typeValue m.messageType :: rest) none =
      parseMessage rmp serde (typeValue m.messageType :: rest) none)
    (hm : Encodable m)
    (hkind : m.messageType = .ping ∨ m.messageType = .ack ∨ m.messageType = .sequence) :
    ReadsBack rmp serde write frame m := by
  have hzero : 0 < Rmp.maxDepth := by decide
  cases m with
  | ping =>
    refine readsBack_of_plain hlaw hframe (t := .ping) hwrite (by simp) (by decide) ?_
    refine ⟨.ping, (hparse []).trans ?_, trivial⟩
    rw [HubMessage.messageType, parseMessage_typeValue]
    rfl
  | ack m =>
    refine readsBack_of_plain hlaw hframe (t := .ack) hwrite (by simp [hzero]) (by decide) ?_
    refine ⟨.ack m, (hparse _).trans ?_, rfl⟩
    rw [HubMessage.messageType, parseMessage_typeValue]
    simp only [createAckMessage_eq hm.1 hm.2, Except.map]
  | sequence m =>
    refine readsBack_of_plain hlaw hframe (t := .sequence) hwrite (by simp [hzero]) (by decide) ?_
    refine ⟨.sequence m, (hparse _).trans ?_, rfl⟩
    rw [HubMessage.messageType, parseMessage_typeValue]
    simp only [createSequenceMessage_eq hm.1 hm.2, Except.map]
  | invocation | streamInvocation | streamItem | completion | cancelInvocation | close =>
    simp [HubMessage.messageType] at hkind

/-- The fields of a stream item are read back. -/
lemma createStreamItemMessage_eq (hserde : serde.InvertsJson) {m : StreamItemMessage}
    (hheaders : (m.headers.map Prod.fst).Nodup) (hitem : m.item.Valid) (t : MessageType) :
    createStreamItemMessage serde [typeValue t, headersValue m.headers,
      optionalStringValue m.invocationId, jsonToValue (some m.item)] = .ok m := by
  rw [createStreamItemMessage, if_neg (by simp), createMessageHeaders_headersValue hheaders]
  simp [jsonToValue, valueToJson_jsonValue hserde hitem, pure_eq_ok]

/-- The fields of a completion are read back: its error, its result, or that it has neither. -/
lemma createCompletionMessage_eq (rmp : Rmp) (hserde : serde.InvertsJson) {m : CompletionMessage}
    (hheaders : (m.headers.map Prod.fst).Nodup) (hone : m.error = none ∨ m.result = none)
    (hresult : ∀ j, m.result = some j → j.Valid ∧ j.depth ≤ 511) :
    ∃ result, (∀ x ∈ result, x.depth < Rmp.maxDepth) ∧
      let xs := typeValue .completion :: headersValue m.headers :: stringValue m.invocationId ::
        intValue (resultKind m) :: result
      writeCompletion rmp m = packPayload rmp xs ∧ createCompletionMessage serde xs = .ok m := by
  obtain ⟨headers, invocationId, error, result⟩ := m
  have hread (xs : List MessagePack.Value) (t : MessagePack.Value) :=
    createMessageHeaders_headersValue hheaders t xs
  have hkind : ∀ {n : ℤ}, n = 1 ∨ n = 2 ∨ n = 3 → valueToI64 (intValue n) = .ok n :=
    fun h => valueToI64_intValue (by omega) (by omega)
  cases error with
  | some error =>
    obtain rfl : result = none := by simpa using hone
    refine ⟨[stringValue error], ?_, rfl, ?_⟩
    · simp [stringValue, MessagePack.Value.depth, Rmp.maxDepth]
    · rw [createCompletionMessage, if_neg (by simp), hread]
      simp [resultKind, hkind, errorResult, voidResult, pure_eq_ok]
  | none =>
    cases result with
    | none =>
      refine ⟨[], by simp, rfl, ?_⟩
      rw [createCompletionMessage, if_neg (by simp), hread]
      simp [resultKind, hkind, errorResult, voidResult, nonVoidResult, pure_eq_ok]
    | some j =>
      obtain ⟨hvalid, hdepth⟩ := hresult j rfl
      refine ⟨[jsonValue j], ?_, rfl, ?_⟩
      · simp only [List.forall_mem_singleton, depth_jsonValue, Rmp.maxDepth]
        omega
      · rw [createCompletionMessage, if_neg (by simp), hread]
        simp [resultKind, hkind, errorResult, voidResult, nonVoidResult, pure_eq_ok,
          valueToJson_jsonValue hserde hvalid]

/-- The fields of an invocation are read back, its arguments from their encoding. -/
lemma createInvocationMessage_eq (hlaw : rmp.Lawful) {m : InvocationMessage} {raw : Bytes}
    {values : List Value} (hheaders : (m.headers.map Prod.fst).Nodup)
    (hraw : Encodes [jsonArrayValue values] raw) (t : MessageType) :
    createInvocationMessage rmp [typeValue t, headersValue m.headers,
        optionalStringValue m.invocationId, stringValue m.target, .nil] (some raw) =
      .ok { m with arguments := .messagePack raw, streamIds := some [] } := by
  have hread := createMessageHeaders_headersValue hheaders (typeValue t)
  have harguments : Arguments.fromMessagepack rmp raw = .ok (.messagePack raw) :=
    Arguments.fromMessagepack_array hlaw hraw
  simp [createInvocationMessage, hread, harguments, pure_eq_ok]

/-- No stream ids are not written. -/
lemma streamIdsValue_nil {ids : Option (List String)} (h : ids.getD [] = []) :
    streamIdsValue ids = [] := by
  cases ids with
  | none => rfl
  | some ids =>
    obtain rfl : ids = [] := h
    rfl

/-- Every encodable message is read back by the MessagePack protocol. -/
lemma readsBack (hlaw : rmp.Lawful) (hserde : serde.InvertsJson) (hw : 32 ≤ w) {m : HubMessage}
    (hm : Encodable m) :
    ReadsBack rmp serde (writeMessage rmp) (parseFrame rmp serde w) m := by
  cases m with
  | streamInvocation | cancelInvocation | close => exact hm.elim
  | ping | ack | sequence =>
    exact readsBack_of_noPayload hlaw decodesThenParses rfl (fun _ => rfl) hm
      (by simp [HubMessage.messageType])
  | streamItem m =>
    obtain ⟨hnodup, hvalid, hdepth⟩ := hm
    refine readsBack_streamItem hlaw decodesThenParses [] hdepth (by simp) rfl ?_
    rw [parseMessage_typeValue]
    simp only [List.nil_append, createStreamItemMessage_eq hserde hnodup hvalid, Except.map]
  | completion m =>
    obtain ⟨hnodup, hone, hresult⟩ := hm
    obtain ⟨result, hdepth, hwrite, hread⟩ :=
      createCompletionMessage_eq rmp hserde hnodup hone hresult
    refine readsBack_completion hlaw decodesThenParses hdepth hwrite ?_
    rw [parseMessage_typeValue]
    simp only [hread, Except.map]
  | invocation m =>
    obtain ⟨hnodup, hids, values, harguments, hvalues⟩ := hm
    refine readsBack_invocation hlaw hserde hw decodesThenParses [] hids harguments
      hvalues (by simp) rfl ?_ ?_
    · change writeInvocation rmp m = _
      rw [writeInvocation, harguments, streamIdsValue_nil hids]
      rfl
    · intro raw hraw
      rw [parseMessage_typeValue]
      simp only [List.nil_append, createInvocationMessage_eq hlaw hnodup hraw, Except.map]

end MessagePackProtocol

/-! ## The MessagePack+Brotli protocol -/

namespace MessagePackBrotliProtocol

open MessagePackProtocol (typeValue headersValue optionalStringValue resultKind streamIdsValue
  packPayload decodeMessage createMessageHeaders_headersValue valueToI64_typeValue
  valueToI64_intValue asI64_intValue createPingMessage createCloseMessage
  createAckMessage createSequenceMessage)

variable {rmp : Rmp} {serde : SerdeJson} {decoder : BrotliDecoder} {w : ℕ}

/-- Reading a frame: the arguments of an invocation are its sixth element. -/
lemma decodesThenParses :
    DecodesThenParses rmp w 5 (parseFrame rmp serde decoder w)
      (parseMessage rmp serde decoder) := by
  intro packed item items raw h
  rw [parseFrame, h, pure_bind]
  rfl

/-- Elements that begin with the type of a message. -/
lemma parseMessage_typeValue (t : MessageType) (rest : List MessagePack.Value)
    (raw : Option Bytes) :
    parseMessage rmp serde decoder (typeValue t :: rest) raw =
      (let data := typeValue t :: rest
      match t with
      | .invocation =>
        (createInvocationMessage rmp decoder data raw).map fun m => some (.invocation m)
      | .streamInvocation =>
        (createStreamInvocationMessage rmp serde decoder data).map fun m =>
          some (.streamInvocation m)
      | .streamItem =>
        (createStreamItemMessage rmp serde decoder data).map fun m => some (.streamItem m)
      | .completion =>
        (createCompletionMessage rmp serde decoder data).map fun m => some (.completion m)
      | .ping => (createPingMessage data).map fun _ => some .ping
      | .close => (createCloseMessage data).map fun m => some (.close m)
      | .ack => (createAckMessage data).map fun m => some (.ack m)
      | .sequence => (createSequenceMessage data).map fun m => some (.sequence m)
      | .cancelInvocation => pure none) := by
  rw [parseMessage, if_neg (by simp), List.getD_cons_zero, valueToI64_typeValue, ok_bind,
    MessageType.fromI32_toNat]
  cases t <;> rfl

/-- The flag the client writes is not the one of a compressed payload. -/
lemma isCompressed_zero : isCompressed (some (intValue 0)) = false := by
  rw [isCompressed, Option.bind_some, asI64_intValue (by omega) (by omega)]
  rfl

/-- A payload behind that flag is the payload. -/
lemma unpackData_zero (data : MessagePack.Value) :
    unpackData rmp decoder (some data) (isCompressed (some (intValue 0))) = .ok (some data) := by
  rw [isCompressed_zero]
  rfl

/-- The fields of a stream item are read back. -/
lemma createStreamItemMessage_eq (hserde : serde.InvertsJson) {m : StreamItemMessage}
    (hheaders : (m.headers.map Prod.fst).Nodup) (hitem : m.item.Valid) (t : MessageType) :
    createStreamItemMessage rmp serde decoder [typeValue t, headersValue m.headers,
      optionalStringValue m.invocationId, intValue 0, jsonToValue (some m.item)] = .ok m := by
  rw [createStreamItemMessage, if_neg (by simp), createMessageHeaders_headersValue hheaders]
  simp [jsonToValue, unpackData_zero, valueToJson_jsonValue hserde hitem, pure_eq_ok]

/-- The fields of a completion are read back: its error, its result, or that it has neither. -/
lemma createCompletionMessage_eq (rmp : Rmp) (decoder : BrotliDecoder) (hserde : serde.InvertsJson)
    {m : CompletionMessage} (hheaders : (m.headers.map Prod.fst).Nodup)
    (hone : m.error = none ∨ m.result = none)
    (hresult : ∀ j, m.result = some j → j.Valid ∧ j.depth ≤ 511) :
    ∃ result, (∀ x ∈ result, x.depth < Rmp.maxDepth) ∧
      let xs := typeValue .completion :: headersValue m.headers :: stringValue m.invocationId ::
        intValue (resultKind m) :: result
      writeCompletionBrotli rmp m = packPayload rmp xs ∧
        createCompletionMessage rmp serde decoder xs = .ok m := by
  obtain ⟨headers, invocationId, error, result⟩ := m
  have hread (xs : List MessagePack.Value) (t : MessagePack.Value) :=
    createMessageHeaders_headersValue hheaders t xs
  have hkind : ∀ {n : ℤ}, n = 1 ∨ n = 2 ∨ n = 3 →
      MessagePackProtocol.valueToI64 (intValue n) = .ok n :=
    fun h => valueToI64_intValue (by omega) (by omega)
  cases error with
  | some error =>
    obtain rfl : result = none := by simpa using hone
    refine ⟨[intValue 0, stringValue error], by simp [Rmp.maxDepth], rfl, ?_⟩
    rw [createCompletionMessage, if_neg (by simp), hread]
    simp [resultKind, hkind, MessagePackProtocol.errorResult, MessagePackProtocol.voidResult,
      MessagePackProtocol.nonVoidResult, unpackData_zero, pure_eq_ok]
  | none =>
    cases result with
    | none =>
      refine ⟨[], by simp, rfl, ?_⟩
      rw [createCompletionMessage, if_neg (by simp), hread]
      simp [resultKind, hkind, MessagePackProtocol.errorResult, MessagePackProtocol.voidResult,
        MessagePackProtocol.nonVoidResult, pure_eq_ok]
    | some j =>
      obtain ⟨hvalid, hdepth⟩ := hresult j rfl
      refine ⟨[intValue 0, jsonValue j], ?_, rfl, ?_⟩
      · simp [depth_jsonValue, Rmp.maxDepth]
        omega
      · rw [createCompletionMessage, if_neg (by simp), hread]
        simp [resultKind, hkind, MessagePackProtocol.errorResult, MessagePackProtocol.voidResult,
          MessagePackProtocol.nonVoidResult, unpackData_zero, pure_eq_ok,
          valueToJson_jsonValue hserde hvalid]

/-- The fields of an invocation are read back, its arguments from their encoding. -/
lemma createInvocationMessage_eq (hlaw : rmp.Lawful) {m : InvocationMessage} {raw : Bytes}
    {values : List Value} (hheaders : (m.headers.map Prod.fst).Nodup)
    (hraw : Encodes [jsonArrayValue values] raw) (t : MessageType) :
    createInvocationMessage rmp decoder [typeValue t, headersValue m.headers,
        optionalStringValue m.invocationId, stringValue m.target, intValue 0, .nil] (some raw) =
      .ok { m with arguments := .messagePack raw, streamIds := some [] } := by
  have hread := createMessageHeaders_headersValue hheaders (typeValue t)
  have harguments : Arguments.fromMessagepack rmp raw = .ok (.messagePack raw) :=
    Arguments.fromMessagepack_array hlaw hraw
  simp [createInvocationMessage, unpackArguments, isCompressed_zero, hread, harguments, pure_eq_ok]

/-- Every encodable message is read back by the MessagePack+Brotli protocol. -/
lemma readsBack (hlaw : rmp.Lawful) (hserde : serde.InvertsJson) (hw : 32 ≤ w) {m : HubMessage}
    (hm : Encodable m) :
    ReadsBack rmp serde (writeMessage rmp) (parseFrame rmp serde decoder w) m := by
  cases m with
  | streamInvocation | cancelInvocation | close => exact hm.elim
  | ping | ack | sequence =>
    refine MessagePackProtocol.readsBack_of_noPayload hlaw decodesThenParses rfl ?_ hm
      (by simp [HubMessage.messageType])
    intro rest
    rw [HubMessage.messageType, parseMessage_typeValue, MessagePackProtocol.parseMessage_typeValue]
  | streamItem m =>
    obtain ⟨hnodup, hvalid, hdepth⟩ := hm
    refine readsBack_streamItem hlaw decodesThenParses [intValue 0] hdepth (by simp) rfl ?_
    rw [parseMessage_typeValue]
    simp only [List.singleton_append, createStreamItemMessage_eq hserde hnodup hvalid, Except.map]
  | completion m =>
    obtain ⟨hnodup, hone, hresult⟩ := hm
    obtain ⟨result, hdepth, hwrite, hread⟩ :=
      createCompletionMessage_eq rmp decoder hserde hnodup hone hresult
    refine readsBack_completion hlaw decodesThenParses hdepth hwrite ?_
    rw [parseMessage_typeValue]
    simp only [hread, Except.map]
  | invocation m =>
    obtain ⟨hnodup, hids, values, harguments, hvalues⟩ := hm
    refine readsBack_invocation hlaw hserde hw decodesThenParses [intValue 0] hids
      harguments hvalues (by simp) rfl ?_ ?_
    · change writeInvocationBrotli rmp m = _
      rw [writeInvocationBrotli, harguments, MessagePackProtocol.streamIdsValue_nil hids]
      rfl
    · intro raw hraw
      rw [parseMessage_typeValue]
      simp only [List.singleton_append, createInvocationMessage_eq hlaw hnodup hraw, Except.map]

end MessagePackBrotliProtocol

/-! ## Batches -/

section Batches

variable {rmp : Rmp} {serde : SerdeJson} {w : ℕ}

/-- The messages are written, and the concatenation of what is written is read back as the same
messages in order, where each of them takes less than 2 GB and the whole fits into a slice. -/
def BatchReadsBack (rmp : Rmp) (serde : SerdeJson) (w : ℕ)
    (writeMessage : HubMessage → Except ProtocolError Bytes)
    (parseMessages : HubProtocolInput → Checked (List HubMessage)) (ms : List HubMessage) : Prop :=
  ∃ payloads, List.Forall₂ (fun m payload => writeMessage m = .ok payload) ms payloads ∧
    ((∀ packed, BinaryMessageFormat.write packed ∈ payloads → packed.length < 2 ^ 31) →
      payloads.flatten.length < 2 ^ (w - 1) →
      ∃ ms', parseMessages (.binary payloads.flatten) = pure ms' ∧
        List.Forall₂ (HubMessage.Same rmp serde) ms ms')

/-- Messages that are each read back are read back in a batch.

**Proof sketch.** The payloads are frames of packed messages. The framing gives back the packed
messages, and each of them is read back by itself. -/
lemma batchReadsBack (hw : w = 32 ∨ w = 64)
    {writeMessage : HubMessage → Except ProtocolError Bytes}
    {parseFrame : Bytes → Checked (Option HubMessage)} (notBinary : String) {ms : List HubMessage}
    (hsome : ms ≠ []) (h : ∀ m ∈ ms, ReadsBack rmp serde writeMessage parseFrame m) :
    BatchReadsBack rmp serde w writeMessage (parseBatch w notBinary parseFrame) ms := by
  have hpackeds : ∃ packeds,
      List.Forall₂ (fun m packed => writeMessage m = .ok (BinaryMessageFormat.write packed) ∧
        (packed.length < 2 ^ 31 → packed ≠ [] ∧ ∃ message',
          parseFrame packed = pure (some message') ∧ m.Same rmp serde message')) ms packeds := by
    clear hsome
    induction ms with
    | nil => exact ⟨[], .nil⟩
    | cons m ms ih =>
      obtain ⟨hm, hms⟩ := List.forall_mem_cons.mp h
      obtain ⟨packed, hpacked⟩ := hm
      obtain ⟨packeds, hpackeds⟩ := ih hms
      exact ⟨packed :: packeds, .cons hpacked hpackeds⟩
  obtain ⟨packeds, hpackeds⟩ := hpackeds
  refine ⟨packeds.map BinaryMessageFormat.write, ?_, fun hsmall hlen => ?_⟩
  · rw [List.forall₂_map_right_iff]
    exact hpackeds.imp fun _ _ hp => hp.1
  · have hsmall' : ∀ packed ∈ packeds, packed.length < 2 ^ 31 :=
      fun packed hmem => hsmall packed (List.mem_map_of_mem hmem)
    rw [← List.flatMap_def] at hlen ⊢
    have hread : (∀ packed ∈ packeds, packed ≠ []) ∧ ∃ ms',
        List.Forall₂ (fun packed m => parseFrame packed = pure (some m)) packeds ms' ∧
          List.Forall₂ (HubMessage.Same rmp serde) ms ms' := by
      clear hsome hlen h hsmall
      induction hpackeds with
      | nil => exact ⟨by simp, [], .nil, .nil⟩
      | @cons m packed ms packeds hp _ ih =>
        obtain ⟨hpsmall, hsmall'⟩ := List.forall_mem_cons.mp hsmall'
        obtain ⟨hne, m', hparse, hsame⟩ := hp.2 hpsmall
        obtain ⟨hnes, ms', hparses, hsames⟩ := ih hsmall'
        exact ⟨List.forall_mem_cons.mpr ⟨hne, hnes⟩, m' :: ms', .cons hparse hparses,
          .cons hsame hsames⟩
    obtain ⟨hne, ms', hparses, hsames⟩ := hread
    have hpackedsSome : packeds ≠ [] := by
      rintro rfl
      cases hpackeds
      exact hsome rfl
    exact ⟨ms', parseBatch_write hw hpackedsSome hne hsmall' hlen hparses, hsames⟩

/-- Both MessagePack protocols read back a batch of encodable messages, if there is at least one:
the same messages in order, where no stream ids are read as an empty list of them. -/
theorem parse_written (hlaw : rmp.Lawful) (hserde : serde.InvertsJson) (decoder : BrotliDecoder)
    (hw : w = 32 ∨ w = 64) {ms : List HubMessage} (hsome : ms ≠ []) (hms : ∀ m ∈ ms, Encodable m) :
    BatchReadsBack rmp serde w (MessagePackProtocol.writeMessage rmp)
        (MessagePackProtocol.parseMessages rmp serde w) ms ∧
      BatchReadsBack rmp serde w (MessagePackBrotliProtocol.writeMessage rmp)
        (MessagePackBrotliProtocol.parseMessages rmp serde decoder w) ms := by
  have hwide : 32 ≤ w := by omega
  constructor
  · exact batchReadsBack hw _ hsome fun m hm =>
      MessagePackProtocol.readsBack hlaw hserde hwide (hms m hm)
  · exact batchReadsBack hw _ hsome fun m hm =>
      MessagePackBrotliProtocol.readsBack hlaw hserde hwide (hms m hm)

/-- An invocation and a completion with the result null are read back. -/
theorem parse_written_two :
    BatchReadsBack Rmp.reference SerdeJson.reference 64
      (MessagePackProtocol.writeMessage Rmp.reference)
      (MessagePackProtocol.parseMessages Rmp.reference SerdeJson.reference 64)
      [.invocation ⟨[("header", "value")], none, "target", .json [.bool true], none⟩,
        .completion ⟨[], "1", none, some .null⟩] := by
  refine (parse_written Rmp.reference_lawful SerdeJson.reference_invertsJson
    (fun bytes => .ok bytes) (.inr rfl) (by simp) ?_).1
  have hinvocation : Encodable
      (.invocation ⟨[("header", "value")], none, "target", .json [.bool true], none⟩) :=
    ⟨by simp, rfl, [.bool true], rfl, by simp [Value.Valid, Value.depth]⟩
  have hcompletion : Encodable (.completion ⟨[], "1", none, some .null⟩) :=
    ⟨by simp, .inl rfl, by simp [Value.Valid, Value.depth]⟩
  simp [hinvocation, hcompletion]

/-- No messages at all are not read back: an input without frames is refused. -/
theorem not_batchReadsBack_nil :
    ¬ BatchReadsBack Rmp.reference SerdeJson.reference 64
      (MessagePackProtocol.writeMessage Rmp.reference)
      (MessagePackProtocol.parseMessages Rmp.reference SerdeJson.reference 64) [] := by
  rintro ⟨payloads, hpayloads, hread⟩
  cases hpayloads
  obtain ⟨ms', hparse, -⟩ := hread (by simp) (by simp)
  cases hparse

end Batches

end Signalrr.Hub
