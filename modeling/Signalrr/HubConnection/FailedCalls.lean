import Signalrr.Hub.ProtocolKind
import Signalrr.HubConnection.Dispatch

set_option relaxedAutoImplicit false
set_option autoImplicit false

/-!
# Failed calls

A `Completion` that carries an error, from its bytes to the call that waits for it:
`create_completion_message` under `src/hub/messagepack`, `from_json` in `src/hub/message.rs` and
`handle_completion` in `src/hub_connection/dispatch.rs`. The dispatcher takes a completion without
an error text for a success.

## Main definitions

* `Signalrr.HubConnection.Resolves` — the answer a waiting call is given for a completion.
* `Signalrr.HubConnection.ReportsFailure` — what is parsed is reported as a failed call.
* `Signalrr.Hub.MessagePackProtocol.WellAddressed` — headers and invocation id can be read.
* `Signalrr.Hub.MessagePackBrotliProtocol.NoText` — a payload, with its flag, that is no text.

## Main results

* `Signalrr.HubConnection.reportsFailure_iff` — which errors are reported as failed calls.
-/

namespace Signalrr

open Hub

/-! ## Answers -/

namespace HubConnection

/-- `handle_completion` answers the waiting call with the given result. -/
def Resolves (message : CompletionMessage) (result : Except String Value) : Prop :=
  ∀ (H : Type) (ctx : DispatchContext H),
    ctx.handleCompletion message =
      { ctx with
        pending := (ctx.pending.completeInvocation message.invocationId result).1
        deliveries :=
          ctx.deliveries ++ (ctx.pending.completeInvocation message.invocationId result).2 }

/-- A completion with an error text is a failure. -/
lemma resolves_error {message : CompletionMessage} {error : String}
    (h : message.error = some error) : Resolves message (.error error) := by
  intro H ctx
  simp only [DispatchContext.handleCompletion, h]

/-- A completion without an error text is a success. -/
lemma resolves_ok {message : CompletionMessage} (h : message.error = none) :
    Resolves message (.ok (message.result.getD .null)) := by
  intro H ctx
  simp only [DispatchContext.handleCompletion, h]

/-- A message that is parsed is a completion with an error text, and answers its call with it. -/
def ReportsFailure (parsed : Except ProtocolError (Option HubMessage)) : Prop :=
  ∀ m, parsed = .ok (some m) →
    ∃ completion error, m = .completion completion ∧ completion.error = some error ∧
      Resolves completion (.error error)

/-- A completion that is parsed is reported as a failure if it has an error text. -/
lemma reportsFailure_completion {parsed : Except ProtocolError CompletionMessage} :
    ReportsFailure (parsed >>= fun completion => pure (some (.completion completion))) ↔
      ∀ completion, parsed = .ok completion → completion.error ≠ none := by
  constructor
  · intro h completion hparsed hnone
    obtain ⟨completion', error, hm, herror, -⟩ := h (.completion completion) (by
      rw [hparsed, ok_bind]
      rfl)
    obtain rfl := HubMessage.completion.inj hm
    rw [hnone] at herror
    cases herror
  · intro h m hm
    obtain ⟨completion, hparsed, hm⟩ := bind_eq_ok.mp hm
    cases hm
    obtain ⟨error, herror⟩ := Option.ne_none_iff_exists'.mp (h completion hparsed)
    exact ⟨completion, error, rfl, herror, resolves_error herror⟩

end HubConnection

/-! ## MessagePack -/

namespace Hub.MessagePackProtocol

variable {data : List MessagePack.Value}

/-- A completion with result kind `ERROR_RESULT`. -/
def IsErrorCompletion (data : List MessagePack.Value) : Prop :=
  data.head?.bind asI64 = some (MessageType.completion.toNat : ℤ) ∧
    data[3]?.bind asI64 = some errorResult

/-- The headers and the invocation id of a message can be read. -/
def WellAddressed (data : List MessagePack.Value) : Prop :=
  (∃ headers, createMessageHeaders data = .ok headers) ∧
    ∃ invocationId, data[2]?.bind asStr = some invocationId

/-- An item that is there, with a default for any other. -/
lemma getD_of_getElem? {k : ℕ} {x : MessagePack.Value} (h : data[k]? = some x) :
    k < data.length ∧ data.getD k .nil = x := by
  obtain ⟨hlt, rfl⟩ := List.getElem?_eq_some_iff.mp h
  exact ⟨hlt, List.getD_eq_getElem _ _ hlt⟩

/-- The type and the result kind of an error are read. -/
lemma IsErrorCompletion.read (h : IsErrorCompletion data) :
    data.isEmpty = false ∧ valueToI64 (data.getD 0 .nil) = .ok 3 ∧
      valueToI64 (data.getD 3 .nil) = .ok errorResult ∧ 3 < data.length := by
  obtain ⟨htype, hkind⟩ := h
  obtain ⟨hsome, hread⟩ : data.isEmpty = false ∧ valueToI64 (data.getD 0 .nil) = .ok 3 := by
    cases data with
    | nil => cases htype
    | cons x data =>
      rw [List.head?_cons, Option.bind_some] at htype
      rw [List.getD_cons_zero, valueToI64, htype]
      exact ⟨rfl, rfl⟩
  obtain ⟨kind, hkind, hone⟩ := Option.bind_eq_some_iff.mp hkind
  obtain ⟨hlt, hget⟩ := getD_of_getElem? hkind
  refine ⟨hsome, hread, ?_, hlt⟩
  rw [hget, valueToI64, hone]

/-- An invocation id that can be read. -/
lemma valueToString_id {invocationId : String} (h : 2 < data.length) :
    valueToString (data.getD 2 .nil) = .ok invocationId ↔
      data[2]?.bind asStr = some invocationId := by
  rw [List.getD_eq_getElem _ _ h, List.getElem?_eq_getElem h, Option.bind_some, valueToString]
  cases asStr data[2] with
  | none => simp
  | some s => simp

/-- Only `Nil` is read as no string. -/
lemma optionalString_eq_none {value : MessagePack.Value} :
    optionalString value = .ok none ↔ value = .nil := by
  constructor
  · intro h
    unfold optionalString at h
    split at h
    · rfl
    · generalize valueToString _ = read at h
      cases read with
      | error error => cases h
      | ok s => cases h
  · rintro rfl
    rfl

/-- An error has a text unless its payload is `Nil`. -/
lemma error_of_createCompletionMessage (serde : SerdeJson) (h : IsErrorCompletion data) :
    (∀ completion, createCompletionMessage serde data = .ok completion → completion.error ≠ none) ↔
      ¬ (WellAddressed data ∧ data[4]? = some .nil) := by
  obtain ⟨-, -, hkind, hlen⟩ := h.read
  have hlong : ¬ data.length < 4 := by omega
  constructor
  · rintro htext ⟨⟨⟨headers, hheaders⟩, invocationId, hid⟩, hnil⟩
    have hfive := (getD_of_getElem? hnil).1
    refine htext ⟨headers, invocationId, none, none⟩ ?_ rfl
    rw [createCompletionMessage, if_neg hlong, hheaders, ok_bind, hkind, ok_bind,
      if_neg (by omega), (valueToString_id (by omega)).mpr hid, ok_bind, if_pos rfl, hnil]
    rfl
  · intro hnot completion hparsed hnone
    rw [createCompletionMessage, if_neg hlong, hkind] at hparsed
    obtain ⟨headers, hheaders, hparsed⟩ := bind_eq_ok.mp hparsed
    rw [ok_bind] at hparsed
    split at hparsed
    · cases hparsed
    · rename_i hfive
      have hlt : 4 < data.length := by
        by_contra hle
        exact hfive ⟨by decide, by omega⟩
      obtain ⟨invocationId, hid, hparsed⟩ := bind_eq_ok.mp hparsed
      rw [if_pos rfl] at hparsed
      obtain ⟨error, herror, hparsed⟩ := bind_eq_ok.mp hparsed
      cases hparsed
      obtain rfl : error = none := hnone
      rw [List.getElem?_eq_getElem hlt, Option.getD_some, optionalString_eq_none] at herror
      refine hnot ⟨⟨⟨headers, hheaders⟩, invocationId, (valueToString_id (by omega)).mp hid⟩, ?_⟩
      rw [List.getElem?_eq_getElem hlt, herror]

/-- A completion is parsed as its fields are. -/
lemma parseMessage_completion (rmp : Rmp) (serde : SerdeJson) (h : IsErrorCompletion data)
    (raw : Option Bytes) :
    parseMessage rmp serde data raw =
      createCompletionMessage serde data >>= fun completion =>
        pure (some (.completion completion)) := by
  obtain ⟨hsome, htype, -⟩ := h.read
  rw [parseMessage, hsome, htype]
  rfl

end Hub.MessagePackProtocol

/-! ## MessagePack+Brotli -/

namespace Hub.MessagePackBrotliProtocol

open MessagePackProtocol

variable {rmp : Rmp} {decoder : BrotliDecoder} {data : List MessagePack.Value}

/-- A payload, with the flag in front of it, that is no text: it is missing, or no string, or it is
compressed and no bytes, or bytes that are decoded to another value than a string. -/
def NoText (rmp : Rmp) (decoder : BrotliDecoder) (flag : Option MessagePack.Value) :
    Option MessagePack.Value → Prop
  | none => True
  | some payload =>
    if isCompressed flag then
      match valueToBytes payload with
      | none => True
      | some bytes => ∃ decoded value rest, decoder bytes = .ok decoded ∧
          rmp.readValue decoded = .ok (value, rest) ∧ asStr value = none
    else asStr payload = none

/-- A payload is unpacked to no string if and only if it is no text. -/
lemma unpackData_noText {flag payload : Option MessagePack.Value} :
    (∃ unpacked, unpackData rmp decoder payload (isCompressed flag) = .ok unpacked ∧
      unpacked.bind asStr = none) ↔ NoText rmp decoder flag payload := by
  cases payload with
  | none => simp [unpackData, NoText, pure_eq_ok]
  | some payload =>
    rw [unpackData, NoText]
    split
    · cases valueToBytes payload with
      | none => simp [pure_eq_ok]
      | some bytes =>
        dsimp only
        constructor
        · rintro ⟨unpacked, hunpacked, hnone⟩
          obtain ⟨decoded, hdecoded, hunpacked⟩ := bind_eq_ok.mp hunpacked
          split at hunpacked
          · rename_i value rest hread
            cases hunpacked
            exact ⟨decoded, value, rest, hdecoded, hread, hnone⟩
          · cases hunpacked
        · rintro ⟨decoded, value, rest, hdecoded, hread, hnone⟩
          refine ⟨some value, ?_, hnone⟩
          rw [hdecoded, ok_bind, hread]
          rfl
    · simp [pure_eq_ok]

/-- An error has a text unless its payload is no text. -/
lemma error_of_createCompletionMessage (serde : SerdeJson) (h : IsErrorCompletion data) :
    (∀ completion, createCompletionMessage rmp serde decoder data = .ok completion →
        completion.error ≠ none) ↔
      ¬ (WellAddressed data ∧ 4 < data.length ∧ NoText rmp decoder data[4]? data[5]?) := by
  obtain ⟨-, -, hkind, hlen⟩ := h.read
  have hlong : ¬ data.length < 4 := by omega
  rw [← unpackData_noText]
  constructor
  · rintro htext ⟨⟨⟨headers, hheaders⟩, invocationId, hid⟩, hfive, unpacked, hunpacked, hnone⟩
    refine htext ⟨headers, invocationId, none, none⟩ ?_ rfl
    rw [createCompletionMessage, if_neg hlong, hheaders, ok_bind, hkind, ok_bind,
      if_neg (by omega), (valueToString_id (by omega)).mpr hid, ok_bind, if_pos (.inl rfl),
      hunpacked, ok_bind, if_pos rfl, hnone]
    rfl
  · intro hnot completion hparsed hnone
    rw [createCompletionMessage, if_neg hlong, hkind] at hparsed
    obtain ⟨headers, hheaders, hparsed⟩ := bind_eq_ok.mp hparsed
    rw [ok_bind] at hparsed
    split at hparsed
    · cases hparsed
    · rename_i hfive
      have hlt : 4 < data.length := by
        by_contra hle
        exact hfive ⟨by decide, by omega⟩
      obtain ⟨invocationId, hid, hparsed⟩ := bind_eq_ok.mp hparsed
      rw [if_pos (.inl rfl)] at hparsed
      obtain ⟨unpacked, hunpacked, hparsed⟩ := bind_eq_ok.mp hparsed
      rw [if_pos rfl] at hparsed
      cases hparsed
      exact hnot ⟨⟨⟨headers, hheaders⟩, invocationId, (valueToString_id (by omega)).mp hid⟩, hlt,
        unpacked, hunpacked, hnone⟩

/-- A completion is parsed as its fields are. -/
lemma parseMessage_completion (rmp : Rmp) (serde : SerdeJson) (decoder : BrotliDecoder)
    (h : IsErrorCompletion data) (raw : Option Bytes) :
    parseMessage rmp serde decoder data raw =
      createCompletionMessage rmp serde decoder data >>= fun completion =>
        pure (some (.completion completion)) := by
  obtain ⟨hsome, htype, -⟩ := h.read
  rw [parseMessage, hsome, htype]
  rfl

end Hub.MessagePackBrotliProtocol

/-! ## JSON -/

namespace Hub.HubMessage

variable {obj : List (String × Value)}

/-- An object of a `Completion` is read as its members are. -/
lemma fromJsonValue_completion
    (htype : (obj.lookup "type").bind Value.asI64 = some (MessageType.completion.toNat : ℤ)) :
    fromJsonValue (.object obj) = (CompletionMessage.fromJson obj).map .completion := by
  rw [fromJsonValue, Value.asObject]
  simp only [Option.bind_eq_bind, Option.bind_some, htype]
  rfl

/-- A completion without an error text is read if and only if there is an id and the error is no
string. -/
lemma fromJson_completion {error : Value} (herror : obj.lookup "error" = some error) :
    (∃ completion, CompletionMessage.fromJson obj = some completion ∧ completion.error = none) ↔
      (∃ invocationId, (obj.lookup "invocationId").bind Value.asStr = some invocationId) ∧
        error.asStr = none := by
  have hparse : parseOptionalString (obj.lookup "error") = error.asStr := by
    rw [herror, parseOptionalString, Option.bind_some]
  rw [CompletionMessage.fromJson, hparse]
  cases (obj.lookup "invocationId").bind Value.asStr with
  | none => simp
  | some invocationId => simp

end Hub.HubMessage

/-! ## All protocols -/

namespace HubConnection

/-- An error that the server sends is reported as a failed call if and only if it has a text or the
completion cannot be read: in JSON, if the error is a string or there is no invocation id; in the
MessagePack protocols, if the payload is not `Nil`, respectively a text once it is unpacked, or the
headers, the id or the payload are malformed.

**Proof sketch.** The type and the result kind are read, so the completion is parsed field by field.
If all of them can be read, the error is the optional text of the payload. -/
theorem reportsFailure_iff (rmp : Rmp) (serde : SerdeJson) (decoder : BrotliDecoder) :
    (∀ obj error, (obj.lookup "type").bind Value.asI64 = some (MessageType.completion.toNat : ℤ) →
      obj.lookup "error" = some error → error ≠ .null →
        (ReportsFailure (.ok (HubMessage.fromJsonValue (.object obj))) ↔
          ¬ ((∃ invocationId, (obj.lookup "invocationId").bind Value.asStr = some invocationId) ∧
            error.asStr = none))) ∧
    (∀ data raw, MessagePackProtocol.IsErrorCompletion data →
      (ReportsFailure (MessagePackProtocol.parseMessage rmp serde data raw) ↔
        ¬ (MessagePackProtocol.WellAddressed data ∧ data[4]? = some .nil))) ∧
    (∀ data raw, MessagePackProtocol.IsErrorCompletion data →
      (ReportsFailure (MessagePackBrotliProtocol.parseMessage rmp serde decoder data raw) ↔
        ¬ (MessagePackProtocol.WellAddressed data ∧ 4 < data.length ∧
          MessagePackBrotliProtocol.NoText rmp decoder data[4]? data[5]?))) := by
  refine ⟨?_, ?_, ?_⟩
  · intro obj error htype herror _
    rw [HubMessage.fromJsonValue_completion htype, ← HubMessage.fromJson_completion herror]
    constructor
    · rintro h ⟨completion, hread, hnone⟩
      obtain ⟨completion', error', hm, herror', -⟩ := h (.completion completion)
        (by rw [hread]; rfl)
      obtain rfl := HubMessage.completion.inj hm
      rw [hnone] at herror'
      cases herror'
    · intro h m hm
      obtain ⟨completion, hread, rfl⟩ := Option.map_eq_some_iff.mp (Except.ok.inj hm)
      obtain ⟨error', herror'⟩ := Option.ne_none_iff_exists'.mp fun hnone =>
        h ⟨completion, hread, hnone⟩
      exact ⟨completion, error', rfl, herror', resolves_error herror'⟩
  · intro data raw h
    rw [MessagePackProtocol.parseMessage_completion rmp serde h, reportsFailure_completion]
    exact MessagePackProtocol.error_of_createCompletionMessage serde h
  · intro data raw h
    rw [MessagePackBrotliProtocol.parseMessage_completion rmp serde decoder h,
      reportsFailure_completion]
    exact MessagePackBrotliProtocol.error_of_createCompletionMessage serde h

/-- An error with the text `e` is reported. -/
theorem reportsFailure_text :
    ReportsFailure (.ok (HubMessage.fromJsonValue (.object [("error", .string "e"),
      ("invocationId", .string "1"), ("type", .number (.ofInt 3))]))) := by
  have hiff := (reportsFailure_iff Rmp.reference SerdeJson.reference .ok).1
  refine (hiff _ (.string "e") rfl rfl ?_).mpr ?_
  · rintro ⟨⟩
  · rintro ⟨-, hnone⟩
    cases hnone

/-- An error without a text is a success: `Nil` in MessagePack, an integer in MessagePack+Brotli and
an object in JSON are parsed as a completion that answers the waiting call with `null`. -/
theorem succeeds_without_text :
    (∃ completion, HubMessage.fromJsonValue (.object [("error", .object []),
        ("invocationId", .string "1"), ("type", .number (.ofInt 3))]) =
          some (.completion completion) ∧ Resolves completion (.ok .null)) ∧
      (∃ completion, MessagePackProtocol.parseMessage Rmp.reference SerdeJson.reference
        [intValue 3, .nil, stringValue "1", intValue 1, .nil] none =
          .ok (some (.completion completion)) ∧ Resolves completion (.ok .null)) ∧
      ∃ completion, MessagePackBrotliProtocol.parseMessage Rmp.reference SerdeJson.reference .ok
        [intValue 3, .nil, stringValue "1", intValue 1, intValue 0, intValue 5] none =
          .ok (some (.completion completion)) ∧ Resolves completion (.ok .null) := by
  refine ⟨⟨⟨[], "1", none, none⟩, ?_, resolves_ok rfl⟩,
    ⟨⟨[], "1", none, none⟩, ?_, resolves_ok rfl⟩,
    ⟨[], "1", none, none⟩, ?_, resolves_ok rfl⟩
  · rw [HubMessage.fromJsonValue_completion rfl]
    rfl
  · rfl
  · rfl

end HubConnection

end Signalrr
