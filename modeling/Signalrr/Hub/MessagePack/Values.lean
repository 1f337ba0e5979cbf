import Signalrr.Hub.JsonValue
import Signalrr.Hub.MessagePack.Decode

set_option relaxedAutoImplicit false
set_option autoImplicit false

/-!
# Values of MessagePack messages

The conversions between JSON and MessagePack values in `src/hub/messagepack/write.rs` and
`parse.rs`, and the arguments of `src/hub/arguments.rs`.

## Main definitions

* `Signalrr.Hub.jsonValue`, `Signalrr.Hub.jsonToValue` — `json_to_value`.
* `Signalrr.Hub.SerdeJson`, `Signalrr.Hub.SerdeJson.InvertsJson` — the functions of the `serde_json`
  crate the client calls, and that its conversion inverts `json_to_value`.
* `Signalrr.Hub.Arguments.messagepackValue`, `jsonValues`, `fromMessagepack` — the arguments of an
  invocation.
* `Signalrr.Hub.HubMessage.Same` — when a message is read back as it was written.
* `Signalrr.Hub.MessagePackProtocol.headersValue`, `createMessageHeaders` — headers as a map.

## Main results

* `Signalrr.Hub.depth_jsonValue` — the conversion keeps the nesting.
* `Signalrr.Hub.MessagePackProtocol.createMessageHeaders_headersValue` — headers are read back.
* `Signalrr.Hub.SerdeJson.reference_invertsJson` — the assumption holds of a concrete conversion.
* `Signalrr.Hub.Arguments.jsonValues_messagePack` — encoded arguments as JSON values.
-/

namespace Signalrr.Hub

/-! ## Results -/

section Results

variable {ε α β : Type}

@[simp] lemma ok_bind (a : α) (f : α → Except ε β) : (Except.ok a >>= f) = f a := rfl

@[simp] lemma error_bind (e : ε) (f : α → Except ε β) :
    (Except.error e >>= f) = Except.error e := rfl

lemma pure_eq_ok (a : α) : (pure a : Except ε α) = .ok a := rfl

/-- Two steps succeed if both do. -/
lemma bind_eq_ok {x : Except ε α} {f : α → Except ε β} {b : β} :
    (x >>= f) = .ok b ↔ ∃ a, x = .ok a ∧ f a = .ok b := by
  cases x with
  | error e => simp
  | ok a => simp

end Results

/-! ## From JSON to MessagePack -/

/-- The value of a signed 64-bit integer. -/
def intValue (n : ℤ) : MessagePack.Value := .integer (.signed 64 le_rfl n)

/-- The value of a string. -/
def stringValue (s : String) : MessagePack.Value := .string (utf8 s)

/-- The value of a number: a signed integer if it is one, else an unsigned one, else a float. -/
def numberValue (n : Number) : MessagePack.Value :=
  match n.asI64 with
  | some v => intValue v
  | none =>
    match n.asU64 with
    | some v => .integer (.unsigned v)
    | none => .f64 (n.asF64.getD 0)

mutual

/-- `json_to_value` on a value. -/
def jsonValue : Value → MessagePack.Value
  | .null => .nil
  | .bool b => .boolean b
  | .number n => numberValue n
  | .string s => stringValue s
  | .array items => .array (jsonItems items)
  | .object members => .map (jsonMembers members)

/-- The items of an array. -/
def jsonItems : List Value → List MessagePack.Value
  | [] => []
  | v :: vs => jsonValue v :: jsonItems vs

/-- The members of an object. -/
def jsonMembers : List (String × Value) → List (MessagePack.Value × MessagePack.Value)
  | [] => []
  | (k, v) :: members => (stringValue k, jsonValue v) :: jsonMembers members

end

/-- `json_to_value`. -/
def jsonToValue : Option Value → MessagePack.Value
  | none => .nil
  | some v => jsonValue v

/-- `json_array_value`. -/
def jsonArrayValue (values : List Value) : MessagePack.Value :=
  .array (values.map fun v => jsonToValue (some v))

/-- A signed 64-bit integer is kept. -/
lemma val_signed {n : ℤ} (hlow : -2 ^ 63 ≤ n) (hhigh : n < 2 ^ 63) :
    (MessagePack.Integer.signed 64 le_rfl n).val = n :=
  Int.bmod_eq_of_le (by omega) (by omega)

/-- A number is no container. -/
lemma depth_numberValue (n : Number) : (numberValue n).depth = 0 := by
  unfold numberValue intValue
  split
  · rfl
  split
  · rfl
  · rfl

mutual

/-- The conversion keeps the nesting. -/
lemma depth_jsonValue (j : Value) : (jsonValue j).depth = j.depth := by
  cases j with
  | null => rfl
  | bool => rfl
  | number n => exact depth_numberValue n
  | string => rfl
  | array items => rw [jsonValue, MessagePack.Value.depth, Value.depth, depth_jsonItems]
  | object members => rw [jsonValue, MessagePack.Value.depth, Value.depth, depth_jsonMembers]

/-- The conversion keeps the nesting of items. -/
lemma depth_jsonItems (items : List Value) :
    MessagePack.depthItems (jsonItems items) = depthItems items := by
  cases items with
  | nil => rfl
  | cons v vs =>
    rw [jsonItems, MessagePack.depthItems, depthItems, depth_jsonValue, depth_jsonItems]

/-- The conversion keeps the nesting of members; a key is a scalar. -/
lemma depth_jsonMembers (members : List (String × Value)) :
    MessagePack.depthEntries (jsonMembers members) = depthMembers members := by
  cases members with
  | nil => rfl
  | cons member members =>
    obtain ⟨k, v⟩ := member
    have hkey : (stringValue k).depth = 0 := rfl
    rw [jsonMembers, MessagePack.depthEntries, depthMembers, depth_jsonValue, depth_jsonMembers,
      hkey]
    omega

end

/-- An array of values is nested one deeper than they are. -/
lemma depth_jsonArrayValue {values : List Value} {d : ℕ} (h : ∀ j ∈ values, j.depth < d) :
    (jsonArrayValue values).depth ≤ d := by
  rw [jsonArrayValue, MessagePack.Value.depth, MessagePack.depthItems_le]
  intro v hv
  obtain ⟨j, hj, rfl⟩ := List.mem_map.mp hv
  rw [jsonToValue, depth_jsonValue]
  exact h j hj

/-! ## From MessagePack to JSON -/

/-- The functions of `serde_json` the client calls: the conversion of a MessagePack value, and
writing and reading of JSON text. An error is its text. -/
structure SerdeJson where
  toValue : MessagePack.Value → Except String Value
  toText : Value → Except String String
  fromText : String → Except String Value

/-- The conversion of MessagePack values is the inverse of `json_to_value`. -/
def SerdeJson.InvertsJson (serde : SerdeJson) : Prop :=
  ∀ j : Value, j.Valid → serde.toValue (jsonValue j) = .ok j

/-- `value_to_json`. -/
def valueToJson (serde : SerdeJson) (value : MessagePack.Value) : Value :=
  match serde.toValue value with
  | .ok j => j
  | .error _ => .null

/-- `value_to_json_array`. -/
def valueToJsonArray (serde : SerdeJson) : MessagePack.Value → Except ProtocolError (List Value)
  | .array items => .ok (items.map (valueToJson serde))
  | _ => .error (.invalidPayload "expected array")

/-- JSON is read back from its MessagePack value. -/
lemma valueToJson_jsonValue {serde : SerdeJson} (h : serde.InvertsJson) {j : Value} (hj : j.Valid) :
    valueToJson serde (jsonValue j) = j := by
  rw [valueToJson, h j hj]

/-- A list of JSON values is read back from its MessagePack array. -/
lemma valueToJsonArray_jsonArrayValue {serde : SerdeJson} (h : serde.InvertsJson)
    {values : List Value} (hvalues : ∀ j ∈ values, j.Valid) :
    valueToJsonArray serde (jsonArrayValue values) = .ok values := by
  rw [jsonArrayValue, valueToJsonArray, List.map_map]
  congr 1
  refine (List.map_congr_left fun j hj => ?_).trans (List.map_id _)
  exact valueToJson_jsonValue h (hvalues j hj)

namespace SerdeJson

mutual

/-- The conversion of the values that JSON is written as. -/
def convert : MessagePack.Value → Except String Value
  | .nil => .ok .null
  | .boolean b => .ok (.bool b)
  | .integer n => .ok (.number (.ofInt n.val))
  | .f64 bits => .ok (.number (.float bits))
  | .string bytes =>
    match ofUtf8 bytes with
    | some s => .ok (.string s)
    | none => .error "invalid utf-8"
  | .array items => (convertItems items).map .array
  | .map entries => (convertEntries entries).map .object
  | _ => .error "not a JSON value"

/-- The conversion of items. -/
def convertItems : List MessagePack.Value → Except String (List Value)
  | [] => .ok []
  | v :: vs => do
    let j ← convert v
    let js ← convertItems vs
    pure (j :: js)

/-- The conversion of entries with strings as keys. -/
def convertEntries : List (MessagePack.Value × MessagePack.Value) →
    Except String (List (String × Value))
  | [] => .ok []
  | (.string bytes, v) :: entries => do
    let j ← convert v
    let members ← convertEntries entries
    match ofUtf8 bytes with
    | some key => pure ((key, j) :: members)
    | none => .error "invalid utf-8"
  | _ => .error "key must be a string"

end

/-- A number is read back from its value. -/
lemma convert_numberValue {n : Number} (h : n.Valid) :
    convert (numberValue n) = .ok (.number n) := by
  cases n with
  | posInt n =>
    have hn := n.toNat_lt
    have hback : UInt64.ofNat n.toNat = n := UInt64.ofNat_toNat
    have hval : ∀ m : MessagePack.Integer, m.val = n.toNat →
        convert (.integer m) = .ok (.number (.posInt n)) := by
      intro m hm
      rw [convert, hm, Number.ofInt, if_pos (Int.natCast_nonneg _), Int.toNat_natCast, hback]
    rw [numberValue, Number.asI64]
    split
    · next v hv =>
      split at hv
      · obtain rfl := Option.some.inj hv
        exact hval _ (val_signed (by omega) (by omega))
      · cases hv
    · refine hval _ ?_
      change ((n.toNat % 2 ^ 64 : ℕ) : ℤ) = n.toNat
      rw [Nat.mod_eq_of_lt hn]
  | negInt n =>
    have hlow := n.le_toInt
    rw [numberValue, Number.asI64]
    change convert (intValue n.toInt) = _
    rw [intValue, convert, val_signed hlow n.toInt_lt, Number.ofInt, if_neg (not_le.mpr h),
      Int64.ofInt_toInt]
  | float bits => rfl

mutual

/-- JSON is read back from its MessagePack value. -/
lemma convert_jsonValue (j : Value) (h : j.Valid) : convert (jsonValue j) = .ok j := by
  cases j with
  | null => rfl
  | bool => rfl
  | number n => exact convert_numberValue h
  | string s => simp only [jsonValue, stringValue, convert, ofUtf8_utf8]
  | array items => rw [jsonValue, convert, convertItems_jsonItems items h, Except.map]
  | object members => rw [jsonValue, convert, convertEntries_jsonMembers members h.2, Except.map]

/-- Items are read back. -/
lemma convertItems_jsonItems (items : List Value) (h : ValidItems items) :
    convertItems (jsonItems items) = .ok items := by
  cases items with
  | nil => rfl
  | cons v vs =>
    obtain ⟨hv, hvs⟩ := h
    rw [jsonItems, convertItems, convert_jsonValue v hv, convertItems_jsonItems vs hvs]
    rfl

/-- Members are read back. -/
lemma convertEntries_jsonMembers (members : List (String × Value)) (h : ValidMembers members) :
    convertEntries (jsonMembers members) = .ok members := by
  cases members with
  | nil => rfl
  | cons member members =>
    obtain ⟨k, v⟩ := member
    obtain ⟨hv, hvs⟩ := h
    rw [jsonMembers, stringValue, convertEntries, convert_jsonValue v hv,
      convertEntries_jsonMembers members hvs]
    simp only [ofUtf8_utf8]
    rfl

end

/-- The assumption holds of this conversion; JSON text plays no part in it. -/
def reference : SerdeJson where
  toValue := convert
  toText _ := .error "not modelled"
  fromText _ := .error "not modelled"

lemma reference_invertsJson : reference.InvertsJson := convert_jsonValue

end SerdeJson

/-! ## Arguments -/

namespace Arguments

/-- `Arguments::from_messagepack`: an encoded array, of which the header is checked. -/
def fromMessagepack (rmp : Rmp) (bytes : Bytes) : Except ProtocolError Arguments :=
  match rmp.readArrayLen bytes with
  | .ok _ => .ok (.messagePack bytes)
  | .error _ => .error (.invalidPayload "expected array")

/-- `Arguments::messagepack_value`. -/
def messagepackValue (rmp : Rmp) : Arguments → Except ProtocolError MessagePack.Value
  | .json values => .ok (jsonArrayValue values)
  | .messagePack bytes =>
    match rmp.readValue bytes with
    | .ok (value, _) => .ok value
    | .error error => .error (.messagePack ("failed to decode arguments: " ++ error))

/-- `Arguments::json_values`. -/
def jsonValues (rmp : Rmp) (serde : SerdeJson) : Arguments → Except ProtocolError (List Value)
  | .json values => .ok values
  | .messagePack bytes =>
    (messagepackValue rmp (.messagePack bytes)).bind (valueToJsonArray serde)

/-- Encoded arguments have the values that their array is converted to. -/
lemma jsonValues_messagePack {rmp : Rmp} (hlaw : rmp.Lawful) (serde : SerdeJson)
    {value : MessagePack.Value} {e : Bytes} (he : MessagePack.Encodes [value] e)
    (hdepth : value.depth < Rmp.maxDepth) :
    jsonValues rmp serde (.messagePack e) = valueToJsonArray serde value := by
  have hread : rmp.readValue (e ++ []) = .ok (value, []) := hlaw.readValue_ok he hdepth
  rw [List.append_nil] at hread
  rw [jsonValues, messagepackValue, hread]
  rfl

/-- An encoded array is taken as arguments. -/
lemma fromMessagepack_array {rmp : Rmp} (hlaw : rmp.Lawful) {items : List MessagePack.Value}
    {e : Bytes} (he : MessagePack.Encodes [.array items] e) :
    fromMessagepack rmp e = .ok (.messagePack e) := by
  obtain ⟨p, inner, rfl, hp, -⟩ := he.array_inv
  rw [fromMessagepack, hlaw.readArrayLen_ok hp]

end Arguments

/-- The same arguments: `PartialEq` compares them as JSON values. -/
def Arguments.Same (rmp : Rmp) (serde : SerdeJson) (a b : Arguments) : Prop :=
  ∃ values, a.jsonValues rmp serde = .ok values ∧ b.jsonValues rmp serde = .ok values

/-- The same message, up to the order of the headers; a list of no stream ids is the same as
none. -/
def HubMessage.Same (rmp : Rmp) (serde : SerdeJson) : HubMessage → HubMessage → Prop
  | .invocation a, .invocation b =>
    a.headers.Same b.headers ∧ a.invocationId = b.invocationId ∧ a.target = b.target ∧
      a.arguments.Same rmp serde b.arguments ∧ a.streamIds.getD [] = b.streamIds.getD []
  | .streamInvocation a, .streamInvocation b =>
    a.headers.Same b.headers ∧ a.invocationId = b.invocationId ∧ a.target = b.target ∧
      a.arguments = b.arguments ∧ a.streamIds.getD [] = b.streamIds.getD []
  | .streamItem a, .streamItem b =>
    a.headers.Same b.headers ∧ a.invocationId = b.invocationId ∧ a.item = b.item
  | .completion a, .completion b =>
    a.headers.Same b.headers ∧ a.invocationId = b.invocationId ∧ a.error = b.error ∧
      a.result = b.result
  | .cancelInvocation a, .cancelInvocation b =>
    a.headers.Same b.headers ∧ a.invocationId = b.invocationId
  | .ping, .ping => True
  | .close a, .close b => a = b
  | .ack a, .ack b => a = b
  | .sequence a, .sequence b => a = b
  | _, _ => False

namespace MessagePackProtocol

/-! ## Reading values -/

/-- `Value::as_u64`. -/
def asU64 : MessagePack.Value → Option ℕ
  | .integer n => if 0 ≤ n.val then some n.val.toNat else none
  | _ => none

/-- `Value::as_str`: a string of valid UTF-8. -/
def asStr : MessagePack.Value → Option String
  | .string bytes => ofUtf8 bytes
  | _ => none

/-- `Value::as_bool`. -/
def asBool : MessagePack.Value → Option Bool
  | .boolean b => some b
  | _ => none

/-- `value_to_i64`. -/
def valueToI64 (value : MessagePack.Value) : Except ProtocolError ℤ :=
  match asI64 value with
  | some n => .ok n
  | none => .error (.invalidPayload "expected integer")

/-- `value_to_string`. -/
def valueToString (value : MessagePack.Value) : Except ProtocolError String :=
  match asStr value with
  | some s => .ok s
  | none => .error (.invalidPayload "expected string")

/-- `optional_string`. -/
def optionalString : MessagePack.Value → Except ProtocolError (Option String)
  | .nil => .ok none
  | value => (valueToString value).map some

/-- `optional_string_value`. -/
def optionalStringValue : Option String → MessagePack.Value
  | some s => stringValue s
  | none => .nil

@[simp] lemma asI64_intValue {n : ℤ} (hlow : -2 ^ 63 ≤ n) (hhigh : n < 2 ^ 63) :
    asI64 (intValue n) = some n := by
  rw [intValue, asI64, val_signed hlow hhigh, if_pos hhigh]

@[simp] lemma asStr_stringValue (s : String) : asStr (stringValue s) = some s := ofUtf8_utf8 s

@[simp] lemma valueToString_stringValue (s : String) : valueToString (stringValue s) = .ok s := by
  rw [valueToString, asStr_stringValue]

@[simp] lemma optionalString_optionalStringValue (s : Option String) :
    optionalString (optionalStringValue s) = .ok s := by
  cases s with
  | none => rfl
  | some s =>
    change (valueToString (stringValue s)).map some = _
    rw [valueToString_stringValue, Except.map]

@[simp] lemma optionalString_stringValue (s : String) :
    optionalString (stringValue s) = .ok (some s) :=
  optionalString_optionalStringValue (some s)

@[simp] lemma depth_intValue (n : ℤ) : (intValue n).depth = 0 := rfl

@[simp] lemma depth_stringValue (s : String) : (stringValue s).depth = 0 := rfl

@[simp] lemma depth_optionalStringValue (s : Option String) :
    (optionalStringValue s).depth = 0 := by
  cases s <;> rfl

/-! ## Headers -/

/-- `headers_value`. -/
def headersValue (headers : Headers) : MessagePack.Value :=
  if headers.isEmpty then .map []
  else .map (headers.map fun header => (stringValue header.1, stringValue header.2))

/-- The keys and values of a map of strings. -/
def headerEntries :
    List (MessagePack.Value × MessagePack.Value) → Except ProtocolError (List (String × String))
  | [] => .ok []
  | (key, value) :: entries => do
    let key ← valueToString key
    let value ← valueToString value
    let entries ← headerEntries entries
    pure ((key, value) :: entries)

/-- `create_message_headers`. -/
def createMessageHeaders (data : List MessagePack.Value) : Except ProtocolError Headers :=
  if data.length < 2 then .error (.invalidPayload "invalid headers")
  else
    match data.getD 1 .nil with
    | .nil => .ok []
    | .map entries => (headerEntries entries).map Headers.collect
    | _ => .error (.invalidPayload "invalid headers")

/-- The headers of a message are read back. -/
lemma createMessageHeaders_headersValue {headers : Headers} (h : (headers.map Prod.fst).Nodup)
    (messageType : MessagePack.Value) (rest : List MessagePack.Value) :
    createMessageHeaders (messageType :: headersValue headers :: rest) = .ok headers := by
  have hentries : ∀ hs : Headers,
      headerEntries (hs.map fun header => (stringValue header.1, stringValue header.2)) =
        .ok hs := by
    intro hs
    induction hs with
    | nil => rfl
    | cons header hs ih =>
      rw [List.map_cons, headerEntries, valueToString_stringValue, valueToString_stringValue, ih]
      rfl
  have hlen : ¬ (messageType :: headersValue headers :: rest).length < 2 := by simp
  have hmap : headersValue headers =
      .map (headers.map fun header => (stringValue header.1, stringValue header.2)) := by
    cases headers <;> rfl
  rw [createMessageHeaders, if_neg hlen, hmap]
  change (headerEntries _).map Headers.collect = _
  rw [hentries, Except.map, Headers.collect_eq h]

/-- Headers are nested one deep. -/
lemma depth_headersValue (headers : Headers) : (headersValue headers).depth ≤ 1 := by
  have hentries : ∀ hs : Headers, MessagePack.depthEntries
      (hs.map fun header => (stringValue header.1, stringValue header.2)) ≤ 1 := by
    intro hs
    induction hs with
    | nil => simp [MessagePack.depthEntries]
    | cons header hs ih =>
      have hstring (s : String) : (stringValue s).depth = 0 := rfl
      rw [List.map_cons, MessagePack.depthEntries, hstring, hstring]
      omega
  unfold headersValue
  split
  · simp [MessagePack.Value.depth, MessagePack.depthEntries]
  · exact hentries headers

end MessagePackProtocol

end Signalrr.Hub
