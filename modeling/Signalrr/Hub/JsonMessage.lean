import Signalrr.Hub.MessagePack.Values

set_option relaxedAutoImplicit false
set_option autoImplicit false

/-!
# Messages in the JSON layout

`src/hub/message.rs`: every kind of message has a writer and a reader of its own, and the optional
members of its object are only there if the field is.

## Main definitions

* `Signalrr.Hub.insertOptional` — inserting a member that may be absent.
* `Signalrr.Hub.HubMessage.toJsonValue`, `Signalrr.Hub.HubMessage.fromJsonValue` — writing and
  reading a message.
* `Signalrr.Hub.HubMessage.WellFormed` — what the types of the fields guarantee.

## Main results

* `Signalrr.Hub.lookup_insertOptional` — what is found under a key afterwards.
* `Signalrr.Hub.parseHeaders_headersObject` — headers are read back from their object.
* `Signalrr.Hub.HubMessage.fromJsonValue_toJsonValue` — every message is read back from its JSON.
-/

namespace Signalrr.Hub

/-! ## Members -/

/-- Inserting a member that may be absent. -/
def insertOptional (key : String) (value : Option Value) (map : List (String × Value)) :
    List (String × Value) :=
  match value with
  | some value => insertMember key value map
  | none => map

/-- The strings of a map as members of an object. -/
def headerMembers (headers : Headers) : List (String × Value) :=
  headers.foldl (fun map header => insertMember header.1 (.string header.2) map) []

/-- The object of headers, if there are any. -/
def headersObject (headers : Headers) : Option Value :=
  if headers.isEmpty then none else some (.object (headerMembers headers))

/-- `insert_optional_map`. -/
def insertOptionalMap (key : String) (value : Headers) : List (String × Value) →
    List (String × Value) :=
  insertOptional key (headersObject value)

/-- `insert_optional_string`. -/
def insertOptionalString (key : String) (value : Option String) : List (String × Value) →
    List (String × Value) :=
  insertOptional key (value.map .string)

/-- The array of strings, if there are any. -/
def stringListValue (value : Option (List String)) : Option Value :=
  (value.filter (!·.isEmpty)).map fun strings => .array (strings.map .string)

/-- `insert_optional_string_list`. -/
def insertOptionalStringList (key : String) (value : Option (List String)) :
    List (String × Value) → List (String × Value) :=
  insertOptional key (stringListValue value)

/-- A member that is a string. -/
def memberString (member : String × Value) : Option (String × String) :=
  member.2.asStr.map fun s => (member.1, s)

/-- `parse_headers`. -/
def parseHeaders (value : Value) : Headers :=
  match value.asObject with
  | some map => Headers.collect (map.filterMap memberString)
  | none => []

/-- `parse_optional_string`. -/
def parseOptionalString (value : Option Value) : Option String := value.bind Value.asStr

/-- `parse_optional_string_list`. -/
def parseOptionalStringList (value : Option Value) : Option (List String) :=
  value.map fun value => (value.asArray.getD []).filterMap Value.asStr

/-- What is found under a key after a member has been inserted, if it was not absent. -/
@[simp] lemma lookup_insertOptional (key : String) (value : Option Value)
    (map : List (String × Value)) (k : String) :
    (insertOptional key value map).lookup k =
      if k = key then value.or (map.lookup k) else map.lookup k := by
  cases value with
  | none => simp [insertOptional]
  | some value => rw [insertOptional, lookup_insertMember, Option.some_or]

/-- A string that may be absent is read back. -/
@[simp] lemma parseOptionalString_map (s : Option String) :
    parseOptionalString (s.map .string) = s := by
  cases s <;> rfl

/-- A list of strings is read back, where the empty list is the same as none. -/
lemma parseOptionalStringList_map (ids : Option (List String)) :
    (parseOptionalStringList (stringListValue ids)).getD [] = ids.getD [] := by
  have hstrings : ∀ ids : List String, (ids.map Value.string).filterMap Value.asStr = ids := by
    intro ids
    rw [List.filterMap_map]
    exact List.filterMap_some
  rcases ids with _ | _ | ⟨id, ids⟩
  · rfl
  · rfl
  · simp only [stringListValue, Option.filter, List.isEmpty_cons, Bool.not_false, if_true,
      Option.map_some, parseOptionalStringList, Value.asArray, Option.getD_some, hstrings]

/-! ## Headers -/

/-- Under a key that no entry has, nothing is found. -/
lemma lookup_eq_none {α : Type} {entries : List (String × α)} {k : String}
    (h : k ∉ entries.map Prod.fst) : entries.lookup k = none := by
  rw [List.lookup_eq_none_iff]
  rintro ⟨key, a⟩ hmem
  have hne : k ≠ key := by
    rintro rfl
    exact h (List.mem_map.mpr ⟨_, hmem, rfl⟩)
  simpa using hne

/-- The keys after a member has been inserted. -/
lemma mem_keys_insertMember {key k : String} {value : Value} {map : List (String × Value)} :
    k ∈ (insertMember key value map).map Prod.fst ↔ k = key ∨ k ∈ map.map Prod.fst := by
  induction map with
  | nil => simp [insertMember]
  | cons member map ih =>
    obtain ⟨k', v⟩ := member
    rw [insertMember]
    split
    · simp
    split
    · subst k'
      simp
    · rw [List.map_cons, List.mem_cons, ih, List.map_cons, List.mem_cons]
      tauto

/-- The keys of an object stay in order. -/
lemma sorted_insertMember (key : String) (value : Value) {map : List (String × Value)}
    (h : (map.map Prod.fst).Pairwise (· < ·)) :
    ((insertMember key value map).map Prod.fst).Pairwise (· < ·) := by
  induction map with
  | nil => simp [insertMember]
  | cons member map ih =>
    obtain ⟨k, v⟩ := member
    rw [List.map_cons, List.pairwise_cons] at h
    obtain ⟨hfirst, hrest⟩ := h
    rw [insertMember]
    split
    · rename_i hlt
      rw [List.map_cons, List.map_cons, List.pairwise_cons, List.pairwise_cons]
      refine ⟨?_, hfirst, hrest⟩
      rintro x (_ | ⟨_, hx⟩)
      · exact hlt
      · exact String.lt_trans hlt (hfirst x hx)
    split
    · subst k
      rw [List.map_cons, List.pairwise_cons]
      exact ⟨hfirst, hrest⟩
    · rename_i hge hne
      have hlt : k < key := by
        by_contra hnot
        exact hne (String.le_antisymm (String.not_lt.mp hnot) (String.not_lt.mp hge))
      rw [List.map_cons, List.pairwise_cons]
      refine ⟨?_, ih hrest⟩
      intro x hx
      rcases mem_keys_insertMember.mp hx with rfl | hx
      · exact hlt
      · exact hfirst x hx

/-- The members of headers have their keys in order. -/
lemma sorted_headerMembers (headers : Headers) :
    ((headerMembers headers).map Prod.fst).Pairwise (· < ·) := by
  have hfold : ∀ (hs : Headers) (map : List (String × Value)),
      (map.map Prod.fst).Pairwise (· < ·) →
      ((hs.foldl (fun map header => insertMember header.1 (.string header.2) map) map).map
        Prod.fst).Pairwise (· < ·) := by
    intro hs
    induction hs with
    | nil => exact fun _ h => h
    | cons header hs ih => exact fun map h => ih _ (sorted_insertMember _ _ h)
  exact hfold headers [] List.Pairwise.nil

/-- What is found under a key among the members of headers. -/
lemma lookup_headerMembers {headers : Headers} (h : (headers.map Prod.fst).Nodup) (k : String) :
    (headerMembers headers).lookup k = (headers.lookup k).map Value.string := by
  have hfold : ∀ (hs : Headers) (map : List (String × Value)), (hs.map Prod.fst).Nodup →
      (hs.foldl (fun map header => insertMember header.1 (.string header.2) map) map).lookup k =
        ((hs.lookup k).map Value.string).or (map.lookup k) := by
    intro hs
    induction hs with
    | nil => simp
    | cons header hs ih =>
      obtain ⟨key, value⟩ := header
      intro map hnodup
      rw [List.map_cons, List.nodup_cons] at hnodup
      obtain ⟨hnew, hnodup⟩ := hnodup
      rw [List.foldl_cons, ih _ hnodup, lookup_insertMember, lookup_cons_eq]
      by_cases hk : k = key
      · subst k
        simp [lookup_eq_none hnew]
      · rw [if_neg hk, if_neg hk]
  rw [headerMembers, hfold headers [] h, List.lookup_nil, Option.or_none]

/-- The members that are strings have some of the keys, in the same order. -/
lemma keys_filterMap_memberString (map : List (String × Value)) :
    ((map.filterMap memberString).map Prod.fst).Sublist (map.map Prod.fst) := by
  induction map with
  | nil => exact .slnil
  | cons member map ih =>
    obtain ⟨key, value⟩ := member
    rw [List.filterMap_cons, memberString]
    cases value.asStr with
    | none => exact ih.cons key
    | some s => exact ih.cons_cons key

/-- What is found under a key among the members that are strings. -/
lemma lookup_filterMap_memberString {map : List (String × Value)} (h : (map.map Prod.fst).Nodup)
    (k : String) : (map.filterMap memberString).lookup k = (map.lookup k).bind Value.asStr := by
  induction map with
  | nil => rfl
  | cons member map ih =>
    obtain ⟨key, value⟩ := member
    rw [List.map_cons, List.nodup_cons] at h
    obtain ⟨hnew, hnodup⟩ := h
    rw [List.filterMap_cons, memberString, lookup_cons_eq]
    by_cases hk : k = key
    · subst k
      rw [if_pos rfl, Option.bind_some]
      cases value.asStr with
      | none => simp [ih hnodup, lookup_eq_none hnew]
      | some s => simp
    · rw [if_neg hk]
      cases value.asStr with
      | none => exact ih hnodup
      | some s =>
        simp only [Option.map_some]
        rw [lookup_cons_eq, if_neg hk, ih hnodup]

/-- Headers are read back from their object, or from none. -/
lemma parseHeaders_headersObject {headers : Headers} (h : (headers.map Prod.fst).Nodup) :
    headers.Same (parseHeaders ((headersObject headers).getD .null)) := by
  intro k
  rw [headersObject]
  split
  · rename_i hempty
    obtain rfl := List.isEmpty_iff.mp hempty
    rfl
  · have hnodup : ((headerMembers headers).map Prod.fst).Nodup := by
      refine (sorted_headerMembers headers).imp ?_
      rintro key _ hlt rfl
      exact String.lt_irrefl key hlt
    have hkeys := (keys_filterMap_memberString (headerMembers headers)).nodup hnodup
    change _ = (Headers.collect ((headerMembers headers).filterMap memberString)).lookup k
    rw [Headers.collect_eq hkeys, lookup_filterMap_memberString hnodup, lookup_headerMembers h]
    cases headers.lookup k <;> rfl

/-! ## Messages -/

/-- The member that tells the type of a message. -/
def typeNumber (messageType : MessageType) : Value := .number (.ofInt messageType.toNat)

namespace InvocationMessage

/-- `InvocationMessage::from_json`. -/
def fromJson (obj : List (String × Value)) : Option InvocationMessage := do
  let target ← (obj.lookup "target").bind Value.asStr
  let arguments ← (obj.lookup "arguments").bind Value.asArray
  pure { headers := parseHeaders ((obj.lookup "headers").getD .null),
         invocationId := parseOptionalString (obj.lookup "invocationId"), target := target,
         arguments := .json arguments,
         streamIds := parseOptionalStringList (obj.lookup "streamIds") }

/-- `InvocationMessage::to_json`. -/
def toJson (rmp : Rmp) (serde : SerdeJson) (message : InvocationMessage) :
    Except ProtocolError Value := do
  let arguments ← message.arguments.jsonValues rmp serde
  pure (.object ([]
    |> insertMember "type" (typeNumber .invocation)
    |> insertOptionalMap "headers" message.headers
    |> insertOptionalString "invocationId" message.invocationId
    |> insertMember "target" (.string message.target)
    |> insertMember "arguments" (.array arguments)
    |> insertOptionalStringList "streamIds" message.streamIds))

end InvocationMessage

namespace StreamInvocationMessage

/-- `StreamInvocationMessage::from_json`. -/
def fromJson (obj : List (String × Value)) : Option StreamInvocationMessage := do
  let invocationId ← (obj.lookup "invocationId").bind Value.asStr
  let target ← (obj.lookup "target").bind Value.asStr
  let arguments ← (obj.lookup "arguments").bind Value.asArray
  pure { headers := parseHeaders ((obj.lookup "headers").getD .null),
         invocationId := invocationId, target := target, arguments := arguments,
         streamIds := parseOptionalStringList (obj.lookup "streamIds") }

/-- `StreamInvocationMessage::to_json`. -/
def toJson (message : StreamInvocationMessage) : Value :=
  .object ([]
    |> insertMember "type" (typeNumber .streamInvocation)
    |> insertOptionalMap "headers" message.headers
    |> insertMember "invocationId" (.string message.invocationId)
    |> insertMember "target" (.string message.target)
    |> insertMember "arguments" (.array message.arguments)
    |> insertOptionalStringList "streamIds" message.streamIds)

end StreamInvocationMessage

namespace StreamItemMessage

/-- `StreamItemMessage::from_json`. -/
def fromJson (obj : List (String × Value)) : Option StreamItemMessage := do
  let item ← obj.lookup "item"
  pure { headers := parseHeaders ((obj.lookup "headers").getD .null),
         invocationId := parseOptionalString (obj.lookup "invocationId"), item := item }

/-- `StreamItemMessage::to_json`. -/
def toJson (message : StreamItemMessage) : Value :=
  .object ([]
    |> insertMember "type" (typeNumber .streamItem)
    |> insertOptionalMap "headers" message.headers
    |> insertOptionalString "invocationId" message.invocationId
    |> insertMember "item" message.item)

end StreamItemMessage

namespace CompletionMessage

/-- `CompletionMessage::from_json`. -/
def fromJson (obj : List (String × Value)) : Option CompletionMessage := do
  let invocationId ← (obj.lookup "invocationId").bind Value.asStr
  pure { headers := parseHeaders ((obj.lookup "headers").getD .null),
         invocationId := invocationId, error := parseOptionalString (obj.lookup "error"),
         result := obj.lookup "result" }

/-- `CompletionMessage::to_json`. -/
def toJson (message : CompletionMessage) : Value :=
  .object ([]
    |> insertMember "type" (typeNumber .completion)
    |> insertOptionalMap "headers" message.headers
    |> insertMember "invocationId" (.string message.invocationId)
    |> insertOptionalString "error" message.error
    |> insertOptional "result" message.result)

end CompletionMessage

namespace CancelInvocationMessage

/-- `CancelInvocationMessage::from_json`. -/
def fromJson (obj : List (String × Value)) : Option CancelInvocationMessage := do
  let invocationId ← (obj.lookup "invocationId").bind Value.asStr
  pure { headers := parseHeaders ((obj.lookup "headers").getD .null),
         invocationId := invocationId }

/-- `CancelInvocationMessage::to_json`. -/
def toJson (message : CancelInvocationMessage) : Value :=
  .object ([]
    |> insertMember "type" (typeNumber .cancelInvocation)
    |> insertOptionalMap "headers" message.headers
    |> insertMember "invocationId" (.string message.invocationId))

end CancelInvocationMessage

namespace CloseMessage

/-- `CloseMessage::from_json`. -/
def fromJson (obj : List (String × Value)) : Option CloseMessage :=
  some { error := parseOptionalString (obj.lookup "error"),
         allowReconnect := (obj.lookup "allowReconnect").bind Value.asBool }

/-- `CloseMessage::to_json`. -/
def toJson (message : CloseMessage) : Value :=
  .object ([]
    |> insertMember "type" (typeNumber .close)
    |> insertOptionalString "error" message.error
    |> insertOptional "allowReconnect" (message.allowReconnect.map .bool))

end CloseMessage

namespace AckMessage

/-- `AckMessage::from_json`. -/
def fromJson (obj : List (String × Value)) : Option AckMessage := do
  let sequenceId ← (obj.lookup "sequenceId").bind Value.asI64
  pure { sequenceId := sequenceId }

/-- `AckMessage::to_json`. -/
def toJson (message : AckMessage) : Value :=
  .object ([]
    |> insertMember "type" (typeNumber .ack)
    |> insertMember "sequenceId" (.number (.ofInt message.sequenceId)))

end AckMessage

namespace SequenceMessage

/-- `SequenceMessage::from_json`. -/
def fromJson (obj : List (String × Value)) : Option SequenceMessage := do
  let sequenceId ← (obj.lookup "sequenceId").bind Value.asI64
  pure { sequenceId := sequenceId }

/-- `SequenceMessage::to_json`. -/
def toJson (message : SequenceMessage) : Value :=
  .object ([]
    |> insertMember "type" (typeNumber .sequence)
    |> insertMember "sequenceId" (.number (.ofInt message.sequenceId)))

end SequenceMessage

namespace HubMessage

/-- What `from_json_value` does for an object with the given type. -/
def fromObject (obj : List (String × Value)) : MessageType → Option HubMessage
  | .invocation => (InvocationMessage.fromJson obj).map .invocation
  | .streamInvocation => (StreamInvocationMessage.fromJson obj).map .streamInvocation
  | .streamItem => (StreamItemMessage.fromJson obj).map .streamItem
  | .completion => (CompletionMessage.fromJson obj).map .completion
  | .cancelInvocation => (CancelInvocationMessage.fromJson obj).map .cancelInvocation
  | .ping => some .ping
  | .close => (CloseMessage.fromJson obj).map .close
  | .ack => (AckMessage.fromJson obj).map .ack
  | .sequence => (SequenceMessage.fromJson obj).map .sequence

/-- `HubMessage::from_json_value`. -/
def fromJsonValue (value : Value) : Option HubMessage := do
  let obj ← value.asObject
  let number ← (obj.lookup "type").bind Value.asI64
  let messageType ← MessageType.fromI32 (asI32 number)
  fromObject obj messageType

/-- `HubMessage::to_json_value`. -/
def toJsonValue (rmp : Rmp) (serde : SerdeJson) : HubMessage → Except ProtocolError Value
  | .invocation message => message.toJson rmp serde
  | .streamInvocation message => .ok message.toJson
  | .streamItem message => .ok message.toJson
  | .completion message => .ok message.toJson
  | .cancelInvocation message => .ok message.toJson
  | .ping => .ok (.object (insertMember "type" (typeNumber .ping) []))
  | .close message => .ok message.toJson
  | .ack message => .ok message.toJson
  | .sequence message => .ok message.toJson

/-- What the types of the fields guarantee: the keys of headers are distinct, and a sequence id is a
signed 64-bit integer. -/
def WellFormed : HubMessage → Prop
  | .invocation message => (message.headers.map Prod.fst).Nodup
  | .streamInvocation message => (message.headers.map Prod.fst).Nodup
  | .streamItem message => (message.headers.map Prod.fst).Nodup
  | .completion message => (message.headers.map Prod.fst).Nodup
  | .cancelInvocation message => (message.headers.map Prod.fst).Nodup
  | .ping => True
  | .close _ => True
  | .ack message => -2 ^ 63 ≤ message.sequenceId ∧ message.sequenceId < 2 ^ 63
  | .sequence message => -2 ^ 63 ≤ message.sequenceId ∧ message.sequenceId < 2 ^ 63

/-! ## Reading back -/

/-- The type of a message is read back. -/
lemma asI64_typeNumber (t : MessageType) : (typeNumber t).asI64 = some (t.toNat : ℤ) := by
  have ht : t.toNat < 10 := by cases t <;> decide
  have hlow : -2 ^ 63 ≤ (t.toNat : ℤ) := by omega
  have hhigh : (t.toNat : ℤ) < 2 ^ 63 := by omega
  rw [typeNumber, Value.asI64]
  exact Number.asI64_ofInt hlow hhigh

/-- An object is read by the reader of its type. -/
lemma fromJsonValue_of_type {obj : List (String × Value)} {t : MessageType}
    (h : obj.lookup "type" = some (typeNumber t)) :
    fromJsonValue (.object obj) = fromObject obj t := by
  rw [fromJsonValue, Value.asObject]
  simp only [Option.bind_eq_bind, Option.bind_some]
  rw [h, Option.bind_some, asI64_typeNumber, Option.bind_some, MessageType.fromI32_toNat,
    Option.bind_some]

/-- Every message is read back from its JSON. -/
theorem fromJsonValue_toJsonValue {rmp : Rmp} {serde : SerdeJson} {m : HubMessage} {j : Value}
    (hm : m.WellFormed) (h : m.toJsonValue rmp serde = .ok j) :
    ∃ m', fromJsonValue j = some m' ∧ m.Same rmp serde m' := by
  cases m with
  | ping =>
    cases h
    refine ⟨.ping, ?_, trivial⟩
    rw [fromJsonValue_of_type (t := .ping) (by simp [lookup_insertMember])]
    rfl
  | ack m =>
    cases h
    have hread : (Value.number (.ofInt m.sequenceId)).asI64 = some m.sequenceId := by
      rw [Value.asI64, Number.asI64_ofInt hm.1 hm.2]
    refine ⟨.ack m, ?_, rfl⟩
    rw [AckMessage.toJson, fromJsonValue_of_type (t := .ack) (by simp [lookup_insertMember])]
    simp [fromObject, AckMessage.fromJson, lookup_insertMember, hread]
  | sequence m =>
    cases h
    have hread : (Value.number (.ofInt m.sequenceId)).asI64 = some m.sequenceId := by
      rw [Value.asI64, Number.asI64_ofInt hm.1 hm.2]
    refine ⟨.sequence m, ?_, rfl⟩
    rw [SequenceMessage.toJson,
      fromJsonValue_of_type (t := .sequence) (by simp [lookup_insertMember])]
    simp [fromObject, SequenceMessage.fromJson, lookup_insertMember, hread]
  | close m =>
    cases h
    obtain ⟨error, allowReconnect⟩ := m
    refine ⟨.close ⟨error, allowReconnect⟩, ?_, rfl⟩
    rw [CloseMessage.toJson, fromJsonValue_of_type (t := .close)
      (by simp [insertOptionalString, lookup_insertMember])]
    have hbool : (allowReconnect.map Value.bool).bind Value.asBool = allowReconnect := by
      cases allowReconnect <;> rfl
    simp [fromObject, CloseMessage.fromJson, insertOptionalString, lookup_insertMember, hbool]
  | cancelInvocation m =>
    cases h
    have hread : fromJsonValue m.toJson = some (.cancelInvocation
        { m with headers := parseHeaders ((headersObject m.headers).getD .null) }) := by
      rw [CancelInvocationMessage.toJson, fromJsonValue_of_type (t := .cancelInvocation)
        (by simp [insertOptionalMap, lookup_insertMember])]
      simp [fromObject, CancelInvocationMessage.fromJson, insertOptionalMap, lookup_insertMember,
        Value.asStr]
    exact ⟨_, hread, parseHeaders_headersObject hm, rfl⟩
  | completion m =>
    cases h
    have hread : fromJsonValue m.toJson = some (.completion
        { m with headers := parseHeaders ((headersObject m.headers).getD .null) }) := by
      rw [CompletionMessage.toJson, fromJsonValue_of_type (t := .completion)
        (by simp [insertOptionalMap, insertOptionalString, lookup_insertMember])]
      simp [fromObject, CompletionMessage.fromJson, insertOptionalMap, insertOptionalString,
        lookup_insertMember, Value.asStr]
    exact ⟨_, hread, parseHeaders_headersObject hm, rfl, rfl, rfl⟩
  | streamItem m =>
    cases h
    have hread : fromJsonValue m.toJson = some (.streamItem
        { m with headers := parseHeaders ((headersObject m.headers).getD .null) }) := by
      rw [StreamItemMessage.toJson, fromJsonValue_of_type (t := .streamItem)
        (by simp [insertOptionalMap, insertOptionalString, lookup_insertMember])]
      simp [fromObject, StreamItemMessage.fromJson, insertOptionalMap, insertOptionalString,
        lookup_insertMember]
    exact ⟨_, hread, parseHeaders_headersObject hm, rfl, rfl⟩
  | streamInvocation m =>
    cases h
    have hread : fromJsonValue m.toJson = some (.streamInvocation
        { m with
          headers := parseHeaders ((headersObject m.headers).getD .null)
          streamIds := parseOptionalStringList (stringListValue m.streamIds) }) := by
      rw [StreamInvocationMessage.toJson, fromJsonValue_of_type (t := .streamInvocation)
        (by simp [insertOptionalMap, insertOptionalStringList, lookup_insertMember])]
      simp [fromObject, StreamInvocationMessage.fromJson, insertOptionalMap,
        insertOptionalStringList, lookup_insertMember, Value.asStr, Value.asArray]
    exact ⟨_, hread, parseHeaders_headersObject hm, rfl, rfl, rfl,
      (parseOptionalStringList_map m.streamIds).symm⟩
  | invocation m =>
    change m.toJson rmp serde = .ok j at h
    rw [InvocationMessage.toJson] at h
    cases harguments : m.arguments.jsonValues rmp serde with
    | error error =>
      rw [harguments] at h
      cases h
    | ok values =>
      rw [harguments] at h
      cases h
      refine ⟨.invocation { m with
        headers := parseHeaders ((headersObject m.headers).getD .null)
        arguments := .json values
        streamIds := parseOptionalStringList (stringListValue m.streamIds) }, ?_,
        parseHeaders_headersObject hm, rfl, rfl, ⟨values, harguments, rfl⟩,
        (parseOptionalStringList_map m.streamIds).symm⟩
      rw [fromJsonValue_of_type (t := .invocation) (by
        simp [insertOptionalMap, insertOptionalString, insertOptionalStringList,
          lookup_insertMember])]
      simp [fromObject, InvocationMessage.fromJson, insertOptionalMap, insertOptionalString,
        insertOptionalStringList, lookup_insertMember, Value.asStr, Value.asArray]

end HubMessage

end Signalrr.Hub
