import Signalrr.Hub.ProtocolKind

set_option relaxedAutoImplicit false
set_option autoImplicit false

/-!
# Message types a client does not know

Every parser reads the type of a message as a 64-bit integer and keeps its lowest 32 bits:
`src/hub/message.rs` and the two `parse_message` under `src/hub/messagepack`. A number that is no
message type is ignored unless these bits are one.

## Main definitions

* `Signalrr.Hub.ProtocolKind.Receives` — the types of which a protocol reads messages.
* `Signalrr.Hub.ProtocolKind.IgnoresType` — messages of a type are neither read nor an error.

## Main results

* `Signalrr.Hub.MessageType.fromI32_asI32` — the type found under the lowest 32 bits of a number.
* `Signalrr.Hub.ProtocolKind.ignoresType_iff` — which types are ignored.

## Design

Which member or element is missing from a message depends on its type, so a type is only ignored if
all messages of the type are. One message of each type is enough to see that it is not.
-/

namespace Signalrr.Hub

/-! ## Narrowing -/

namespace MessageType

/-- The numbers of the message types. -/
lemma toNat_bounds (T : MessageType) : 1 ≤ T.toNat ∧ T.toNat ≤ 9 := by
  cases T <;> decide

/-- A type is found under its number alone. -/
lemma fromI32_eq_some {n : ℤ} {T : MessageType} : fromI32 n = some T ↔ n = T.toNat := by
  constructor
  · intro h
    unfold fromI32 at h
    split at h <;> cases h <;> rfl
  · rintro rfl
    cases T <;> rfl

/-- The type found under the lowest 32 bits of a number. -/
lemma fromI32_asI32 {t : ℤ} {T : MessageType} :
    fromI32 (asI32 t) = some T ↔ t % 2 ^ 32 = T.toNat := by
  obtain ⟨hlow, hhigh⟩ := T.toNat_bounds
  rw [fromI32_eq_some, asI32, Int.bmod]
  split
  · omega
  · omega

end MessageType

/-! ## Messages of a type -/

/-- Every object with the type `t` is read as no message, and its text is passed over. -/
def JsonProtocol.IgnoresType (t : ℤ) : Prop :=
  ∀ obj, (obj.lookup "type").bind Value.asI64 = some t →
    HubMessage.fromJsonValue (.object obj) = none ∧
      ∀ (serde : SerdeJson) (text : String), serde.fromText text = .ok (.object obj) →
        ∀ texts, parseTexts serde (text :: texts) = parseTexts serde texts

/-- Every array that starts with `t` is parsed as no message. -/
def MessagePackProtocol.IgnoresType (rmp : Rmp) (serde : SerdeJson) (t : ℤ) : Prop :=
  ∀ data raw, data.head?.bind asI64 = some t → parseMessage rmp serde data raw = .ok none

/-- Every array that starts with `t` is parsed as no message. -/
def MessagePackBrotliProtocol.IgnoresType (rmp : Rmp) (serde : SerdeJson) (decoder : BrotliDecoder)
    (t : ℤ) : Prop :=
  ∀ data raw, data.head?.bind MessagePackProtocol.asI64 = some t →
    parseMessage rmp serde decoder data raw = .ok none

/-- A text of which nothing is read is passed over. -/
lemma JsonProtocol.parseTexts_of_none {serde : SerdeJson} {text : String} {value : Value}
    (htext : serde.fromText text = .ok value) (hnone : HubMessage.fromJsonValue value = none)
    (texts : List String) : parseTexts serde (text :: texts) = parseTexts serde texts := by
  rw [parseTexts, htext]
  simp only [hnone, Option.toList_none, List.nil_append]
  cases parseTexts serde texts <;> rfl

/-- An object is read by the type its number is narrowed to. -/
lemma HubMessage.fromJsonValue_of_number {obj : List (String × Value)} {t : ℤ}
    (h : (obj.lookup "type").bind Value.asI64 = some t) :
    fromJsonValue (.object obj) = (MessageType.fromI32 (asI32 t)).bind (fromObject obj) := by
  rw [fromJsonValue, Value.asObject]
  simp only [Option.bind_eq_bind, Option.bind_some, h]

/-- The type of an array that starts with a number. -/
lemma MessagePackProtocol.valueToI64_of_head {data : List MessagePack.Value} {t : ℤ}
    (h : data.head?.bind asI64 = some t) :
    data.isEmpty = false ∧ valueToI64 (data.getD 0 .nil) = .ok t := by
  cases data with
  | nil => cases h
  | cons x data =>
    rw [List.head?_cons, Option.bind_some] at h
    refine ⟨rfl, ?_⟩
    rw [List.getD_cons_zero, valueToI64, h]

/-! ## The types that are ignored -/

namespace ProtocolKind

/-- The types of which a protocol reads messages. -/
def Receives : ProtocolKind → MessageType → Prop
  | json, _ => True
  | messagePack, T => T ≠ .streamInvocation ∧ T ≠ .cancelInvocation
  | messagePackBrotli, T => T ≠ .cancelInvocation

/-- Messages of the type `t` yield no message and no error. -/
def IgnoresType (rmp : Rmp) (serde : SerdeJson) (decoder : BrotliDecoder) (t : ℤ) :
    ProtocolKind → Prop
  | json => JsonProtocol.IgnoresType t
  | messagePack => MessagePackProtocol.IgnoresType rmp serde t
  | messagePackBrotli => MessagePackBrotliProtocol.IgnoresType rmp serde decoder t

variable {rmp : Rmp} {serde : SerdeJson} {decoder : BrotliDecoder} {kind : ProtocolKind} {t : ℤ}

/-- A number that is narrowed to no type that is received is ignored. -/
lemma ignoresType_of_narrow (h : ∀ T, kind.Receives T → t % 2 ^ 32 ≠ T.toNat) :
    kind.IgnoresType rmp serde decoder t := by
  have hnarrow : ∀ {T}, MessageType.fromI32 (asI32 t) = some T → ¬ kind.Receives T :=
    fun hT hreceives => h _ hreceives (MessageType.fromI32_asI32.mp hT)
  cases kind with
  | json =>
    intro obj htype
    have hnone : HubMessage.fromJsonValue (.object obj) = none := by
      rw [HubMessage.fromJsonValue_of_number htype]
      cases hT : MessageType.fromI32 (asI32 t) with
      | none => rfl
      | some T => exact absurd trivial (hnarrow hT)
    exact ⟨hnone, fun serde text htext => JsonProtocol.parseTexts_of_none htext hnone⟩
  | messagePack =>
    intro data raw hhead
    obtain ⟨hsome, hread⟩ := MessagePackProtocol.valueToI64_of_head hhead
    rw [MessagePackProtocol.parseMessage, hsome, hread]
    simp only [Bool.false_eq_true, if_false, ok_bind]
    cases hT : MessageType.fromI32 (asI32 t) with
    | none => rfl
    | some T =>
      have hnot := hnarrow hT
      cases T with
      | streamInvocation | cancelInvocation => rfl
      | _ => exact absurd ⟨by decide, by decide⟩ hnot
  | messagePackBrotli =>
    intro data raw hhead
    obtain ⟨hsome, hread⟩ := MessagePackProtocol.valueToI64_of_head hhead
    rw [MessagePackBrotliProtocol.parseMessage, hsome, hread]
    simp only [Bool.false_eq_true, if_false, ok_bind]
    cases hT : MessageType.fromI32 (asI32 t) with
    | none => rfl
    | some T =>
      have hnot := hnarrow hT
      cases T with
      | cancelInvocation => rfl
      | _ => exact hnot.elim (by change _ ≠ _; decide)

/-- The members of an object that is read as a message of any type. -/
def anyMembers (t : ℤ) : List (String × Value) :=
  [("arguments", .array []), ("invocationId", .string ""), ("item", .null),
    ("sequenceId", .number (.posInt 0)), ("target", .string ""), ("type", .number (.ofInt t))]

/-- An object with all members is read as a message of its type. -/
lemma fromObject_anyMembers (t : ℤ) (T : MessageType) :
    ∃ m, HubMessage.fromObject (anyMembers t) T = some m := by
  cases T <;> exact ⟨_, rfl⟩

/-- The type of an object with all members. -/
lemma type_anyMembers (hlow : -2 ^ 63 ≤ t) (hhigh : t < 2 ^ 63) :
    ((anyMembers t).lookup "type").bind Value.asI64 = some t := by
  have htype : (anyMembers t).lookup "type" = some (.number (.ofInt t)) := rfl
  rw [htype, Option.bind_some, Value.asI64, Number.asI64_ofInt hlow hhigh]

/-- A number that is narrowed to a type that is received is not ignored. -/
lemma not_ignoresType_of_narrow (hlow : -2 ^ 63 ≤ t) (hhigh : t < 2 ^ 63) {T : MessageType}
    (hreceives : kind.Receives T) (hT : t % 2 ^ 32 = T.toNat) :
    ¬ kind.IgnoresType rmp serde decoder t := by
  intro h
  have hnarrow := MessageType.fromI32_asI32.mpr hT
  have hhead : [intValue t].head?.bind MessagePackProtocol.asI64 = some t :=
    MessagePackProtocol.asI64_intValue hlow hhigh
  obtain ⟨hsome, hread⟩ := MessagePackProtocol.valueToI64_of_head hhead
  cases kind with
  | json =>
    obtain ⟨hnone, -⟩ := h (anyMembers t) (type_anyMembers hlow hhigh)
    obtain ⟨m, hm⟩ := fromObject_anyMembers t T
    rw [HubMessage.fromJsonValue_of_number (type_anyMembers hlow hhigh), hnarrow,
      Option.bind_some, hm] at hnone
    cases hnone
  | messagePack =>
    have hnone := h [intValue t] none hhead
    rw [MessagePackProtocol.parseMessage, hsome, hread] at hnone
    simp only [Bool.false_eq_true, if_false, ok_bind, hnarrow] at hnone
    cases T with
    | streamInvocation => exact hreceives.1 rfl
    | cancelInvocation => exact hreceives.2 rfl
    | _ => cases hnone
  | messagePackBrotli =>
    have hnone := h [intValue t] none hhead
    rw [MessagePackBrotliProtocol.parseMessage, hsome, hread] at hnone
    simp only [Bool.false_eq_true, if_false, ok_bind, hnarrow] at hnone
    cases T with
    | cancelInvocation => exact hreceives rfl
    | _ => cases hnone

/-- A number is ignored by a protocol if and only if its lowest 32 bits are not the number of a type
the protocol receives.

**Proof sketch.** The type is looked up under the lowest 32 bits. If a type is found, the shortest
array is an error or a message, and so is an object with all members. -/
theorem ignoresType_iff (rmp : Rmp) (serde : SerdeJson) (decoder : BrotliDecoder)
    (kind : ProtocolKind) (hlow : -2 ^ 63 ≤ t) (hhigh : t < 2 ^ 63) :
    kind.IgnoresType rmp serde decoder t ↔ ∀ T, kind.Receives T → t % 2 ^ 32 ≠ T.toNat := by
  constructor
  · intro h T hreceives hT
    exact not_ignoresType_of_narrow hlow hhigh hreceives hT h
  · exact ignoresType_of_narrow

/-- The number ten is ignored. -/
theorem ignoresType_ten :
    json.IgnoresType Rmp.reference SerdeJson.reference .ok 10 ∧
      messagePackBrotli.IgnoresType Rmp.reference SerdeJson.reference .ok 10 := by
  have hten : ∀ T : MessageType, (10 : ℤ) % 2 ^ 32 ≠ T.toNat := by
    intro T
    have hbounds := T.toNat_bounds
    omega
  constructor
  · exact (ignoresType_iff _ _ _ _ (by decide) (by decide)).mpr fun T _ => hten T
  · exact (ignoresType_iff _ _ _ _ (by decide) (by decide)).mpr fun T _ => hten T

/-- The number 4294967302, of which the lowest 32 bits are six, is no message type and is read as a
`Ping` by all protocols. -/
theorem ping_of_large_type :
    HubMessage.fromJsonValue (.object [("type", .number (.ofInt 4294967302))]) = some .ping ∧
      MessagePackProtocol.parseMessage Rmp.reference SerdeJson.reference [intValue 4294967302]
        none = .ok (some .ping) ∧
      MessagePackBrotliProtocol.parseMessage Rmp.reference SerdeJson.reference .ok
        [intValue 4294967302] none = .ok (some .ping) ∧
      ∀ kind : ProtocolKind,
        ¬ kind.IgnoresType Rmp.reference SerdeJson.reference .ok 4294967302 := by
  have hlow : -2 ^ 63 ≤ (4294967302 : ℤ) := by decide
  have hhigh : (4294967302 : ℤ) < 2 ^ 63 := by decide
  have hping : (4294967302 : ℤ) % 2 ^ 32 = MessageType.ping.toNat := by decide
  have hnarrow := MessageType.fromI32_asI32.mpr hping
  have htype : ([("type", Value.number (.ofInt 4294967302))].lookup "type").bind Value.asI64 =
      some 4294967302 := Number.asI64_ofInt hlow hhigh
  have hhead : [intValue 4294967302].head?.bind MessagePackProtocol.asI64 = some 4294967302 :=
    MessagePackProtocol.asI64_intValue hlow hhigh
  have hread := (MessagePackProtocol.valueToI64_of_head hhead).2
  refine ⟨?_, ?_, ?_, ?_⟩
  · rw [HubMessage.fromJsonValue_of_number htype, hnarrow]
    rfl
  · rw [MessagePackProtocol.parseMessage, hread, ok_bind, hnarrow]
    rfl
  · rw [MessagePackBrotliProtocol.parseMessage, hread, ok_bind, hnarrow]
    rfl
  · intro kind
    refine not_ignoresType_of_narrow hlow hhigh ?_ hping
    cases kind with
    | json => trivial
    | messagePack => exact ⟨by decide, by decide⟩
    | messagePackBrotli => exact (by decide : MessageType.ping ≠ .cancelInvocation)

end ProtocolKind

end Signalrr.Hub
