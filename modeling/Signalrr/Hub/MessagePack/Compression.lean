import Signalrr.Hub.MessagePack.RoundTrip

set_option relaxedAutoImplicit false
set_option autoImplicit false

/-!
# Compressed payloads

A message with a compressed payload and the same message with the payload as it is are read alike by
the MessagePack+Brotli protocol.

## Main definitions

* `Signalrr.Hub.MessagePackBrotliProtocol.Carrier` — the messages that carry a payload, with the
  elements before it.
* `Signalrr.Hub.SameOutcome` — the same answer, or an error in both cases.

## Main results

* `Signalrr.Hub.MessagePackBrotliProtocol.parse_compressed` — compression is transparent.

## Design

The elements before and behind the payload are arbitrary values, also ones that make no message.
They may be nested too deep for the decoder, which is then an error in both cases.
-/

namespace Signalrr.Hub

open Framing
open MessagePack (Encodes Header)

/-! ## The same outcome -/

/-- Related answers, or an error in both cases. -/
def SameOutcome {α : Type} (same : α → α → Prop) (a b : Checked α) : Prop :=
  (∃ x y, a = pure x ∧ b = pure y ∧ same x y) ∨ ∃ error error', a = throw error ∧ b = throw error'

/-- Two answers that are the same message. -/
def SameMessage (rmp : Rmp) (serde : SerdeJson) (a b : Option HubMessage) : Prop :=
  ∃ m m', a = some m ∧ b = some m' ∧ m.Same rmp serde m'

namespace SameOutcome

variable {α β : Type} {same : α → α → Prop} {same' : β → β → Prop}

/-- The same answer or the same error. -/
lemma of_except (a : Except ProtocolError β) (f : β → α) (h : ∀ x, same (f x) (f x)) :
    SameOutcome same (Checked.ofExcept (a.map f)) (Checked.ofExcept (a.map f)) := by
  cases a with
  | error error => exact .inr ⟨error, error, rfl, rfl⟩
  | ok x => exact .inl ⟨f x, f x, rfl, rfl, h x⟩

/-- A function of the answers that keeps the relation. -/
lemma map {a b : Checked α} (h : SameOutcome same a b) (f : α → β)
    (hf : ∀ x y, same x y → same' (f x) (f y)) :
    SameOutcome same' (a >>= fun x => pure (f x)) (b >>= fun x => pure (f x)) := by
  rcases h with ⟨x, y, rfl, rfl, hxy⟩ | ⟨error, error', rfl, rfl⟩
  · exact .inl ⟨f x, f y, rfl, rfl, hf x y hxy⟩
  · exact .inr ⟨error, error', rfl, rfl⟩

end SameOutcome

namespace MessagePackProtocol

/-! ## Elements that are nested too deep -/

section Deep

variable {rmp : Rmp} {w k : ℕ}

/-- An element that is nested too deep is not decoded. -/
lemma decodeItems_deep (hlaw : rmp.Lawful) {xs : List MessagePack.Value} :
    ∀ {e : Bytes} {n index : ℕ} {items : List MessagePack.Value} {raw : Option Bytes}
      (rest : Bytes), Encodes xs e →
      (∀ j < xs.length, index + j = k → ¬ isInvocation (items ++ xs)) →
      (∃ x ∈ xs, Rmp.maxDepth ≤ x.depth) →
      ∃ error, decodeItems rmp w k (xs.length + n) index items raw (e ++ rest) = throw error := by
  induction xs with
  | nil =>
    rintro e n index items raw rest - - ⟨x, hx, -⟩
    cases hx
  | cons x xs ih =>
    intro e n index items raw rest he hplain hdeep
    obtain ⟨ex, exs, rfl, hx, hxs⟩ := he.cons_inv
    have hread : ¬ (index = k ∧ isInvocation items) := fun h =>
      hplain 0 (by simp) h.1 (isInvocation_append h.2 _)
    have hcount : (x :: xs).length + n = (xs.length + n) + 1 := by
      rw [List.length_cons]
      omega
    rw [hcount, decodeItems, if_neg hread, List.append_assoc]
    by_cases hxdeep : Rmp.maxDepth ≤ x.depth
    · have hrefused : ∃ error, rmp.readValue (ex ++ (exs ++ rest)) = .error error :=
        hlaw.readValue_deep hx hxdeep
      obtain ⟨error, herror⟩ := hrefused
      exact ⟨_, by rw [herror]⟩
    · have hnext : ∀ j < xs.length, index + 1 + j = k → ¬ isInvocation ((items ++ [x]) ++ xs) := by
        intro j hj hk
        rw [List.append_assoc, List.singleton_append]
        exact hplain (j + 1) (by simpa using hj) (by omega)
      have hdeep' : ∃ y ∈ xs, Rmp.maxDepth ≤ y.depth := by
        obtain ⟨y, hy, hydeep⟩ := hdeep
        rcases List.mem_cons.mp hy with rfl | hy
        · exact absurd hydeep hxdeep
        · exact ⟨y, hy, hydeep⟩
      rw [hlaw.readValue_ok hx (by omega)]
      exact ih rest hxs hnext hdeep'

/-- A packed message that is no invocation is not decoded if an element is nested too deep. -/
lemma decodeMessage_packed_deep (hlaw : rmp.Lawful) {xs : List MessagePack.Value} {packed : Bytes}
    (h : Encodes [.array xs] packed) (hdeep : ∃ x ∈ xs, Rmp.maxDepth ≤ x.depth)
    (hplain : ¬ isInvocation xs) : ∃ error, decodeMessage rmp w packed k = throw error := by
  obtain ⟨p, inner, rfl, hp, hinner⟩ := h.array_inv
  rw [decodeMessage, hlaw.readArrayLen_ok hp, ← List.append_nil inner]
  exact decodeItems_deep (n := 0) hlaw [] hinner (fun _ _ _ => hplain) hdeep

/-- A packed invocation is not decoded if an element other than the arguments is nested too deep. -/
lemma decodeMessage_packed_invocation_deep (hlaw : rmp.Lawful) (hw : 32 ≤ w)
    {front back : List MessagePack.Value} {x : MessagePack.Value} {packed : Bytes}
    (h : Encodes [.array (front ++ x :: back)] packed) (hk : front.length = k)
    (hfront : isInvocation front) (hdepth : x.depth ≤ maxDepth)
    (hdeep : ∃ y ∈ front ++ back, Rmp.maxDepth ≤ y.depth) (hlen : packed.length < 2 ^ w) :
    ∃ error, decodeMessage rmp w packed k = throw error := by
  obtain ⟨p, inner, rfl, hp, hinner⟩ := h.array_inv
  obtain ⟨a, tail, rfl, ha, htail⟩ := hinner.append_inv
  obtain ⟨raw, b, rfl, hraw, hb⟩ := htail.cons_inv
  have hbefore : ∀ j < front.length, 0 + j = k → ¬ isInvocation ([] ++ front) := by
    intro j hj hj'
    omega
  have hcount : (front ++ x :: back).length = front.length + (back.length + 1) := by
    rw [List.length_append, List.length_cons]
  rw [decodeMessage, hlaw.readArrayLen_ok hp]
  simp only [hcount]
  by_cases hfrontDeep : ∃ y ∈ front, Rmp.maxDepth ≤ y.depth
  · exact decodeItems_deep hlaw _ ha hbefore hfrontDeep
  · have hshallow : ∀ y ∈ front, y.depth < Rmp.maxDepth := by
      intro y hy
      by_contra hge
      exact hfrontDeep ⟨y, hy, by omega⟩
    have hbackDeep : ∃ y ∈ back, Rmp.maxDepth ≤ y.depth := by
      obtain ⟨y, hy, hydeep⟩ := hdeep
      rcases List.mem_append.mp hy with hy | hy
      · exact absurd ⟨y, hy, hydeep⟩ hfrontDeep
      · exact ⟨y, hy, hydeep⟩
    have hfit : raw.length < 2 ^ w := by
      simp only [List.length_append] at hlen
      omega
    have hbehind : ∀ j < back.length, k + 1 + j = k →
        ¬ isInvocation (([] ++ front ++ [.nil]) ++ back) := by
      intro j hj hj'
      omega
    have hskip := decodeItems_arguments (k := k) hlaw hw hraw hdepth (.inr hfit)
      (show isInvocation ([] ++ front) from hfront) back.length none b
    rw [decodeItems_of_encodes hlaw ha hshallow hbefore, Nat.zero_add, hk, hskip,
      ← List.append_nil b]
    exact decodeItems_deep (n := 0) hlaw [] hb hbehind hbackDeep

end Deep

end MessagePackProtocol

namespace MessagePackBrotliProtocol

open MessagePackProtocol (typeValue decodeMessage createMessageHeaders isInvocation_typeValue
  asI64_intValue valueToI64_intValue)

/-! ## Messages with a payload -/

/-- The messages that carry a payload, with the values of the elements before it. -/
inductive Carrier where
  | invocation (headers invocationId target : MessagePack.Value)
  | streamInvocation (headers invocationId target : MessagePack.Value)
  | streamItem (headers invocationId : MessagePack.Value)
  | completion (headers invocationId : MessagePack.Value) (isError : Bool)

/-- The elements before the flag, behind the type of the message. -/
def Carrier.front : Carrier → List MessagePack.Value
  | invocation headers invocationId target => [headers, invocationId, target]
  | streamInvocation headers invocationId target => [headers, invocationId, target]
  | streamItem headers invocationId => [headers, invocationId]
  | completion headers invocationId isError => [headers, invocationId,
      intValue (if isError then MessagePackProtocol.errorResult
        else MessagePackProtocol.nonVoidResult)]

/-- The type of the message. -/
def Carrier.messageType : Carrier → MessageType
  | invocation .. => .invocation
  | streamInvocation .. => .streamInvocation
  | streamItem .. => .streamItem
  | completion .. => .completion

/-- The elements of the message with a flag and a payload, and anything behind them. -/
def Carrier.elements (carrier : Carrier) (flag payload : MessagePack.Value)
    (more : List MessagePack.Value) : List MessagePack.Value :=
  (typeValue carrier.messageType :: (carrier.front ++ [flag])) ++ payload :: more

section Payload

variable {rmp : Rmp} {serde : SerdeJson} {decoder : BrotliDecoder} {w : ℕ} {v : MessagePack.Value}
  {c ev : Bytes}

/-- The flag of a compressed payload. -/
lemma isCompressed_one : isCompressed (some (intValue 1)) = true := by
  rw [isCompressed, Option.bind_some, asI64_intValue (by omega) (by omega)]
  rfl

/-- A compressed payload is unpacked. -/
lemma unpackData_one (hlaw : rmp.Lawful) (hc : decoder c = .ok ev) (hv : Encodes [v] ev)
    (hdepth : v.depth ≤ 512) :
    unpackData rmp decoder (some (.binary c)) (isCompressed (some (intValue 1))) =
      .ok (some v) := by
  have hread : rmp.readValue (ev ++ []) = .ok (v, []) :=
    hlaw.readValue_ok hv (Nat.lt_of_le_of_lt hdepth (by decide))
  rw [List.append_nil] at hread
  rw [isCompressed_one]
  simp [unpackData, valueToBytes, hc, hread, pure_eq_ok]

/-- The headers are read from the second element. -/
lemma createMessageHeaders_eq (t headers : MessagePack.Value) (rest : List MessagePack.Value) :
    createMessageHeaders (t :: headers :: rest) = createMessageHeaders [t, headers] := by
  simp [createMessageHeaders]

/-- The fields of a message other than an invocation are read alike. -/
lemma parseMessage_compressed (hlaw : rmp.Lawful) (hc : decoder c = .ok ev) (hv : Encodes [v] ev)
    (hdepth : v.depth ≤ 512) {carrier : Carrier} (hcarrier : carrier.messageType ≠ .invocation)
    (more : List MessagePack.Value) :
    SameOutcome (SameMessage rmp serde)
      (Checked.ofExcept
        (parseMessage rmp serde decoder (carrier.elements (intValue 1) (.binary c) more) none))
      (Checked.ofExcept
        (parseMessage rmp serde decoder (carrier.elements (intValue 0) v more) none)) := by
  have hone := unpackData_one hlaw hc hv hdepth
  have hzero : unpackData rmp decoder (some v) (isCompressed (some (intValue 0))) = .ok (some v) :=
    unpackData_zero v
  cases carrier with
  | invocation => exact absurd rfl hcarrier
  | streamInvocation headers invocationId target =>
    have hread : createStreamInvocationMessage rmp serde decoder
          (Carrier.elements (.streamInvocation headers invocationId target) (intValue 1) (.binary c)
            more) =
        createStreamInvocationMessage rmp serde decoder
          (Carrier.elements (.streamInvocation headers invocationId target) (intValue 0) v
            more) := by
      simp [createStreamInvocationMessage, Carrier.elements, Carrier.front, hone, hzero,
        createMessageHeaders_eq _ headers]
    simp only [Carrier.elements, List.cons_append, parseMessage_typeValue, Carrier.messageType]
      at hread ⊢
    rw [hread]
    exact SameOutcome.of_except _ _ fun m =>
      ⟨_, _, rfl, rfl, Headers.Same.refl _, rfl, rfl, rfl, rfl⟩
  | streamItem headers invocationId =>
    have hread : createStreamItemMessage rmp serde decoder
          (Carrier.elements (.streamItem headers invocationId) (intValue 1) (.binary c) more) =
        createStreamItemMessage rmp serde decoder
          (Carrier.elements (.streamItem headers invocationId) (intValue 0) v more) := by
      simp [createStreamItemMessage, Carrier.elements, Carrier.front, hone, hzero,
        createMessageHeaders_eq _ headers]
    simp only [Carrier.elements, List.cons_append, parseMessage_typeValue, Carrier.messageType]
      at hread ⊢
    rw [hread]
    exact SameOutcome.of_except _ _ fun m => ⟨_, _, rfl, rfl, Headers.Same.refl _, rfl, rfl⟩
  | completion headers invocationId isError =>
    have hread : createCompletionMessage rmp serde decoder
          (Carrier.elements (.completion headers invocationId isError) (intValue 1) (.binary c)
            more) =
        createCompletionMessage rmp serde decoder
          (Carrier.elements (.completion headers invocationId isError) (intValue 0) v more) := by
      simp [createCompletionMessage, Carrier.elements, Carrier.front, hone, hzero,
        createMessageHeaders_eq _ headers]
    simp only [Carrier.elements, List.cons_append, parseMessage_typeValue, Carrier.messageType]
      at hread ⊢
    rw [hread]
    exact SameOutcome.of_except _ _ fun m => ⟨_, _, rfl, rfl, Headers.Same.refl _, rfl, rfl, rfl⟩

/-- Two encodings of one value are both taken as arguments with the same values, or both refused. -/
lemma fromMessagepack_encodes (hlaw : rmp.Lawful) (serde : SerdeJson) {e e' : Bytes}
    (he : Encodes [v] e) (he' : Encodes [v] e') (hdepth : v.depth ≤ 512) :
    (Arguments.fromMessagepack rmp e = .ok (.messagePack e) ∧
        Arguments.fromMessagepack rmp e' = .ok (.messagePack e') ∧
          (Arguments.messagePack e).Same rmp serde (.messagePack e')) ∨
      ∃ error, Arguments.fromMessagepack rmp e = .error error ∧
        Arguments.fromMessagepack rmp e' = .error error := by
  by_cases harray : ∃ items, v = .array items
  · obtain ⟨items, rfl⟩ := harray
    have hshallow := Nat.lt_of_le_of_lt hdepth (show 512 < Rmp.maxDepth by decide)
    exact .inl ⟨Arguments.fromMessagepack_array hlaw he, Arguments.fromMessagepack_array hlaw he',
      items.map (valueToJson serde), Arguments.jsonValues_messagePack hlaw serde he hshallow,
      Arguments.jsonValues_messagePack hlaw serde he' hshallow⟩
  · have hrefused : ∀ {bytes : Bytes}, Encodes [v] bytes →
        Arguments.fromMessagepack rmp bytes = .error (.invalidPayload "expected array") := by
      intro bytes hbytes
      rw [Arguments.fromMessagepack]
      cases hread : rmp.readArrayLen bytes with
      | error error => rfl
      | ok header =>
        obtain ⟨p, rfl, hp⟩ := hlaw.header_of_readArrayLen hread
        exact absurd (hbytes.array_of_header hp) harray
    exact .inr ⟨_, hrefused he, hrefused he'⟩

/-- The arguments of an invocation are unpacked from compressed bytes. -/
lemma unpackArguments_one (hlaw : rmp.Lawful) (hc : decoder c = .ok ev) {raw : Bytes}
    (hraw : Encodes [.binary c] raw) :
    unpackArguments rmp decoder (some raw) (isCompressed (some (intValue 1))) =
      Arguments.fromMessagepack rmp ev := by
  have hread : rmp.readValue (raw ++ []) = .ok (.binary c, []) :=
    hlaw.readValue_ok hraw (Nat.succ_pos _)
  rw [List.append_nil] at hread
  rw [isCompressed_one]
  simp [unpackArguments, hread, valueToBytes, hc]

/-- The fields of an invocation are read alike, with arguments that have the same JSON values. -/
lemma parseMessage_compressed_invocation (hlaw : rmp.Lawful) (hc : decoder c = .ok ev)
    (hv : Encodes [v] ev) (hdepth : v.depth ≤ 512) {raw₁ raw₀ : Bytes}
    (hraw₁ : Encodes [.binary c] raw₁) (hraw₀ : Encodes [v] raw₀) {carrier : Carrier}
    (hcarrier : carrier.messageType = .invocation) (more : List MessagePack.Value) :
    SameOutcome (SameMessage rmp serde)
      (Checked.ofExcept (parseMessage rmp serde decoder
        (carrier.elements (intValue 1) .nil more) (some raw₁)))
      (Checked.ofExcept (parseMessage rmp serde decoder
        (carrier.elements (intValue 0) .nil more) (some raw₀))) := by
  cases carrier with
  | streamInvocation | streamItem | completion => cases hcarrier
  | invocation headers invocationId target =>
    have hone := unpackArguments_one hlaw hc hraw₁
    have hzero : unpackArguments rmp decoder (some raw₀) (isCompressed (some (intValue 0))) =
        Arguments.fromMessagepack rmp raw₀ := by
      rw [isCompressed_zero]
      rfl
    simp only [Carrier.elements, List.cons_append, parseMessage_typeValue, Carrier.messageType]
    simp only [Carrier.front, createInvocationMessage, List.cons_append, List.nil_append,
      createMessageHeaders_eq _ headers]
    simp only [List.length_cons, List.getElem?_cons_succ, List.getElem?_cons_zero,
      List.getD_cons_succ, List.getD_cons_zero, hone, hzero]
    have hlen : ¬ more.length + 1 + 1 + 1 + 1 + 1 + 1 < 5 := by omega
    rcases fromMessagepack_encodes hlaw serde hv hraw₀ hdepth with
      ⟨hev, hraw, hsame⟩ | ⟨error, hev, hraw⟩
    · rw [hev, hraw]
      simp only [if_neg hlen, ok_bind]
      cases createMessageHeaders [typeValue .invocation, headers] with
      | error error => exact .inr ⟨error, error, rfl, rfl⟩
      | ok headers =>
        cases MessagePackProtocol.optionalString invocationId with
        | error error => exact .inr ⟨error, error, rfl, rfl⟩
        | ok invocationId =>
          cases MessagePackProtocol.valueToString target with
          | error error => exact .inr ⟨error, error, rfl, rfl⟩
          | ok target =>
            exact .inl ⟨_, _, rfl, rfl, _, _, rfl, rfl, Headers.Same.refl _, rfl, rfl, hsame, rfl⟩
    · rw [hev, hraw]
      simp only [if_neg hlen, error_bind]
      exact .inr ⟨error, error, rfl, rfl⟩

/-! ## Frames -/

/-- A frame that decodes to elements of which one is nested too deep is refused. -/
lemma parseFrame_deep (hlaw : rmp.Lawful) (hw : 32 ≤ w) (carrier : Carrier)
    {flag payload : MessagePack.Value} (hdepth : payload.depth ≤ 512)
    {more : List MessagePack.Value} {packed : Bytes} (hlen : packed.length < 2 ^ w)
    (h : Encodes [.array (carrier.elements flag payload more)] packed)
    (hdeep : ∃ x ∈ carrier.front ++ more, Rmp.maxDepth ≤ x.depth) :
    ∃ error, parseFrame rmp serde decoder w packed = throw error := by
  have hdecode : ∃ error, decodeMessage rmp w packed 5 = throw error := by
    obtain ⟨x, hx, hxdeep⟩ := hdeep
    by_cases hcarrier : carrier.messageType = .invocation
    · refine MessagePackProtocol.decodeMessage_packed_invocation_deep hlaw hw h ?_ ?_ hdepth
        ⟨x, ?_, hxdeep⟩ hlen
      · cases carrier with
        | invocation => rfl
        | streamInvocation | streamItem | completion => cases hcarrier
      · exact isInvocation_typeValue.mpr hcarrier
      · simp only [List.mem_append, List.mem_cons] at hx ⊢
        tauto
    · refine MessagePackProtocol.decodeMessage_packed_deep hlaw h ⟨x, ?_, hxdeep⟩
        (isInvocation_typeValue.not.mpr hcarrier)
      simp only [Carrier.elements, List.mem_append, List.mem_cons] at hx ⊢
      tauto
  obtain ⟨error, herror⟩ := hdecode
  exact ⟨error, by rw [parseFrame, herror, Checked.throw_bind]⟩

/-- A frame of a message other than an invocation is parsed from its elements. -/
lemma parseFrame_carrier (hlaw : rmp.Lawful) {carrier : Carrier}
    (hcarrier : carrier.messageType ≠ .invocation) {flag payload : MessagePack.Value}
    (hflag : flag.depth = 0) (hdepth : payload.depth ≤ 512) {more : List MessagePack.Value}
    {packed : Bytes} (h : Encodes [.array (carrier.elements flag payload more)] packed)
    (hshallow : ∀ x ∈ carrier.front ++ more, x.depth < Rmp.maxDepth) :
    parseFrame rmp serde decoder w packed =
      Checked.ofExcept
        (parseMessage rmp serde decoder (carrier.elements flag payload more) none) := by
  have htype : (typeValue carrier.messageType).depth = 0 := rfl
  have hall : ∀ x ∈ carrier.elements flag payload more, x.depth < Rmp.maxDepth := by
    obtain ⟨hfront, hmore⟩ := List.forall_mem_append.mp hshallow
    simp only [Carrier.elements, List.forall_mem_append, List.forall_mem_cons, htype, hflag]
    have hpos : 0 < Rmp.maxDepth := Nat.succ_pos _
    exact ⟨⟨hpos, hfront, hpos, by simp⟩, Nat.lt_of_le_of_lt hdepth (by decide), hmore⟩
  exact decodesThenParses (MessagePackProtocol.decodeMessage_packed hlaw h hall
    (isInvocation_typeValue.not.mpr hcarrier))

/-- A frame of an invocation is parsed from its elements and the encoding of its payload. -/
lemma parseFrame_carrier_invocation (hlaw : rmp.Lawful) (hw : 32 ≤ w) {carrier : Carrier}
    (hcarrier : carrier.messageType = .invocation) {flag payload : MessagePack.Value}
    (hflag : flag.depth = 0) (hdepth : payload.depth ≤ 512) {more : List MessagePack.Value}
    {packed : Bytes} (hlen : packed.length < 2 ^ w)
    (h : Encodes [.array (carrier.elements flag payload more)] packed)
    (hshallow : ∀ x ∈ carrier.front ++ more, x.depth < Rmp.maxDepth) :
    ∃ raw, Encodes [payload] raw ∧ parseFrame rmp serde decoder w packed =
      Checked.ofExcept
        (parseMessage rmp serde decoder (carrier.elements flag .nil more) (some raw)) := by
  have hk : (typeValue carrier.messageType :: (carrier.front ++ [flag])).length = 5 := by
    cases carrier with
    | invocation => rfl
    | streamInvocation | streamItem | completion => cases hcarrier
  have htype : (typeValue carrier.messageType).depth = 0 := rfl
  obtain ⟨hfront, hmore⟩ := List.forall_mem_append.mp hshallow
  have hbefore : ∀ x ∈ typeValue carrier.messageType :: (carrier.front ++ [flag]),
      x.depth < Rmp.maxDepth := by
    simp only [List.forall_mem_append, List.forall_mem_cons, htype, hflag]
    have hpos : 0 < Rmp.maxDepth := Nat.succ_pos _
    exact ⟨hpos, hfront, hpos, by simp⟩
  obtain ⟨raw, hraw, hdecode⟩ := MessagePackProtocol.decodeMessage_packed_invocation hlaw hw h hk
    (isInvocation_typeValue.mpr hcarrier) hbefore hdepth hmore hlen
  exact ⟨raw, hraw, decodesThenParses hdecode⟩

/-- A frame is parsed alike with a compressed payload and with the payload as it is. -/
lemma parseFrame_compressed (hlaw : rmp.Lawful) (hw : 32 ≤ w) (hc : decoder c = .ok ev)
    (hv : Encodes [v] ev) (hdepth : v.depth ≤ 512) (carrier : Carrier)
    {more : List MessagePack.Value} {packed₁ packed₀ : Bytes} (hlen₁ : packed₁.length < 2 ^ w)
    (hlen₀ : packed₀.length < 2 ^ w)
    (h₁ : Encodes [.array (carrier.elements (intValue 1) (.binary c) more)] packed₁)
    (h₀ : Encodes [.array (carrier.elements (intValue 0) v more)] packed₀) :
    SameOutcome (SameMessage rmp serde) (parseFrame rmp serde decoder w packed₁)
      (parseFrame rmp serde decoder w packed₀) := by
  have hbinary : (MessagePack.Value.binary c).depth ≤ 512 := Nat.zero_le _
  by_cases hdeep : ∃ x ∈ carrier.front ++ more, Rmp.maxDepth ≤ x.depth
  · obtain ⟨error₁, herror₁⟩ := parseFrame_deep hlaw hw carrier hbinary hlen₁ h₁ hdeep
    obtain ⟨error₀, herror₀⟩ := parseFrame_deep hlaw hw carrier hdepth hlen₀ h₀ hdeep
    exact .inr ⟨error₁, error₀, herror₁, herror₀⟩
  · have hshallow : ∀ x ∈ carrier.front ++ more, x.depth < Rmp.maxDepth := by
      intro x hx
      by_contra hge
      exact hdeep ⟨x, hx, Nat.le_of_not_lt hge⟩
    by_cases hcarrier : carrier.messageType = .invocation
    · obtain ⟨raw₁, hraw₁, hparse₁⟩ :=
        parseFrame_carrier_invocation hlaw hw hcarrier rfl hbinary hlen₁ h₁ hshallow
      obtain ⟨raw₀, hraw₀, hparse₀⟩ :=
        parseFrame_carrier_invocation hlaw hw hcarrier rfl hdepth hlen₀ h₀ hshallow
      rw [hparse₁, hparse₀]
      exact parseMessage_compressed_invocation hlaw hc hv hdepth hraw₁ hraw₀ hcarrier more
    · rw [parseFrame_carrier hlaw hcarrier rfl hbinary h₁ hshallow,
        parseFrame_carrier hlaw hcarrier rfl hdepth h₀ hshallow]
      exact parseMessage_compressed hlaw hc hv hdepth hcarrier more

/-! ## Messages -/

/-- Compression is transparent: of two messages that differ in a compressed payload and the payload
it decodes to, either the same message is read or both are an error. The messages are compared as
frames of any length, and as inputs of `parse_messages` if both are below the 2 GB that the framing
takes.

**Proof sketch.** If an element is nested too deep, neither frame is decoded. Otherwise both are
decoded to the same elements up to the flag and the payload. A payload that is decoded is unpacked
to the same value. The payload of an invocation stays encoded: both encodings of the value are taken
as arguments if it is an array. -/
theorem parse_compressed (hlaw : rmp.Lawful) (serde : SerdeJson) (hw : w = 32 ∨ w = 64)
    (hc : decoder c = .ok ev) (hv : Encodes [v] ev) (hdepth : v.depth ≤ 512) (carrier : Carrier)
    {more : List MessagePack.Value} {packed₁ packed₀ : Bytes}
    (hfit₁ : (BinaryMessageFormat.write packed₁).length < 2 ^ (w - 1))
    (hfit₀ : (BinaryMessageFormat.write packed₀).length < 2 ^ (w - 1))
    (h₁ : Encodes [.array (carrier.elements (intValue 1) (.binary c) more)] packed₁)
    (h₀ : Encodes [.array (carrier.elements (intValue 0) v more)] packed₀) :
    SameOutcome (SameMessage rmp serde) (parseFrame rmp serde decoder w packed₁)
        (parseFrame rmp serde decoder w packed₀) ∧
      (packed₁.length < 2 ^ 31 → packed₀.length < 2 ^ 31 →
        SameOutcome (fun ms ms' => ∃ m m', ms = [m] ∧ ms' = [m'] ∧ m.Same rmp serde m')
          (parseMessages rmp serde decoder w (.binary (BinaryMessageFormat.write packed₁)))
          (parseMessages rmp serde decoder w (.binary (BinaryMessageFormat.write packed₀)))) := by
  have hword : 2 ^ (w - 1) ≤ 2 ^ w := Nat.pow_le_pow_right (by decide) (Nat.sub_le _ _)
  have hframe : SameOutcome (SameMessage rmp serde) (parseFrame rmp serde decoder w packed₁)
      (parseFrame rmp serde decoder w packed₀) := by
    simp only [BinaryMessageFormat.write, List.length_append] at hfit₁ hfit₀
    exact parseFrame_compressed hlaw (by omega) hc hv hdepth carrier (by omega) (by omega) h₁ h₀
  refine ⟨hframe, fun hlen₁ hlen₀ => ?_⟩
  have hne : ∀ {xs : List MessagePack.Value} {packed : Bytes}, Encodes [.array xs] packed →
      packed ≠ [] := by
    rintro xs packed h rfl
    exact absurd h.length_le (by simp)
  rw [parseMessages, parseBatch_single hw (hne h₁) hlen₁ hfit₁,
    parseBatch_single hw (hne h₀) hlen₀ hfit₀]
  refine hframe.map Option.toList ?_
  rintro _ _ ⟨m, m', rfl, rfl, hsame⟩
  exact ⟨m, m', rfl, rfl, hsame⟩

/-- An invocation with the arguments `[true]`, for a decoder that drops the first byte. -/
theorem parse_compressed_one :
    SameOutcome (SameMessage Rmp.reference SerdeJson.reference)
      (parseFrame Rmp.reference SerdeJson.reference (fun bytes => .ok bytes.tail) 64
        [0x96, 0x01, 0xc0, 0xc0, 0xa1, 0x74, 0x01, 0xc4, 0x03, 0x00, 0x91, 0xc3])
      (parseFrame Rmp.reference SerdeJson.reference (fun bytes => .ok bytes.tail) 64
        [0x96, 0x01, 0xc0, 0xc0, 0xa1, 0x74, 0x00, 0x91, 0xc3]) := by
  let carrier : Carrier := .invocation .nil .nil (.string [0x74])
  have hv : Encodes [.array [.boolean true]] [0x91, 0xc3] :=
    MessagePack.encodes_write (.array [.boolean true]) (by decide)
  have hdepth : (MessagePack.Value.array [.boolean true]).depth ≤ 512 := by
    simp [MessagePack.Value.depth, MessagePack.depthItems]
  have hwrite₁ :
      (MessagePack.Value.array
        (carrier.elements (intValue 1) (.binary [0x00, 0x91, 0xc3]) [])).write =
        [0x96, 0x01, 0xc0, 0xc0, 0xa1, 0x74, 0x01, 0xc4, 0x03, 0x00, 0x91, 0xc3] := by
    decide +kernel
  have hwrite₀ :
      (MessagePack.Value.array (carrier.elements (intValue 0) (.array [.boolean true]) [])).write =
        [0x96, 0x01, 0xc0, 0xc0, 0xa1, 0x74, 0x00, 0x91, 0xc3] := by
    decide +kernel
  have h₁ := MessagePack.encodes_write _ (by rw [hwrite₁]; decide)
  have h₀ := MessagePack.encodes_write _ (by rw [hwrite₀]; decide)
  rw [hwrite₁] at h₁
  rw [hwrite₀] at h₀
  have hfit : ∀ packed : Bytes, packed.length < 128 →
      (BinaryMessageFormat.write packed).length < 2 ^ (64 - 1) := by
    intro packed h
    rw [BinaryMessageFormat.write, BinaryMessageFormat.writeSize_eq, if_pos h]
    simp only [List.length_append, List.length_singleton]
    omega
  let decoder : BrotliDecoder := fun bytes => .ok bytes.tail
  have hc : decoder [0x00, 0x91, 0xc3] = .ok [0x91, 0xc3] := rfl
  exact (parse_compressed Rmp.reference_lawful SerdeJson.reference (.inr rfl) hc hv hdepth carrier
    (hfit _ (by decide)) (hfit _ (by decide)) h₁ h₀).1

end Payload

end MessagePackBrotliProtocol

end Signalrr.Hub
