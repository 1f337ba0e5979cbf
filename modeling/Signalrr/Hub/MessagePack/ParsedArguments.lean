import Signalrr.Hub.ProtocolKind

set_option relaxedAutoImplicit false
set_option autoImplicit false

/-!
# The arguments of parsed invocations

`Arguments::from_messagepack` in `src/hub/arguments.rs` checks the header of the encoded array it is
given; that the rest is there is up to its callers, `create_invocation_message` of the two
MessagePack protocols.

## Main definitions

* `Signalrr.Hub.Arguments.Complete` — encoded arguments are one array, and have JSON values.
* `Signalrr.Hub.HubMessage.CompleteArguments` — the arguments of an invocation are complete.
* `Signalrr.Hub.MessagePackBrotliProtocol.Decompresses` — what compressed arguments are decoded to.

## Main results

* `Signalrr.Hub.MessagePackProtocol.encodes_of_skipValue` — only encoded values are skipped.
* `Signalrr.Hub.completeArguments_iff` — when the arguments of all parsed invocations are complete.
-/

namespace Signalrr.Hub

open Framing
open MessagePack (Encodes)

/-! ## What is skipped -/

namespace MessagePackProtocol

open MessagePack

variable {rmp : Rmp} {w : ℕ} {rest tail : Bytes}

/-- What is taken is in front. -/
lemma chunk_of_take {n : ℕ} {head : Bytes} (h : take rest n = pure (head, tail)) :
    chunk n rest = some (head, tail) := by
  cases hchunk : chunk n rest with
  | none =>
    rw [take_of_chunk_none hchunk] at h
    exact absurd h.symm (Checked.pure_ne_throw _ _)
  | some p =>
    obtain ⟨head', tail'⟩ := p
    rw [take_of_chunk hchunk] at h
    rw [Checked.pure_inj.mp h]

/-- A length and a constant that are too large are a 32-bit length. -/
lemma skipSize_scalar_overflow (hw : 32 ≤ w) {m : Marker} {width extra : ℕ} {len : Bytes}
    {value : Bytes → MessagePack.Value} (hm : m.layout = .scalar width extra value)
    (hlen : chunk width rest = some (len, tail)) (hfit : ¬ be len + extra < 2 ^ w) :
    skipSize w m rest = Checked.overflow := by
  have hword : 2 ^ 32 ≤ 2 ^ w := Nat.pow_le_pow_right (by decide) hw
  have hextra := (m.layout_bounds.1 _ _ _ hm).2
  have hlt := be_lt len
  rw [(chunk_eq_some hlen).2] at hlt
  cases m <;> simp only [Marker.layout, Layout.scalar.injEq, reduceCtorEq] at hm <;>
    obtain ⟨rfl, rfl, -⟩ := hm <;>
    first
    | exfalso
      omega
    | simp only [skipSize, readLen_of_chunk hw (le_refl 4) hlen, pure_bind, add, if_neg hfit]
      rfl

/-- What follows the marker of a scalar that is skipped. -/
lemma skipSize_scalar_inv (hw : 32 ≤ w) {m : Marker} {width extra n values : ℕ}
    {value : Bytes → MessagePack.Value} (hm : m.layout = .scalar width extra value)
    (h : skipSize w m rest = pure (n, values, tail)) :
    ∃ len, chunk width rest = some (len, tail) ∧ n = be len + extra ∧ values = 0 := by
  cases hlen : chunk width rest with
  | none =>
    rw [skipSize_of_chunk_none (.inl ⟨_, _, hm⟩) hlen] at h
    exact absurd h.symm (Checked.pure_ne_throw _ _)
  | some p =>
    obtain ⟨len, tail'⟩ := p
    by_cases hfit : be len + extra < 2 ^ w
    · rw [skipSize_scalar hw hm hlen hfit] at h
      obtain ⟨rfl, rfl, rfl⟩ : be len + extra = n ∧ 0 = values ∧ tail' = tail := by
        simpa using Checked.pure_inj.mp h
      exact ⟨len, rfl, rfl, rfl⟩
    · rw [skipSize_scalar_overflow hw hm hlen hfit] at h
      cases h

/-- A number of entries that is too large is refused. -/
lemma skipSize_container_refused (hw : 32 ≤ w) {m : Marker} {width base : ℕ} {kind : Kind}
    {len : Bytes} (hm : m.layout = .container width base kind)
    (hlen : chunk width rest = some (len, tail))
    (hfit : ¬ kind.arity * (be len + base) < 2 ^ w) : skipSize w m rest = throw truncated := by
  have hword : 2 ^ 32 ≤ 2 ^ w := Nat.pow_le_pow_right (by decide) hw
  have hbase := (m.layout_bounds.2 _ _ _ hm).2
  have hlt := be_lt len
  rw [(chunk_eq_some hlen).2] at hlt
  cases m <;> simp only [Marker.layout, Layout.container.injEq, reduceCtorEq] at hm <;>
    obtain ⟨rfl, rfl, rfl⟩ := hm <;> simp only [Kind.arity, Nat.add_zero] at hfit <;>
    first
    | exfalso
      omega
    | rw [Nat.mul_comm] at hfit
      simp only [skipSize, readLen_of_chunk hw (le_refl 4) hlen, pure_bind, checkedMul,
        if_neg hfit]

/-- What follows the marker of a container that is skipped. -/
lemma skipSize_container_inv (hw : 32 ≤ w) {m : Marker} {width base n values : ℕ} {kind : Kind}
    (hm : m.layout = .container width base kind)
    (h : skipSize w m rest = pure (n, values, tail)) :
    ∃ len, chunk width rest = some (len, tail) ∧ n = 0 ∧
      values = kind.arity * (be len + base) := by
  cases hlen : chunk width rest with
  | none =>
    rw [skipSize_of_chunk_none (.inr ⟨_, _, hm⟩) hlen] at h
    exact absurd h.symm (Checked.pure_ne_throw _ _)
  | some p =>
    obtain ⟨len, tail'⟩ := p
    by_cases hfit : kind.arity * (be len + base) < 2 ^ w
    · rw [skipSize_container hw hm hlen hfit] at h
      obtain ⟨rfl, rfl, rfl⟩ :
          0 = n ∧ kind.arity * (be len + base) = values ∧ tail' = tail := by
        simpa using Checked.pure_inj.mp h
      exact ⟨len, rfl, rfl, rfl⟩
    · rw [skipSize_container_refused hw hm hlen hfit] at h
      exact absurd h.symm (Checked.pure_ne_throw _ _)

/-- Values that are skipped one behind the other are encoded one behind the other. -/
lemma encodes_of_skipMany {skip : Bytes → Checked Bytes} {levels : ℕ}
    (hone : ∀ {bytes rest}, skip bytes = pure rest →
      ∃ v e, bytes = e ++ rest ∧ Encodes [v] e ∧ v.depth < levels) {n : ℕ} :
    ∀ {bytes rest : Bytes}, skipMany skip n bytes = pure rest →
      ∃ vs e, bytes = e ++ rest ∧ Encodes vs e ∧ vs.length = n ∧ ∀ v ∈ vs, v.depth < levels := by
  induction n with
  | zero =>
    intro bytes rest h
    obtain rfl := Checked.pure_inj.mp h
    exact ⟨[], [], rfl, .nil, rfl, by simp⟩
  | succ n ih =>
    intro bytes rest h
    obtain ⟨bytes', hskip, hmany⟩ := Checked.bind_eq_pure.mp h
    obtain ⟨v, e, rfl, he, hdepth⟩ := hone hskip
    obtain ⟨vs, e', rfl, he', rfl, hdepths⟩ := ih hmany
    exact ⟨v :: vs, e ++ e', by rw [List.append_assoc], he.append he', rfl,
      List.forall_mem_cons.mpr ⟨hdepth, hdepths⟩⟩

/-- Only an encoded value is skipped.

**Proof sketch.** Induction on the levels, one case for each layout: the bytes that are taken behind
the marker are the content of a scalar, and the values that are skipped are those of a container. -/
lemma encodes_of_skipValue (hlaw : rmp.Lawful) (hw : 32 ≤ w) {levels : ℕ} {bytes rest : Bytes}
    (h : skipValue rmp w levels bytes = pure rest) :
    ∃ v e, bytes = e ++ rest ∧ Encodes [v] e ∧ v.depth < levels := by
  induction levels generalizing bytes rest with
  | zero => exact absurd h.symm (Checked.pure_ne_throw _ _)
  | succ levels ih =>
    cases bytes with
    | nil =>
      obtain ⟨error, herror⟩ := hlaw.readMarker_nil
      rw [skipValue, herror] at h
      exact absurd h.symm (Checked.pure_ne_throw _ _)
    | cons b bytes =>
      rw [skipValue_cons hlaw] at h
      obtain ⟨⟨n, values, bytes'⟩, hsize, htail⟩ := Checked.bind_eq_pure.mp h
      obtain ⟨⟨content, bytes''⟩, htake, hmany⟩ := Checked.bind_eq_pure.mp htail
      dsimp only at htake hmany
      clear h htail
      obtain ⟨rfl, hcontent⟩ := chunk_eq_some (chunk_of_take htake)
      cases hb : (Marker.ofByte b).layout with
      | reserved =>
        rw [skipSize_reserved hb] at hsize
        exact absurd hsize.symm (Checked.pure_ne_throw _ _)
      | scalar width extra value =>
        obtain ⟨len, hlen, rfl, rfl⟩ := skipSize_scalar_inv hw hb hsize
        obtain rfl := Checked.pure_inj.mp hmany
        obtain ⟨rfl, hwidth⟩ := chunk_eq_some hlen
        refine ⟨_, _, ?_, .scalar hb hwidth hcontent .nil, ?_⟩
        · simp
        · rw [(Marker.depth_of_scalar hb content).1]
          exact Nat.succ_pos levels
      | container width base kind =>
        obtain ⟨len, hlen, rfl, rfl⟩ := skipSize_container_inv hw hb hsize
        obtain rfl := List.length_eq_zero_iff.mp hcontent
        obtain ⟨rfl, hwidth⟩ := chunk_eq_some hlen
        obtain ⟨vs, e, rfl, he, hcount, hdepths⟩ := encodes_of_skipMany ih hmany
        refine ⟨_, _, ?_, .container hb hwidth hcount he .nil, ?_⟩
        · simp
        · exact (Kind.depth_value_lt hcount).mpr hdepths

/-! ## What is left encoded -/

/-- Bytes that are left encoded are one value, of an invocation. -/
def LeftEncoded (items : List MessagePack.Value) (raw : Option Bytes) : Prop :=
  ∀ slice, raw = some slice →
    isInvocation items ∧ ∃ v, Encodes [v] slice ∧ v.depth ≤ maxDepth

/-- The loop over the elements leaves one value encoded. -/
lemma leftEncoded_decodeItems (hlaw : rmp.Lawful) (hw : 32 ≤ w) {k n : ℕ} :
    ∀ {index : ℕ} {items items' : List MessagePack.Value} {raw raw' : Option Bytes} {rest : Bytes},
      LeftEncoded items raw → decodeItems rmp w k n index items raw rest = pure (items', raw') →
        LeftEncoded items' raw' := by
  induction n with
  | zero =>
    intro index items items' raw raw' rest hraw h
    obtain ⟨rfl, rfl⟩ : items = items' ∧ raw = raw' := by simpa using Checked.pure_inj.mp h
    exact hraw
  | succ n ih =>
    intro index items items' raw raw' rest hraw h
    rw [decodeItems] at h
    split at h
    · rename_i harguments
      obtain ⟨tail, hskip, hitems⟩ := Checked.bind_eq_pure.mp h
      obtain ⟨v, e, rfl, he, hdepth⟩ := encodes_of_skipValue hlaw hw hskip
      refine ih ?_ hitems
      rintro slice hslice
      obtain rfl := Option.some.inj hslice
      refine ⟨isInvocation_append harguments.2 _, v, ?_, Nat.le_of_lt_succ hdepth⟩
      rwa [List.length_append, Nat.add_sub_cancel, List.take_left]
    · split at h
      · refine ih ?_ h
        intro slice hslice
        obtain ⟨hinvocation, hv⟩ := hraw slice hslice
        exact ⟨isInvocation_append hinvocation _, hv⟩
      · exact absurd h.symm (Checked.pure_ne_throw _ _)

/-- Decoding leaves one value encoded. -/
lemma leftEncoded_decodeMessage (hlaw : rmp.Lawful) (hw : 32 ≤ w) {frame : Bytes} {k : ℕ}
    {items : List MessagePack.Value} {raw : Option Bytes}
    (h : decodeMessage rmp w frame k = pure (items, raw)) : LeftEncoded items raw := by
  rw [decodeMessage] at h
  split at h
  · refine leftEncoded_decodeItems hlaw hw ?_ h
    intro slice hslice
    cases hslice
  · exact absurd h.symm (Checked.pure_ne_throw _ _)

end MessagePackProtocol

/-! ## Complete arguments -/

/-- Bytes that are one complete array, which is not nested too deep to be read. -/
def CompleteArray (bytes : Bytes) : Prop :=
  ∃ items, Encodes [.array items] bytes ∧ (MessagePack.Value.array items).depth < Rmp.maxDepth

/-- Encoded arguments are one array, and there are JSON values of all arguments. -/
def Arguments.Complete (rmp : Rmp) (serde : SerdeJson) (arguments : Arguments) : Prop :=
  (∀ bytes, arguments = .messagePack bytes → ∃ items, Encodes [.array items] bytes) ∧
    ∃ values, arguments.jsonValues rmp serde = .ok values

/-- The arguments of an invocation are complete. -/
def HubMessage.CompleteArguments (rmp : Rmp) (serde : SerdeJson) (message : HubMessage) : Prop :=
  ∀ invocation, message = .invocation invocation → invocation.arguments.Complete rmp serde

section Complete

variable {rmp : Rmp} {serde : SerdeJson}

/-- Values that are no encoded bytes are complete. -/
lemma Arguments.complete_json (values : List Value) :
    (Arguments.json values).Complete rmp serde :=
  ⟨fun _ h => Arguments.noConfusion h, values, rfl⟩

/-- Encoded arguments are complete if and only if they are one array that can be read. -/
lemma Arguments.complete_messagePack (hlaw : rmp.Lawful) {bytes : Bytes} :
    (Arguments.messagePack bytes).Complete rmp serde ↔ CompleteArray bytes := by
  constructor
  · rintro ⟨hbytes, values, hvalues⟩
    obtain ⟨items, he⟩ := hbytes bytes rfl
    refine ⟨items, he, ?_⟩
    by_contra hdeep
    obtain ⟨error, herror⟩ : ∃ error, rmp.readValue (bytes ++ []) = .error error :=
      hlaw.readValue_deep he (Nat.le_of_not_lt hdeep)
    rw [List.append_nil] at herror
    rw [jsonValues, messagepackValue, herror] at hvalues
    cases hvalues
  · rintro ⟨items, he, hdepth⟩
    refine ⟨fun bytes' h => ⟨items, ?_⟩, items.map (valueToJson serde), ?_⟩
    · rwa [← Arguments.messagePack.inj h]
    · rw [jsonValues_messagePack hlaw serde he hdepth]
      rfl

/-- A value with the header of an array in front is complete. -/
lemma Arguments.complete_of_encodes (hlaw : rmp.Lawful) {v : MessagePack.Value} {slice : Bytes}
    (he : Encodes [v] slice) (hdepth : v.depth ≤ MessagePackProtocol.maxDepth)
    {arguments : Arguments} (h : Arguments.fromMessagepack rmp slice = .ok arguments) :
    arguments.Complete rmp serde := by
  rw [fromMessagepack] at h
  split at h
  · rename_i header hread
    cases h
    obtain ⟨p, rfl, hp⟩ := hlaw.header_of_readArrayLen hread
    obtain ⟨items, rfl⟩ := he.array_of_header hp
    exact (complete_messagePack hlaw).mpr ⟨items, he, Nat.lt_of_le_of_lt hdepth (by decide)⟩
  · cases h

end Complete

/-- A message that is made of what has been read has complete arguments if that has. -/
lemma HubMessage.completeArguments_of_bind {α : Type} {rmp : Rmp} {serde : SerdeJson}
    {fields : Except ProtocolError α} {make : α → HubMessage} {m : HubMessage}
    (hmake : ∀ a, fields = .ok a → (make a).CompleteArguments rmp serde)
    (h : (fields >>= fun a => pure (some (make a))) = .ok (some m)) :
    m.CompleteArguments rmp serde := by
  obtain ⟨a, hfields, h⟩ := bind_eq_ok.mp h
  cases h
  exact hmake a hfields

/-! ## The MessagePack protocol -/

namespace MessagePackProtocol

variable {rmp : Rmp} {serde : SerdeJson} {w : ℕ} {data : List MessagePack.Value}
  {raw : Option Bytes}

/-- The arguments of an invocation are complete. -/
lemma complete_of_createInvocationMessage (hlaw : rmp.Lawful) (hraw : LeftEncoded data raw)
    {m : InvocationMessage} (h : createInvocationMessage rmp data raw = .ok m) :
    m.arguments.Complete rmp serde := by
  unfold createInvocationMessage at h
  split at h
  · obtain ⟨headers, -, h⟩ := bind_eq_ok.mp h
    obtain ⟨invocationId, -, h⟩ := bind_eq_ok.mp h
    obtain ⟨target, -, h⟩ := bind_eq_ok.mp h
    obtain ⟨arguments, harguments, h⟩ := bind_eq_ok.mp h
    cases h
    obtain ⟨-, v, he, hdepth⟩ := hraw _ rfl
    exact Arguments.complete_of_encodes hlaw he hdepth harguments
  · cases h

/-- A message that is parsed has complete arguments. -/
lemma complete_of_parseMessage (hlaw : rmp.Lawful) (hraw : LeftEncoded data raw) {m : HubMessage}
    (h : parseMessage rmp serde data raw = .ok (some m)) : m.CompleteArguments rmp serde := by
  rw [parseMessage] at h
  split at h
  · cases h
  obtain ⟨messageType, -, h⟩ := bind_eq_ok.mp h
  cases htype : MessageType.fromI32 (asI32 messageType) with
  | none =>
    rw [htype] at h
    cases h
  | some t =>
    rw [htype] at h
    cases t with
    | invocation =>
      refine HubMessage.completeArguments_of_bind ?_ h
      rintro message hmessage _ ⟨⟩
      exact complete_of_createInvocationMessage hlaw hraw hmessage
    | streamInvocation | cancelInvocation => cases h
    | streamItem | completion | ping | close | ack | sequence =>
      refine HubMessage.completeArguments_of_bind ?_ h
      rintro _ _ _ ⟨⟩

/-- A frame that is parsed has complete arguments. -/
lemma complete_of_parseFrame (hlaw : rmp.Lawful) (hw : 32 ≤ w) (frame : Bytes) (m : HubMessage)
    (h : parseFrame rmp serde w frame = pure (some m)) : m.CompleteArguments rmp serde := by
  obtain ⟨⟨items, raw⟩, hdecode, h⟩ := Checked.bind_eq_pure.mp h
  exact complete_of_parseMessage hlaw (leftEncoded_decodeMessage hlaw hw hdecode)
    (Option.some.inj h)

end MessagePackProtocol

/-! ## The MessagePack+Brotli protocol -/

namespace MessagePackBrotliProtocol

open MessagePackProtocol (LeftEncoded decodeMessage leftEncoded_decodeMessage)

variable {rmp : Rmp} {serde : SerdeJson} {decoder : BrotliDecoder} {w : ℕ}
  {data : List MessagePack.Value} {raw : Option Bytes}

/-- The arguments in `slice` are flagged as compressed, and their bytes are decoded to `decoded`. -/
def Decompresses (rmp : Rmp) (decoder : BrotliDecoder) (flag : Option MessagePack.Value)
    (slice decoded : Bytes) : Prop :=
  isCompressed flag = true ∧ ∃ packed rest bytes, rmp.readValue slice = .ok (packed, rest) ∧
    valueToBytes packed = some bytes ∧ decoder bytes = .ok decoded

/-- Unpacked arguments are complete if and only if compressed ones are decoded to one array. -/
lemma complete_unpackArguments (hlaw : rmp.Lawful) {flag : Option MessagePack.Value}
    (hraw : LeftEncoded data raw) {arguments : Arguments}
    (h : unpackArguments rmp decoder raw (isCompressed flag) = .ok arguments) :
    arguments.Complete rmp serde ↔
      ∀ slice decoded, raw = some slice → Decompresses rmp decoder flag slice decoded →
        CompleteArray decoded := by
  cases raw with
  | none =>
    cases h
    refine ⟨fun _ slice decoded hslice => ?_, fun _ => Arguments.complete_json []⟩
    cases hslice
  | some slice =>
    rw [unpackArguments] at h
    cases hflag : isCompressed flag with
    | false =>
      rw [hflag] at h
      obtain ⟨-, v, he, hdepth⟩ := hraw slice rfl
      refine ⟨fun _ slice' decoded _ hcompressed => ?_, fun _ =>
        Arguments.complete_of_encodes hlaw he hdepth h⟩
      rw [hcompressed.1] at hflag
      cases hflag
    | true =>
      rw [hflag, if_pos rfl] at h
      split at h
      · cases h
      · rename_i packed rest hread
        split at h
        · cases h
        · rename_i bytes hbytes
          obtain ⟨decoded, hdecoded, harguments⟩ := bind_eq_ok.mp h
          have hone : ∀ slice' decoded', some slice = some slice' →
              Decompresses rmp decoder flag slice' decoded' → decoded' = decoded := by
            rintro slice' decoded' ⟨⟩ ⟨-, packed', rest', bytes', hread', hbytes', hdecoded'⟩
            rw [hread] at hread'
            cases hread'
            rw [hbytes] at hbytes'
            cases hbytes'
            rw [hdecoded] at hdecoded'
            exact (Except.ok.inj hdecoded').symm
          have hmine : Decompresses rmp decoder flag slice decoded :=
            ⟨hflag, packed, rest, bytes, hread, hbytes, hdecoded⟩
          obtain rfl : arguments = .messagePack decoded := by
            rw [Arguments.fromMessagepack] at harguments
            split at harguments
            · exact (Except.ok.inj harguments).symm
            · cases harguments
          rw [Arguments.complete_messagePack hlaw]
          constructor
          · intro hcomplete slice' decoded' hslice hdecompresses
            rwa [hone slice' decoded' hslice hdecompresses]
          · intro hall
            exact hall slice decoded rfl hmine

/-- An invocation is created from unpacked arguments. -/
lemma arguments_of_createInvocationMessage {m : InvocationMessage}
    (h : createInvocationMessage rmp decoder data raw = .ok m) :
    unpackArguments rmp decoder raw (isCompressed data[4]?) = .ok m.arguments := by
  unfold createInvocationMessage at h
  split at h
  · cases h
  · obtain ⟨arguments, harguments, h⟩ := bind_eq_ok.mp h
    obtain ⟨headers, -, h⟩ := bind_eq_ok.mp h
    obtain ⟨invocationId, -, h⟩ := bind_eq_ok.mp h
    obtain ⟨target, -, h⟩ := bind_eq_ok.mp h
    cases h
    exact harguments

/-- Of a message that is parsed, either the arguments are unpacked or there are none. -/
lemma arguments_of_parseMessage {parsed : Option HubMessage}
    (h : parseMessage rmp serde decoder data raw = .ok parsed) :
    (∃ message, parsed = some (.invocation message) ∧
        unpackArguments rmp decoder raw (isCompressed data[4]?) = .ok message.arguments) ∨
      (¬ MessagePackProtocol.isInvocation data ∧
        ∀ message, parsed ≠ some (.invocation message)) := by
  rw [parseMessage] at h
  split at h
  · cases h
  rename_i hsome
  obtain ⟨messageType, hread, h⟩ := bind_eq_ok.mp h
  -- the first element of an invocation is the number one
  have hone : MessageType.fromI32 (asI32 messageType) ≠ some .invocation →
      ¬ MessagePackProtocol.isInvocation data := by
    intro htype hinvocation
    refine htype ?_
    cases data with
    | nil => exact absurd rfl hsome
    | cons x data =>
      have hx : MessagePackProtocol.asI64 x = some (1 : ℤ) := hinvocation
      rw [List.getD_cons_zero, MessagePackProtocol.valueToI64, hx] at hread
      rw [← Except.ok.inj hread]
      rfl
  cases htype : MessageType.fromI32 (asI32 messageType) with
  | none =>
    rw [htype] at h
    cases h
    refine .inr ⟨hone ?_, ?_⟩
    · rw [htype]
      decide
    · rintro message ⟨⟩
  | some t =>
    rw [htype] at h
    cases t with
    | invocation =>
      obtain ⟨message, hmessage, h⟩ := bind_eq_ok.mp h
      cases h
      exact .inl ⟨message, rfl, arguments_of_createInvocationMessage hmessage⟩
    | cancelInvocation =>
      cases h
      refine .inr ⟨hone ?_, ?_⟩
      · rw [htype]
        decide
      · rintro message ⟨⟩
    | streamInvocation | streamItem | completion | ping | close | ack | sequence =>
      obtain ⟨message, -, h⟩ := bind_eq_ok.mp h
      cases h
      refine .inr ⟨hone ?_, ?_⟩
      · rw [htype]
        decide
      · rintro message ⟨⟩

/-- If the arguments of a frame are compressed, they are decoded to one array. -/
def DecodesToArrays (rmp : Rmp) (decoder : BrotliDecoder) (w : ℕ) (frame : Bytes) : Prop :=
  ∀ items slice decoded, decodeMessage rmp w frame 5 = pure (items, some slice) →
    Decompresses rmp decoder items[4]? slice decoded → CompleteArray decoded

/-- The arguments of a frame that is parsed are complete if and only if they are decoded to one
array or not compressed. -/
lemma complete_parseFrame (hlaw : rmp.Lawful) (hw : 32 ≤ w) {frame : Bytes}
    {parsed : Option HubMessage} (h : parseFrame rmp serde decoder w frame = pure parsed) :
    (∀ m ∈ parsed.toList, m.CompleteArguments rmp serde) ↔
      DecodesToArrays rmp decoder w frame := by
  obtain ⟨⟨items, raw⟩, hdecode, h⟩ := Checked.bind_eq_pure.mp h
  dsimp only at h
  split at h
  · exact absurd h.symm (Checked.pure_ne_throw _ _)
  have hraw := leftEncoded_decodeMessage hlaw hw hdecode
  have hframe : DecodesToArrays rmp decoder w frame ↔
      ∀ slice decoded, raw = some slice → Decompresses rmp decoder items[4]? slice decoded →
        CompleteArray decoded := by
    constructor
    · rintro hframe slice decoded rfl hdecompresses
      exact hframe items slice decoded hdecode hdecompresses
    · intro hall items' slice decoded hdecode' hdecompresses
      obtain ⟨rfl, rfl⟩ : items = items' ∧ raw = some slice := by
        simpa using Checked.pure_inj.mp (hdecode.symm.trans hdecode')
      exact hall slice decoded rfl hdecompresses
  rw [hframe]
  rcases arguments_of_parseMessage (Option.some.inj h) with
    ⟨message, rfl, harguments⟩ | ⟨hother, hnone⟩
  · have hiff : message.arguments.Complete rmp serde ↔ _ :=
      complete_unpackArguments hlaw hraw harguments
    rw [← hiff]
    simp [HubMessage.CompleteArguments]
  · constructor
    · rintro - slice decoded hslice
      exact absurd (hraw slice hslice).1 hother
    · intro _ m hm message hmessage
      rw [Option.mem_toList, hmessage] at hm
      exact absurd hm (hnone message)

/-- The frames of a batch are parsed with complete arguments if and only if each of them is. -/
lemma complete_parseFrames (hlaw : rmp.Lawful) (hw : 32 ≤ w) {frames : List Bytes} :
    ∀ {ms : List HubMessage}, parseFrames (parseFrame rmp serde decoder w) frames = pure ms →
      ((∀ m ∈ ms, m.CompleteArguments rmp serde) ↔
        ∀ frame ∈ frames, DecodesToArrays rmp decoder w frame) := by
  induction frames with
  | nil =>
    intro ms h
    obtain rfl : [] = ms := Checked.pure_inj.mp h
    simp
  | cons frame frames ih =>
    intro ms h
    rw [parseFrames] at h
    split at h
    · exact absurd h.symm (Checked.pure_ne_throw _ _)
    · obtain ⟨parsed, hframe, h⟩ := Checked.bind_eq_pure.mp h
      obtain ⟨ms', hframes, h⟩ := Checked.bind_eq_pure.mp h
      obtain rfl := Checked.pure_inj.mp h
      rw [List.forall_mem_append, List.forall_mem_cons, complete_parseFrame hlaw hw hframe,
        ih hframes]

end MessagePackBrotliProtocol

/-! ## Batches -/

/-- The arguments of all invocations that are parsed are complete: always in the MessagePack
protocol, and in the MessagePack+Brotli protocol if and only if compressed arguments are decoded to
one complete array that is nested less than 1024 deep.

**Proof sketch.** What skipping leaves encoded is one value, and the header shows that it is an
array. What the decoder returns is only known to start with a header. -/
theorem completeArguments_iff {rmp : Rmp} (hlaw : rmp.Lawful) (serde : SerdeJson)
    (decoder : BrotliDecoder) {w : ℕ} (hw : w = 32 ∨ w = 64) (input : HubProtocolInput)
    (ms : List HubMessage) :
    (MessagePackProtocol.parseMessages rmp serde w input = pure ms →
      ∀ m ∈ ms, m.CompleteArguments rmp serde) ∧
    (MessagePackBrotliProtocol.parseMessages rmp serde decoder w input = pure ms →
      ((∀ m ∈ ms, m.CompleteArguments rmp serde) ↔
        ∀ bytes frames, input = .binary bytes →
          BinaryMessageFormat.parse w bytes = some (.ok frames) →
          ∀ frame ∈ frames, MessagePackBrotliProtocol.DecodesToArrays rmp decoder w frame)) := by
  have hwide : 32 ≤ w := by omega
  constructor
  · exact forall_mem_parseBatch (MessagePackProtocol.complete_of_parseFrame hlaw hwide)
  · intro h
    cases input with
    | text text => exact absurd h.symm (Checked.pure_ne_throw _ _)
    | binary bytes =>
      rw [MessagePackBrotliProtocol.parseMessages, parseBatch] at h
      split at h
      · cases h
      · exact absurd h.symm (Checked.pure_ne_throw _ _)
      · rename_i frames hframes
        split at h
        · exact absurd h.symm (Checked.pure_ne_throw _ _)
        · rw [MessagePackBrotliProtocol.complete_parseFrames hlaw hwide h]
          constructor
          · rintro hall bytes' frames' ⟨⟩ hframes'
            rw [hframes] at hframes'
            cases hframes'
            exact hall
          · intro hall
            exact hall bytes frames rfl hframes

/-- The call of `t` with the arguments `[true]`. -/
theorem completeArguments_true :
    (HubMessage.invocation ⟨[], none, "t", .messagePack [0x91, 0xc3], some []⟩).CompleteArguments
      Rmp.reference SerdeJson.reference := by
  have hparse : MessagePackProtocol.parseMessages Rmp.reference SerdeJson.reference 64
      (.binary [0x08, 0x95, 0x01, 0xc0, 0xc0, 0xa1, 0x74, 0x91, 0xc3]) =
        pure [.invocation ⟨[], none, "t", .messagePack [0x91, 0xc3], some []⟩] := rfl
  exact (completeArguments_iff Rmp.reference_lawful SerdeJson.reference .ok (.inr rfl) _ _).1 hparse
    _ (List.mem_singleton_self _)

/-- The header of an array of one is no array. -/
lemma not_encodes_header (items : List MessagePack.Value) :
    ¬ Encodes [.array items] [0x91] := by
  intro he
  have hread := MessagePack.read_of_encodes he ((MessagePack.Value.array items).depth + 2) []
  rw [if_pos (by omega)] at hread
  cases hread

/-- Compressed arguments of which nothing is left but the header of an array of one are taken as the
arguments of a call, by a decoder that decompresses nothing. They are no complete array and have no
JSON values. -/
theorem incomplete_compressed :
    ∃ m, MessagePackBrotliProtocol.parseMessages Rmp.reference SerdeJson.reference .ok 64
        (.binary [0x0a, 0x96, 0x01, 0xc0, 0xc0, 0xa1, 0x74, 0x01, 0xc4, 0x01, 0x91]) =
          pure [.invocation m] ∧
      (¬ ∃ bytes items, m.arguments = .messagePack bytes ∧ Encodes [.array items] bytes) ∧
        ∃ error, m.arguments.jsonValues Rmp.reference SerdeJson.reference = .error error := by
  refine ⟨⟨[], none, "t", .messagePack [0x91], some []⟩, rfl, ?_, ⟨_, rfl⟩⟩
  rintro ⟨bytes, items, hbytes, he⟩
  cases hbytes
  exact not_encodes_header items he

end Signalrr.Hub
