import Signalrr.Hub.JsonProtocol
import Signalrr.Hub.MessagePack.RoundTrip

set_option relaxedAutoImplicit false
set_option autoImplicit false

/-!
# The hub protocols side by side

The same message written and parsed by each of the three hub protocols, and what becomes of the
fields of a `Close` and of the stream ids of an invocation.

## Main definitions

* `Signalrr.Hub.ProtocolKind` — the hub protocols, with their writers and parsers.
* `Signalrr.Hub.ProtocolKind.Delivers` — what a receiver is given for a written message.
* `Signalrr.Hub.ProtocolKind.KeepsClose`, `Signalrr.Hub.ProtocolKind.KeepsStreamIds` — fields that
  survive.

## Main results

* `Signalrr.Hub.ProtocolKind.keeps_iff` — only the JSON protocol keeps them all.

## Design

The MessagePack writers of `Close` take no message, and the MessagePack readers of an invocation
make up an empty list of stream ids. The first is seen from one frame, the second from everything
that is ever parsed.
-/

namespace Signalrr.Hub

open Framing
open MessagePack (Encodes)

/-! ## The messages of a batch -/

section Batches

variable {w : ℕ} {parseFrame : Bytes → Checked (Option HubMessage)} {P : HubMessage → Prop}

/-- What holds of every message that is parsed from a frame holds of those of all frames. -/
lemma forall_mem_parseFrames (hP : ∀ frame m, parseFrame frame = pure (some m) → P m)
    {frames : List Bytes} :
    ∀ {ms : List HubMessage}, parseFrames parseFrame frames = pure ms → ∀ m ∈ ms, P m := by
  induction frames with
  | nil =>
    intro ms h
    obtain rfl : [] = ms := Checked.pure_inj.mp h
    simp
  | cons frame frames ih =>
    intro ms h
    rw [parseFrames] at h
    split at h
    · exact absurd h.symm (Checked.pure_ne_throw _ _)
    · obtain ⟨message, hframe, h⟩ := Checked.bind_eq_pure.mp h
      obtain ⟨messages, hframes, h⟩ := Checked.bind_eq_pure.mp h
      obtain rfl := Checked.pure_inj.mp h
      refine List.forall_mem_append.mpr ⟨?_, ih hframes⟩
      intro m hm
      obtain rfl : message = some m := Option.mem_toList.mp hm
      exact hP frame m hframe

/-- What holds of every message that is parsed from a frame holds of those of a batch. -/
lemma forall_mem_parseBatch (hP : ∀ frame m, parseFrame frame = pure (some m) → P m)
    {notBinary : String} {input : HubProtocolInput} {ms : List HubMessage}
    (h : parseBatch w notBinary parseFrame input = pure ms) : ∀ m ∈ ms, P m := by
  cases input with
  | text text => exact absurd h.symm (Checked.pure_ne_throw _ _)
  | binary bytes =>
    rw [parseBatch] at h
    split at h
    · cases h
    · exact absurd h.symm (Checked.pure_ne_throw _ _)
    · split at h
      · exact absurd h.symm (Checked.pure_ne_throw _ _)
      · exact forall_mem_parseFrames hP h

end Batches

/-! ## Stream ids -/

/-- A message that is no invocation, or one with an empty list of stream ids. -/
def HubMessage.NoStreamIds : HubMessage → Prop
  | .invocation message => message.streamIds = some []
  | _ => True

/-- A message that is made of the fields that have been read. -/
lemma HubMessage.noStreamIds_of_bind {α : Type} {fields : Except ProtocolError α}
    {make : α → HubMessage} {m : HubMessage} (hmake : ∀ a, fields = .ok a → (make a).NoStreamIds)
    (h : (fields >>= fun a => pure (some (make a))) = .ok (some m)) : m.NoStreamIds := by
  obtain ⟨a, hfields, h⟩ := bind_eq_ok.mp h
  cases h
  exact hmake a hfields

namespace MessagePackProtocol

variable {rmp : Rmp} {serde : SerdeJson} {w : ℕ}

/-- An invocation is read with an empty list of stream ids. -/
lemma streamIds_of_create {data : List MessagePack.Value} {raw : Option Bytes}
    {m : InvocationMessage} (h : createInvocationMessage rmp data raw = .ok m) :
    m.streamIds = some [] := by
  unfold createInvocationMessage at h
  split at h
  · obtain ⟨headers, -, h⟩ := bind_eq_ok.mp h
    obtain ⟨invocationId, -, h⟩ := bind_eq_ok.mp h
    obtain ⟨target, -, h⟩ := bind_eq_ok.mp h
    obtain ⟨arguments, -, h⟩ := bind_eq_ok.mp h
    cases h
    rfl
  · cases h

/-- No message is parsed with stream ids. -/
lemma noStreamIds_of_parseMessage {data : List MessagePack.Value} {raw : Option Bytes}
    {m : HubMessage} (h : parseMessage rmp serde data raw = .ok (some m)) : m.NoStreamIds := by
  rw [parseMessage] at h
  split at h
  · cases h
  obtain ⟨messageType, -, h⟩ := bind_eq_ok.mp h
  cases htype : MessageType.fromI32 (asI32 messageType) with
  | none =>
    rw [htype] at h
    cases h
  | some t =>
    rw [htype] at h
    cases t with
    | invocation => exact HubMessage.noStreamIds_of_bind (fun _ => streamIds_of_create) h
    | streamInvocation | cancelInvocation => cases h
    | streamItem | completion | ping | close | ack | sequence =>
      refine HubMessage.noStreamIds_of_bind ?_ h
      exact fun _ _ => trivial

/-- No frame is parsed with stream ids. -/
lemma noStreamIds_of_parseFrame (frame : Bytes) (m : HubMessage)
    (h : parseFrame rmp serde w frame = pure (some m)) : m.NoStreamIds := by
  obtain ⟨⟨items, raw⟩, -, h⟩ := Checked.bind_eq_pure.mp h
  exact noStreamIds_of_parseMessage (Option.some.inj h)

end MessagePackProtocol

namespace MessagePackBrotliProtocol

variable {rmp : Rmp} {serde : SerdeJson} {decoder : BrotliDecoder} {w : ℕ}

/-- An invocation is read with an empty list of stream ids. -/
lemma streamIds_of_create {data : List MessagePack.Value} {raw : Option Bytes}
    {m : InvocationMessage} (h : createInvocationMessage rmp decoder data raw = .ok m) :
    m.streamIds = some [] := by
  unfold createInvocationMessage at h
  split at h
  · cases h
  · obtain ⟨arguments, -, h⟩ := bind_eq_ok.mp h
    obtain ⟨headers, -, h⟩ := bind_eq_ok.mp h
    obtain ⟨invocationId, -, h⟩ := bind_eq_ok.mp h
    obtain ⟨target, -, h⟩ := bind_eq_ok.mp h
    cases h
    rfl

/-- No message is parsed with stream ids. -/
lemma noStreamIds_of_parseMessage {data : List MessagePack.Value} {raw : Option Bytes}
    {m : HubMessage} (h : parseMessage rmp serde decoder data raw = .ok (some m)) :
    m.NoStreamIds := by
  rw [parseMessage] at h
  split at h
  · cases h
  obtain ⟨messageType, -, h⟩ := bind_eq_ok.mp h
  cases htype : MessageType.fromI32 (asI32 messageType) with
  | none =>
    rw [htype] at h
    cases h
  | some t =>
    rw [htype] at h
    cases t with
    | invocation => exact HubMessage.noStreamIds_of_bind (fun _ => streamIds_of_create) h
    | cancelInvocation => cases h
    | streamInvocation | streamItem | completion | ping | close | ack | sequence =>
      refine HubMessage.noStreamIds_of_bind ?_ h
      exact fun _ _ => trivial

/-- No frame is parsed with stream ids. -/
lemma noStreamIds_of_parseFrame (frame : Bytes) (m : HubMessage)
    (h : parseFrame rmp serde decoder w frame = pure (some m)) : m.NoStreamIds := by
  obtain ⟨⟨items, raw⟩, -, h⟩ := Checked.bind_eq_pure.mp h
  dsimp only at h
  split at h
  · exact absurd h.symm (Checked.pure_ne_throw _ _)
  · exact noStreamIds_of_parseMessage (Option.some.inj h)

end MessagePackBrotliProtocol

/-! ## Closing -/

section Close

open MessagePackProtocol

variable {rmp : Rmp} {serde : SerdeJson} {w k : ℕ}

/-- The crate writes values in the most compact form. -/
def Rmp.WritesCompact (rmp : Rmp) : Prop :=
  ∀ value bytes, rmp.writeValue value = .ok bytes → bytes.length ≤ value.write.length

lemma Rmp.reference_writesCompact : Rmp.reference.WritesCompact := by
  intro value bytes h
  obtain rfl : value.write = bytes := by simpa [Rmp.reference] using h
  exact le_rfl

/-- What is written for a `Close` is read as one without error and `allow_reconnect`. -/
lemma parseBatch_close (hlaw : rmp.Lawful) (hcompact : rmp.WritesCompact) (hw : w = 32 ∨ w = 64)
    {parseFrame : Bytes → Checked (Option HubMessage)}
    {parse : List MessagePack.Value → Option Bytes → Except ProtocolError (Option HubMessage)}
    (hframe : DecodesThenParses rmp w k parseFrame parse)
    (hparse : parse [typeValue .close, .nil] none = .ok (some (.close ⟨none, none⟩))) :
    ∃ payload, writeClose rmp = .ok payload ∧
      ∀ notBinary, parseBatch w notBinary parseFrame (.binary payload) =
        pure [.close ⟨none, none⟩] := by
  obtain ⟨packed, hpacked⟩ := hlaw.writeValue_ok (.array [typeValue .close, .nil])
  have hshort : packed.length ≤ 3 := hcompact _ _ hpacked
  have hencodes := hlaw.encodes_writeValue hpacked (by omega)
  have hne : packed ≠ [] := by
    rintro rfl
    exact absurd hencodes.length_le (by simp)
  have hword : 2 ^ 31 ≤ 2 ^ (w - 1) := Nat.pow_le_pow_right (by decide) (by omega)
  have hfit : (BinaryMessageFormat.write packed).length < 2 ^ (w - 1) := by
    rw [BinaryMessageFormat.write, BinaryMessageFormat.writeSize_eq, if_pos (by omega)]
    simp only [List.length_append, List.length_singleton]
    omega
  have hplain : ¬ isInvocation [typeValue .close, .nil] :=
    isInvocation_typeValue.not.mpr (by decide)
  have hdepth : ∀ x ∈ [typeValue .close, .nil], x.depth < Rmp.maxDepth := by
    simp [typeValue, MessagePack.Value.depth, Rmp.maxDepth]
  refine ⟨BinaryMessageFormat.write packed, ?_, fun notBinary => ?_⟩
  · rw [writeClose, packPayload, encodeArray, hpacked]
    rfl
  · rw [parseBatch_single hw hne (by omega) hfit, hframe (decodeMessage_packed hlaw hencodes hdepth
      hplain), hparse]
    rfl

end Close

/-! ## The three protocols -/

/-- The hub protocols a client and a server may agree on. -/
inductive ProtocolKind where
  | json
  | messagePack
  | messagePackBrotli
  deriving DecidableEq, Repr

/-- How a payload reaches the parser: as text or as it is. -/
def TransferFormat.input : TransferFormat → Bytes → Option HubProtocolInput
  | .text, payload => (ofUtf8 payload).map .text
  | .binary, payload => some (.binary payload)

namespace ProtocolKind

/-- `transfer_format`. -/
def transferFormat : ProtocolKind → TransferFormat
  | json => .text
  | messagePack => .binary
  | messagePackBrotli => .binary

/-- `write_message`. -/
def writeMessage (rmp : Rmp) (serde : SerdeJson) :
    ProtocolKind → HubMessage → Except ProtocolError Bytes
  | json => JsonProtocol.writeMessage rmp serde
  | messagePack => MessagePackProtocol.writeMessage rmp
  | messagePackBrotli => MessagePackBrotliProtocol.writeMessage rmp

/-- `parse_messages`. -/
def parseMessages (rmp : Rmp) (serde : SerdeJson) (decoder : BrotliDecoder) (w : ℕ) :
    ProtocolKind → HubProtocolInput → Checked (List HubMessage)
  | json => fun input => Checked.ofExcept (JsonProtocol.parseMessages serde input)
  | messagePack => MessagePackProtocol.parseMessages rmp serde w
  | messagePackBrotli => MessagePackBrotliProtocol.parseMessages rmp serde decoder w

/-- A message is written, and from what is written another message is parsed. -/
def Delivers (rmp : Rmp) (serde : SerdeJson) (decoder : BrotliDecoder) (w : ℕ) (kind : ProtocolKind)
    (message message' : HubMessage) : Prop :=
  ∃ payload input, kind.writeMessage rmp serde message = .ok payload ∧
    kind.transferFormat.input payload = some input ∧
      kind.parseMessages rmp serde decoder w input = pure [message']

/-- A `Close` is parsed with its error and its `allow_reconnect`. -/
def KeepsClose (rmp : Rmp) (serde : SerdeJson) (decoder : BrotliDecoder) (w : ℕ)
    (kind : ProtocolKind) (message : CloseMessage) : Prop :=
  kind.Delivers rmp serde decoder w (.close message) (.close message)

/-- An invocation is parsed with its stream ids. -/
def KeepsStreamIds (rmp : Rmp) (serde : SerdeJson) (decoder : BrotliDecoder) (w : ℕ)
    (kind : ProtocolKind) (message : InvocationMessage) : Prop :=
  ∃ message', kind.Delivers rmp serde decoder w (.invocation message) (.invocation message') ∧
    message'.streamIds = message.streamIds

variable {rmp : Rmp} {serde : SerdeJson} {decoder : BrotliDecoder} {w : ℕ} {kind : ProtocolKind}

/-- What the JSON protocol delivers. -/
lemma delivers_json (hlines : serde.WritesLines) {m : HubMessage} (hm : m.WellFormed)
    (hround : RoundTripsText rmp serde m) :
    ∃ m', json.Delivers rmp serde decoder w m m' ∧ m.Same rmp serde m' := by
  obtain ⟨text, m', hwrite, hparse, hsame⟩ := JsonProtocol.parseMessages_write hlines hm hround
  refine ⟨m', ⟨utf8 text, .text text, hwrite, ?_, ?_⟩, hsame⟩
  · rw [transferFormat, TransferFormat.input, ofUtf8_utf8, Option.map_some]
  · simp only [parseMessages, hparse, Checked.ofExcept_ok]

/-- The MessagePack protocols deliver every `Close` as one without error and `allow_reconnect`. -/
lemma delivers_close (hlaw : rmp.Lawful) (hcompact : rmp.WritesCompact) (hw : w = 32 ∨ w = 64)
    (hkind : kind ≠ json) (m : CloseMessage) {m' : HubMessage} :
    kind.Delivers rmp serde decoder w (.close m) m' ↔ m' = .close ⟨none, none⟩ := by
  have hclose : ∃ payload, kind.writeMessage rmp serde (.close m) = .ok payload ∧
      kind.parseMessages rmp serde decoder w (.binary payload) = pure [.close ⟨none, none⟩] := by
    cases kind with
    | json => exact absurd rfl hkind
    | messagePack =>
      obtain ⟨payload, hwrite, hparse⟩ :=
        parseBatch_close hlaw hcompact hw MessagePackProtocol.decodesThenParses
          (MessagePackProtocol.parseMessage_typeValue .close [.nil] none)
      refine ⟨payload, hwrite, ?_⟩
      rw [parseMessages, MessagePackProtocol.parseMessages]
      exact hparse _
    | messagePackBrotli =>
      obtain ⟨payload, hwrite, hparse⟩ :=
        parseBatch_close hlaw hcompact hw MessagePackBrotliProtocol.decodesThenParses
          (MessagePackBrotliProtocol.parseMessage_typeValue .close [.nil] none)
      refine ⟨payload, hwrite, ?_⟩
      rw [parseMessages, MessagePackBrotliProtocol.parseMessages]
      exact hparse _
  have hbinary : kind.transferFormat = .binary := by
    cases kind with
    | json => exact absurd rfl hkind
    | messagePack | messagePackBrotli => rfl
  obtain ⟨payload, hwrite, hparse⟩ := hclose
  constructor
  · rintro ⟨payload', input, hwrite', hinput, hparse'⟩
    obtain rfl : payload = payload' := Except.ok.inj (hwrite.symm.trans hwrite')
    rw [hbinary] at hinput
    obtain rfl : .binary payload = input := Option.some.inj hinput
    have hmessages := Checked.pure_inj.mp (hparse'.symm.trans hparse)
    exact (List.cons.inj hmessages).1
  · rintro rfl
    exact ⟨payload, .binary payload, hwrite, by rw [hbinary]; rfl, hparse⟩

/-- The MessagePack protocols deliver no stream ids. -/
lemma noStreamIds_of_delivers (hkind : kind ≠ json) {m m' : HubMessage}
    (h : kind.Delivers rmp serde decoder w m m') : m'.NoStreamIds := by
  obtain ⟨payload, input, -, -, hparse⟩ := h
  cases kind with
  | json => exact absurd rfl hkind
  | messagePack =>
    exact forall_mem_parseBatch MessagePackProtocol.noStreamIds_of_parseFrame hparse m' (by simp)
  | messagePackBrotli =>
    exact forall_mem_parseBatch MessagePackBrotliProtocol.noStreamIds_of_parseFrame hparse m'
      (by simp)

/-- Lists that are not empty are the same if they are up to none and the empty list. -/
lemma eq_of_getD_nil {ids ids' : Option (List String)} (hids : ids.getD [] ≠ [])
    (h : ids.getD [] = ids'.getD []) : ids' = ids := by
  cases ids with
  | none => exact absurd rfl hids
  | some ids =>
    cases ids' with
    | none => exact absurd h hids
    | some ids' => exact congrArg some h.symm

/-- Only the JSON protocol keeps the fields of a `Close` that has any. -/
lemma keepsClose_iff (hlaw : rmp.Lawful) (hcompact : rmp.WritesCompact)
    (hlines : serde.WritesLines) (hw : w = 32 ∨ w = 64) {m : CloseMessage}
    (hround : kind = json → RoundTripsText rmp serde (.close m)) :
    kind.KeepsClose rmp serde decoder w m ↔
      kind = json ∨ (m.error = none ∧ m.allowReconnect = none) := by
  by_cases hkind : kind = json
  · subst kind
    obtain ⟨m', hdelivers, hsame⟩ := delivers_json (m := .close m) hlines trivial (hround rfl)
    refine ⟨fun _ => .inl rfl, fun _ => ?_⟩
    cases m' with
    | close m' =>
      obtain rfl : m = m' := hsame
      exact hdelivers
    | _ => exact hsame.elim
  · rw [KeepsClose, delivers_close hlaw hcompact hw hkind, or_iff_right hkind]
    obtain ⟨error, allowReconnect⟩ := m
    simp

/-- Only the JSON protocol keeps the stream ids of an invocation that has any. -/
lemma keepsStreamIds_iff (hlines : serde.WritesLines) {m : InvocationMessage}
    (hheaders : (m.headers.map Prod.fst).Nodup) (hids : m.streamIds.getD [] ≠ [])
    (hround : kind = json → RoundTripsText rmp serde (.invocation m)) :
    kind.KeepsStreamIds rmp serde decoder w m ↔ kind = json := by
  by_cases hkind : kind = json
  · subst kind
    obtain ⟨m', hdelivers, hsame⟩ :=
      delivers_json (m := .invocation m) hlines hheaders (hround rfl)
    refine ⟨fun _ => rfl, fun _ => ?_⟩
    cases m' with
    | invocation m' =>
      obtain ⟨-, -, -, -, hsameIds⟩ := hsame
      exact ⟨m', hdelivers, eq_of_getD_nil hids hsameIds⟩
    | _ => exact hsame.elim
  · refine ⟨?_, fun h => absurd h hkind⟩
    rintro ⟨m', hdelivers, hkeeps⟩
    have hnone : m'.streamIds = some [] := noStreamIds_of_delivers hkind hdelivers
    rw [← hkeeps, hnone] at hids
    exact absurd rfl hids

/-- Only the JSON protocol keeps the fields of every `Close` and the stream ids of invocations. The
MessagePack protocols keep those of a `Close` that has none, and no stream ids at all.

**Proof sketch.** The JSON protocol gives back what it has written. The MessagePack protocols write
one and the same payload for every `Close`, from which the one without fields is read; and no
invocation they ever read has stream ids. -/
theorem keeps_iff (hlaw : rmp.Lawful) (hcompact : rmp.WritesCompact) (hlines : serde.WritesLines)
    (decoder : BrotliDecoder) (hw : w = 32 ∨ w = 64) (kind : ProtocolKind) :
    (∀ m : CloseMessage, (kind = json → RoundTripsText rmp serde (.close m)) →
      (kind.KeepsClose rmp serde decoder w m ↔
        kind = json ∨ (m.error = none ∧ m.allowReconnect = none))) ∧
    ∀ m : InvocationMessage, (m.headers.map Prod.fst).Nodup → m.streamIds.getD [] ≠ [] →
      (kind = json → RoundTripsText rmp serde (.invocation m)) →
      (kind.KeepsStreamIds rmp serde decoder w m ↔ kind = json) := by
  constructor
  · intro m hround
    exact keepsClose_iff hlaw hcompact hlines hw hround
  · intro m hheaders hids hround
    exact keepsStreamIds_iff hlines hheaders hids hround

/-- A `Close` that allows no reconnect and an invocation with a stream, in JSON and in
MessagePack. -/
theorem keeps_iff_samples :
    json.KeepsClose Rmp.reference SerdeJson.samples (fun bytes => .ok bytes) 64 ⟨none, some false⟩ ∧
      ¬ messagePack.KeepsStreamIds Rmp.reference SerdeJson.samples (fun bytes => .ok bytes) 64
        ⟨[], some "1", "upload", .json [], some ["2"]⟩ := by
  have hkeeps := fun kind => keeps_iff Rmp.reference_lawful Rmp.reference_writesCompact
    SerdeJson.samples_writesLines (fun bytes => .ok bytes) (.inr rfl) kind
  constructor
  · refine ((hkeeps json).1 ⟨none, some false⟩ ?_).mpr (.inl rfl)
    intro
    exact (SerdeJson.roundTripsText_samples Rmp.reference).2
  · have hids := (hkeeps messagePack).2 ⟨[], some "1", "upload", .json [], some ["2"]⟩ (by simp)
      (by simp) (fun h => by cases h)
    intro h
    cases hids.mp h

/-- In MessagePack, a `Close` that allows no reconnect arrives as one that does not tell, and an
invocation with a stream arrives without it. -/
theorem not_keeps_messagePack :
    messagePack.Delivers Rmp.reference SerdeJson.samples (fun bytes => .ok bytes) 64
        (.close ⟨none, some false⟩) (.close ⟨none, none⟩) ∧
      ¬ messagePack.KeepsClose Rmp.reference SerdeJson.samples (fun bytes => .ok bytes) 64
        ⟨none, some false⟩ ∧
      ¬ messagePack.KeepsStreamIds Rmp.reference SerdeJson.samples (fun bytes => .ok bytes) 64
        ⟨[], some "1", "upload", .json [], some ["2"]⟩ := by
  have hkind : messagePack ≠ json := by decide
  have hclose : ∀ m' : HubMessage, messagePack.Delivers Rmp.reference SerdeJson.samples
      (fun bytes => .ok bytes) 64 (.close ⟨none, some false⟩) m' ↔ m' = .close ⟨none, none⟩ :=
    fun m' => delivers_close Rmp.reference_lawful Rmp.reference_writesCompact (.inr rfl) hkind _
  refine ⟨(hclose _).mpr rfl, fun h => ?_, ?_⟩
  · cases (hclose _).mp h
  · rintro ⟨m', hdelivers, hkeeps⟩
    have hnone : m'.streamIds = some [] := noStreamIds_of_delivers hkind hdelivers
    rw [hnone] at hkeeps
    cases hkeeps

end ProtocolKind

end Signalrr.Hub
