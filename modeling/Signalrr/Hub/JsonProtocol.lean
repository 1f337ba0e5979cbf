import Mathlib.Data.List.Forall2
import Signalrr.Framing.MessageFormat
import Signalrr.Hub.JsonMessage

set_option relaxedAutoImplicit false
set_option autoImplicit false

/-!
# The JSON hub protocol

`src/hub/json.rs`: a message is the text of its JSON, closed by a record separator.

## Main definitions

* `Signalrr.Hub.JsonProtocol.writeMessage`, `Signalrr.Hub.JsonProtocol.parseMessages` — the
  protocol.
* `Signalrr.Hub.JsonProtocol.hubProtocol` — the protocol as the client is given it.
* `Signalrr.Hub.SerdeJson.WritesLines` — what the protocol relies on in all texts of JSON.
* `Signalrr.Hub.RoundTripsText` — the JSON of a message is read back from its text.

## Main results

* `Signalrr.Hub.JsonProtocol.parse_batch` — a batch of messages is read back in order.

## Design

The bytes of a batch reach the reader as text. A text that is no message of a known type is skipped
by the reader, so what is read back is compared with what was written as a whole.
-/

namespace Signalrr.Hub

open Framing

/-! ## The protocol -/

namespace JsonProtocol

/-- The loop of `parse_messages` over the texts of a batch. -/
def parseTexts (serde : SerdeJson) : List String → Except ProtocolError (List HubMessage)
  | [] => .ok []
  | message :: messages =>
    match serde.fromText message with
    | .error error => .error (.json error)
    | .ok jsonValue => do
      let parsed ← parseTexts serde messages
      pure ((HubMessage.fromJsonValue jsonValue).toList ++ parsed)

/-- `parse_messages`. -/
def parseMessages (serde : SerdeJson) : HubProtocolInput → Except ProtocolError (List HubMessage)
  | .binary _ =>
    .error (.invalidInput "invalid input for JSON hub protocol; expected text")
  | .text text =>
    match TextMessageFormat.parse text with
    | .error error => .error (.framing error.toText)
    | .ok messages => parseTexts serde messages

/-- `write_message`. -/
def writeMessage (rmp : Rmp) (serde : SerdeJson) (message : HubMessage) :
    Except ProtocolError Bytes := do
  let value ← message.toJsonValue rmp serde
  match serde.toText value with
  | .error error => .error (.json error)
  | .ok json => pure (utf8 (TextMessageFormat.write json))

/-- The JSON protocol as a hub protocol. -/
def hubProtocol (rmp : Rmp) (serde : SerdeJson) : HubProtocol where
  name := "json"
  version := 2
  transferFormat := .text
  parseMessages := parseMessages serde
  writeMessage := writeMessage rmp serde

end JsonProtocol

/-! ## Texts -/

/-- The text of JSON is never empty, and control characters are escaped in it. -/
def SerdeJson.WritesLines (serde : SerdeJson) : Prop :=
  ∀ value json, serde.toText value = .ok json →
    json ≠ "" ∧ TextMessageFormat.recordSeparator ∉ json.toList

/-- The JSON of a message is written as a text from which it is read back. -/
def RoundTripsText (rmp : Rmp) (serde : SerdeJson) (message : HubMessage) : Prop :=
  ∃ value json, message.toJsonValue rmp serde = .ok value ∧ serde.toText value = .ok json ∧
    serde.fromText json = .ok value

namespace SerdeJson

/-- The text of `Ping`. -/
def pingText : String := "\x7b\"type\":6\x7d"

/-- The text of a `Close` that allows no reconnect. -/
def closeText : String := "\x7b\"allowReconnect\":false,\"type\":7\x7d"

/-- `serde_json` on two messages, and an error on any other. -/
def samples : SerdeJson where
  toValue := convert
  toText
    | .object [("type", .number (.posInt 6))] => .ok pingText
    | .object [("allowReconnect", .bool false), ("type", .number (.posInt 7))] => .ok closeText
    | _ => .error "no sample"
  fromText json :=
    if json = pingText then .ok (.object [("type", .number (.posInt 6))])
    else if json = closeText then
      .ok (.object [("allowReconnect", .bool false), ("type", .number (.posInt 7))])
    else .error "no sample"

lemma samples_writesLines : samples.WritesLines := by
  intro value json h
  have hjson : json = pingText ∨ json = closeText := by
    unfold samples at h
    simp only at h
    split at h
    · exact .inl (Except.ok.inj h).symm
    · exact .inr (Except.ok.inj h).symm
    · cases h
  rcases hjson with rfl | rfl
  · exact ⟨by decide, by decide⟩
  · exact ⟨by decide, by decide⟩

/-- The samples are read back from their texts. -/
lemma roundTripsText_samples (rmp : Rmp) :
    RoundTripsText rmp samples .ping ∧ RoundTripsText rmp samples (.close ⟨none, some false⟩) :=
  ⟨⟨_, pingText, rfl, rfl, rfl⟩, ⟨_, closeText, rfl, rfl, rfl⟩⟩

end SerdeJson

/-- The bytes of joined strings. -/
lemma utf8_join (strings : List String) :
    utf8 (String.join strings) = (strings.map utf8).flatten := by
  induction strings with
  | nil => rfl
  | cons s strings ih => rw [String.join_cons, utf8_append, ih, List.map_cons, List.flatten_cons]

namespace JsonProtocol

variable {rmp : Rmp} {serde : SerdeJson}

/-- A message that is written is read back from its text. -/
lemma readsBack (hlines : serde.WritesLines) {m : HubMessage} (hm : m.WellFormed)
    (hround : RoundTripsText rmp serde m) :
    ∃ json value m', writeMessage rmp serde m = .ok (utf8 (TextMessageFormat.write json)) ∧
      json ≠ "" ∧ TextMessageFormat.recordSeparator ∉ json.toList ∧
        serde.fromText json = .ok value ∧ HubMessage.fromJsonValue value = some m' ∧
          m.Same rmp serde m' := by
  obtain ⟨value, json, hvalue, hjson, hread⟩ := hround
  obtain ⟨hfull, hsep⟩ := hlines value json hjson
  obtain ⟨m', hparse, hsame⟩ := HubMessage.fromJsonValue_toJsonValue hm hvalue
  refine ⟨json, value, m', ?_, hfull, hsep, hread, hparse, hsame⟩
  rw [writeMessage, hvalue, ok_bind, hjson]
  rfl

/-- The messages are written, and from the concatenation of what is written the same messages are
read back in order. -/
def BatchReadsBack (rmp : Rmp) (serde : SerdeJson) (ms : List HubMessage) : Prop :=
  ∃ payloads text ms',
    List.Forall₂ (fun m payload => (hubProtocol rmp serde).writeMessage m = .ok payload) ms
      payloads ∧
      ofUtf8 payloads.flatten = some text ∧
        (hubProtocol rmp serde).parseMessages (.text text) = .ok ms' ∧
          List.Forall₂ (HubMessage.Same rmp serde) ms ms'

/-- The texts of messages, none of which is empty or has a separator in it, are read one by one. -/
lemma parseTexts_written (hlines : serde.WritesLines) {ms : List HubMessage}
    (hms : ∀ m ∈ ms, m.WellFormed ∧ RoundTripsText rmp serde m) :
    ∃ texts ms', List.Forall₂ (fun m json =>
        writeMessage rmp serde m = .ok (utf8 (TextMessageFormat.write json))) ms texts ∧
      (∀ json ∈ texts, json ≠ "") ∧
        (∀ json ∈ texts, TextMessageFormat.recordSeparator ∉ json.toList) ∧
          parseTexts serde texts = .ok ms' ∧ List.Forall₂ (HubMessage.Same rmp serde) ms ms' := by
  induction ms with
  | nil => exact ⟨[], [], .nil, by simp, by simp, rfl, .nil⟩
  | cons m ms ih =>
    obtain ⟨⟨hm, hround⟩, hms⟩ := List.forall_mem_cons.mp hms
    obtain ⟨json, value, m', hwrite, hfull, hsep, hread, hparse, hsame⟩ :=
      readsBack hlines hm hround
    obtain ⟨texts, ms', hwrites, hfulls, hseps, hparses, hsames⟩ := ih hms
    refine ⟨json :: texts, m' :: ms', .cons hwrite hwrites,
      List.forall_mem_cons.mpr ⟨hfull, hfulls⟩, List.forall_mem_cons.mpr ⟨hsep, hseps⟩, ?_,
      .cons hsame hsames⟩
    rw [parseTexts, hread]
    simp only [hparses, ok_bind, hparse]
    rfl

/-- A batch of messages that are written is split into their texts and read back.

**Proof sketch.** Every message is written as a text without a separator, so that the batch is split
into these texts again. Each of them is read as the JSON it was written from, and the message is
read back from its JSON. -/
lemma parseMessages_written (hlines : serde.WritesLines) {ms : List HubMessage} (hsome : ms ≠ [])
    (hms : ∀ m ∈ ms, m.WellFormed ∧ RoundTripsText rmp serde m) :
    ∃ texts ms', List.Forall₂ (fun m json =>
        writeMessage rmp serde m = .ok (utf8 (TextMessageFormat.write json))) ms texts ∧
      parseMessages serde (.text (String.join (texts.map TextMessageFormat.write))) = .ok ms' ∧
        List.Forall₂ (HubMessage.Same rmp serde) ms ms' := by
  obtain ⟨texts, ms', hwrites, hfulls, hseps, hparses, hsames⟩ := parseTexts_written hlines hms
  have hne : texts ≠ [] := by
    rintro rfl
    cases hwrites
    exact hsome rfl
  refine ⟨texts, ms', hwrites, ?_, hsames⟩
  simp only [parseMessages, TextMessageFormat.parse_write hne hfulls hseps]
  exact hparses

/-- A single message that is written is read back. -/
lemma parseMessages_write (hlines : serde.WritesLines) {m : HubMessage} (hm : m.WellFormed)
    (hround : RoundTripsText rmp serde m) :
    ∃ text m', writeMessage rmp serde m = .ok (utf8 text) ∧
      parseMessages serde (.text text) = .ok [m'] ∧ m.Same rmp serde m' := by
  have hone : ∀ m' ∈ [m], m'.WellFormed ∧ RoundTripsText rmp serde m' := by
    simpa using ⟨hm, hround⟩
  obtain ⟨texts, ms', hwrites, hparse, hsames⟩ := parseMessages_written hlines (by simp) hone
  obtain ⟨json, rfl, hwrite⟩ : ∃ json, texts = [json] ∧
      writeMessage rmp serde m = .ok (utf8 (TextMessageFormat.write json)) := by
    cases hwrites with
    | cons hwrite hnil =>
      cases hnil
      exact ⟨_, rfl, hwrite⟩
  obtain ⟨m', rfl, hsame⟩ : ∃ m', ms' = [m'] ∧ m.Same rmp serde m' := by
    cases hsames with
    | cons hsame hnil =>
      cases hnil
      exact ⟨_, rfl, hsame⟩
  exact ⟨_, m', hwrite, by simpa using hparse, hsame⟩

/-- A batch of messages is read back, if there is at least one: the same messages in order, where no
stream ids are the same as an empty list of them. -/
theorem parse_batch (hlines : serde.WritesLines) {ms : List HubMessage} (hsome : ms ≠ [])
    (hms : ∀ m ∈ ms, m.WellFormed ∧ RoundTripsText rmp serde m) : BatchReadsBack rmp serde ms := by
  obtain ⟨texts, ms', hwrites, hparse, hsames⟩ := parseMessages_written hlines hsome hms
  refine ⟨(texts.map TextMessageFormat.write).map utf8,
    String.join (texts.map TextMessageFormat.write), ms', ?_, ?_, hparse, hsames⟩
  · rw [List.map_map, List.forall₂_map_right_iff]
    exact hwrites
  · rw [← utf8_join, ofUtf8_utf8]

/-- A `Ping` and a `Close` that allows no reconnect. -/
theorem parse_batch_two :
    BatchReadsBack Rmp.reference SerdeJson.samples [.ping, .close ⟨none, some false⟩] := by
  obtain ⟨hping, hclose⟩ := SerdeJson.roundTripsText_samples Rmp.reference
  refine parse_batch SerdeJson.samples_writesLines (by simp) ?_
  simp only [List.forall_mem_cons]
  exact ⟨⟨trivial, hping⟩, ⟨trivial, hclose⟩, by simp⟩

/-- No messages at all are not read back: an empty text is refused. -/
theorem not_batchReadsBack_empty :
    SerdeJson.samples.WritesLines ∧ ¬ BatchReadsBack Rmp.reference SerdeJson.samples [] := by
  refine ⟨SerdeJson.samples_writesLines, ?_⟩
  rintro ⟨payloads, text, ms', hwrites, htext, hparse, -⟩
  cases hwrites
  obtain rfl : text = "" := by
    have hempty : ofUtf8 (utf8 "") = some text := htext
    rw [ofUtf8_utf8] at hempty
    exact (Option.some.inj hempty).symm
  cases hparse

end JsonProtocol

end Signalrr.Hub
