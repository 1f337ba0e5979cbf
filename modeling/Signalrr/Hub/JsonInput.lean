import Signalrr.Hub.JsonProtocol

set_option relaxedAutoImplicit false
set_option autoImplicit false

/-!
# Input of the JSON protocol

A text is a list of records, each with the separator behind it. The reader takes the records apart,
passes over empty ones, and reads the others as JSON in their order. It is stated here which texts
are accepted, what is read from them, and which error ends the reading of the others.

## Main definitions

* `Signalrr.Framing.TextMessageFormat.Records` — a text consists of these records.
* `Signalrr.Hub.JsonProtocol.Reads`, `Signalrr.Hub.JsonProtocol.Refuses` — what is read from a
  text, or the error.

## Main results

* `Signalrr.Framing.TextMessageFormat.parse_of_records`, `exists_records` — `parse` takes apart the
  texts that consist of records, and these end with a separator.
* `Signalrr.Hub.JsonProtocol.parseMessages_exact` — `parse_messages` reads what it should.
-/

namespace Signalrr

/-! ## Records -/

namespace Framing.TextMessageFormat

/-- A text consists of these records, at least one of them. -/
structure Records (text : String) (records : List String) : Prop where
  some : records ≠ []
  apart : ∀ r ∈ records, recordSeparator ∉ r.toList
  join : text = String.join (records.map write)

/-- The records of a text are taken apart, except for the empty ones. -/
lemma parse_of_records {text : String} {records : List String} (h : Records text records) :
    parse text = .ok (records.filter (· ≠ "")) := by
  obtain ⟨hsome, hapart, rfl⟩ := h
  have hlast := getLast?_batch hsome
  have hwhole : ¬ ((String.join (records.map write)).isEmpty = true ∨
      (String.join (records.map write)).toList.getLast? ≠ some recordSeparator) := by
    rintro (hempty | hother)
    · rw [String.isEmpty_iff] at hempty
      rw [hempty] at hlast
      cases hlast
    · exact hother hlast
  rw [parse, if_neg hwhole, splitOn_batch hapart, List.filter_append,
    List.filter_cons_of_neg (by simp), List.filter_nil, List.append_nil, List.filter_map,
    List.map_map]
  have hkept : (fun part : List Char => !part.isEmpty) ∘ String.toList =
      fun record : String => decide (record ≠ "") := by
    funext record
    by_cases hrecord : record = "" <;> simp [hrecord]
  rw [hkept]
  simp

/-- A text that ends with a separator consists of records.

**Proof sketch.** By induction on the length: the first record ends at the first separator, and what
is left ends with a separator or is empty. -/
lemma exists_records_of_getLast? (chars : List Char)
    (hlast : chars.getLast? = some recordSeparator) :
    ∃ records, Records (String.ofList chars) records := by
  induction hlength : chars.length using Nat.strong_induction_on generalizing chars with
  | _ n ih =>
    obtain ⟨record, rest, rfl, hrecord⟩ :=
      List.eq_append_cons_of_mem (List.mem_of_getLast? hlast)
    have hfirst : recordSeparator ∉ (String.ofList record).toList := by
      rwa [String.toList_ofList]
    cases rest with
    | nil =>
      refine ⟨[String.ofList record], by simp, by simpa using hrecord, ?_⟩
      rw [← String.toList_inj]
      simp [write]
    | cons c rest =>
      have hrest : (c :: rest).getLast? = some recordSeparator := by
        rw [← hlast, List.getLast?_append_of_ne_nil _ (List.cons_ne_nil _ _),
          List.getLast?_cons_cons]
      obtain ⟨records, hsome, hapart, hjoin⟩ :=
        ih _ (by rw [← hlength]; simp; omega) (c :: rest) hrest rfl
      refine ⟨String.ofList record :: records, by simp,
        List.forall_mem_cons.mpr ⟨hfirst, hapart⟩, ?_⟩
      rw [List.map_cons, String.join_cons, ← hjoin, ← String.toList_inj]
      simp [write]

/-- A text that is not refused consists of records. -/
lemma exists_records {text : String} {parts : List String} (h : parse text = .ok parts) :
    ∃ records, Records text records := by
  rw [parse] at h
  split at h
  · cases h
  · rename_i hwhole
    rw [not_or, not_not] at hwhole
    have hrecords := exists_records_of_getLast? text.toList hwhole.2
    rwa [String.ofList_toList] at hrecords

/-- There is one error. -/
lemma eq_of_parse_error {text : String} {error : FramingError} (h : parse text = .error error) :
    error = .incompleteMessage := by
  rw [parse] at h
  split at h <;> cases h
  rfl

end Framing.TextMessageFormat

/-! ## JSON -/

namespace Hub.JsonProtocol

open Framing

variable {serde : SerdeJson} {text : String}

/-- These messages are read from a text: every record that is not empty is JSON, and those that are
messages are read as such. -/
def Reads (serde : SerdeJson) (text : String) (ms : List HubMessage) : Prop :=
  ∃ records values, TextMessageFormat.Records text records ∧
    List.Forall₂ (fun record value => serde.fromText record = .ok value)
      (records.filter (· ≠ "")) values ∧
      ms = values.filterMap HubMessage.fromJsonValue

/-- A text is refused: it does not consist of records, or the first record that is not JSON ends the
reading. -/
inductive Refuses (serde : SerdeJson) (text : String) : ProtocolError → Prop
  | framing (h : ∀ records, ¬ TextMessageFormat.Records text records) :
    Refuses serde text (.framing FramingError.incompleteMessage.toText)
  | json {records good bad : List String} {record error : String}
    (hrecords : TextMessageFormat.Records text records)
    (hsplit : records.filter (· ≠ "") = good ++ record :: bad)
    (hgood : ∀ r ∈ good, ∃ value, serde.fromText r = .ok value)
    (hbad : serde.fromText record = .error error) : Refuses serde text (.json error)

/-- Records that are all JSON are read one by one. -/
lemma parseTexts_of_values {records : List String} {values : List Value}
    (h : List.Forall₂ (fun record value => serde.fromText record = .ok value) records values) :
    parseTexts serde records = .ok (values.filterMap HubMessage.fromJsonValue) := by
  induction h with
  | nil => rfl
  | @cons record value records values hvalue _ ih =>
    rw [parseTexts, hvalue, List.filterMap_cons]
    dsimp only
    rw [ih, ok_bind]
    cases HubMessage.fromJsonValue value <;> rfl

/-- The first record that is not JSON ends the reading. -/
lemma parseTexts_of_error {good bad : List String} {record error : String}
    (hgood : ∀ r ∈ good, ∃ value, serde.fromText r = .ok value)
    (hbad : serde.fromText record = .error error) :
    parseTexts serde (good ++ record :: bad) = .error (.json error) := by
  induction good with
  | nil => rw [List.nil_append, parseTexts, hbad]
  | cons r good ih =>
    obtain ⟨⟨value, hvalue⟩, hgood⟩ := List.forall_mem_cons.mp hgood
    rw [List.cons_append, parseTexts, hvalue]
    dsimp only
    rw [ih hgood]
    rfl

/-- All records are JSON, or there is a first one that is not. -/
lemma values_or_error (serde : SerdeJson) (records : List String) :
    (∃ values, List.Forall₂ (fun record value => serde.fromText record = .ok value)
        records values) ∨
      ∃ good record bad error, records = good ++ record :: bad ∧
        (∀ r ∈ good, ∃ value, serde.fromText r = .ok value) ∧
          serde.fromText record = .error error := by
  induction records with
  | nil => exact .inl ⟨[], .nil⟩
  | cons r records ih =>
    cases hr : serde.fromText r with
    | error error => exact .inr ⟨[], r, records, error, rfl, by simp, hr⟩
    | ok value =>
      rcases ih with ⟨values, hvalues⟩ | ⟨good, record, bad, error, rfl, hgood, hbad⟩
      · exact .inl ⟨value :: values, .cons hr hvalues⟩
      · exact .inr ⟨r :: good, record, bad, error, rfl,
          List.forall_mem_cons.mpr ⟨⟨value, hr⟩, hgood⟩, hbad⟩

/-- What is read. -/
lemma parseMessages_of_reads {ms : List HubMessage} (h : Reads serde text ms) :
    parseMessages serde (.text text) = .ok ms := by
  obtain ⟨records, values, hrecords, hvalues, rfl⟩ := h
  rw [parseMessages, TextMessageFormat.parse_of_records hrecords]
  exact parseTexts_of_values hvalues

/-- What is refused. -/
lemma parseMessages_of_refuses {error : ProtocolError} (h : Refuses serde text error) :
    parseMessages serde (.text text) = .error error := by
  cases h with
  | framing h =>
    rw [parseMessages]
    cases hparse : TextMessageFormat.parse text with
    | ok parts =>
      obtain ⟨records, hrecords⟩ := TextMessageFormat.exists_records hparse
      exact absurd hrecords (h records)
    | error error => rw [TextMessageFormat.eq_of_parse_error hparse]
  | json hrecords hsplit hgood hbad =>
    rw [parseMessages, TextMessageFormat.parse_of_records hrecords, hsplit]
    exact parseTexts_of_error hgood hbad

/-- A text is read or refused. -/
lemma reads_or_refuses (serde : SerdeJson) (text : String) :
    (∃ ms, Reads serde text ms) ∨ ∃ error, Refuses serde text error := by
  by_cases hrecords : ∃ records, TextMessageFormat.Records text records
  · obtain ⟨records, hrecords⟩ := hrecords
    rcases values_or_error serde (records.filter (· ≠ "")) with
      ⟨values, hvalues⟩ | ⟨good, record, bad, error, hsplit, hgood, hbad⟩
    · exact .inl ⟨_, records, values, hrecords, hvalues, rfl⟩
    · exact .inr ⟨_, .json hrecords hsplit hgood hbad⟩
  · exact .inr ⟨_, .framing (not_exists.mp hrecords)⟩

/-- **The JSON protocol reads what it should**, for every text and every `serde_json`: the messages
among its records in their order, and it fails with the error of the first record that is not JSON,
or with one of the framing when the text does not consist of records. -/
theorem parseMessages_exact (serde : SerdeJson) (text : String) :
    (∀ ms, parseMessages serde (.text text) = .ok ms ↔ Reads serde text ms) ∧
      ∀ error, parseMessages serde (.text text) = .error error ↔ Refuses serde text error := by
  rcases reads_or_refuses serde text with ⟨ms, hreads⟩ | ⟨error, hrefuses⟩
  · have hparse := parseMessages_of_reads hreads
    refine ⟨fun ms' => ⟨fun h => ?_, parseMessages_of_reads⟩,
      fun error => ⟨fun h => ?_, parseMessages_of_refuses⟩⟩
    · obtain rfl := Except.ok.inj (hparse.symm.trans h)
      exact hreads
    · cases hparse.symm.trans h
  · have hparse := parseMessages_of_refuses hrefuses
    refine ⟨fun ms => ⟨fun h => ?_, parseMessages_of_reads⟩,
      fun error' => ⟨fun h => ?_, parseMessages_of_refuses⟩⟩
    · cases hparse.symm.trans h
    · obtain rfl := Except.error.inj (hparse.symm.trans h)
      exact hrefuses

end Hub.JsonProtocol

end Signalrr
