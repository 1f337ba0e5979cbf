import Signalrr.Framing.MessageFormat
import Signalrr.Hub.JsonValue

set_option relaxedAutoImplicit false
set_option autoImplicit false

/-!
# The handshake response

`src/handshake.rs`: the first message of the server is cut off at the first record separator; what
follows belongs to the hub protocol. A text is searched by characters and cut at byte offsets, a
binary message is searched and cut by bytes.

## Main definitions

* `Signalrr.Handshake.splitTextHandshake`, `splitBinaryHandshake` — the two splits; `none` is an
  offset inside a character, which is a panic.
* `Signalrr.Handshake.parseResponse` — `parse_response`.
* `Signalrr.Handshake.CutsAtFirst` — a list is cut behind the first separator.

## Main results

* `Signalrr.Handshake.eq_of_mem_utf8EncodeChar` — an ASCII byte in the encoding of a character is
  the character.
* `Signalrr.Handshake.splitTextHandshake_eq`, `splitBinaryHandshake_eq` — both splits, seen from
  where the first separator is.
* `Signalrr.Handshake.split_complete` — the splits lose nothing and agree.
-/

namespace Signalrr.Handshake

open Hub Framing

/-! ## Splitting -/

/-- Remaining data after the handshake message in the transport buffer. -/
inductive RemainingData where
  | text (text : String)
  | bytes (bytes : Bytes)
  deriving DecidableEq, Repr

/-- `str::find` with the record separator: the offset of the first one in bytes. -/
def findSeparator : List Char → Option ℕ
  | [] => none
  | c :: cs =>
    if c = TextMessageFormat.recordSeparator then some 0
    else (findSeparator cs).map fun offset => c.utf8Size + offset

/-- `split_text_handshake`. -/
def splitTextHandshake (text : String) : Option (Except Error (String × Option RemainingData)) :=
  match findSeparator text.toList with
  | none => some (.error (.framing FramingError.incompleteMessage.toText))
  | some separatorIndex => do
    let responseLength := separatorIndex + TextMessageFormat.recordSeparator.utf8Size
    let messageData ← ofUtf8 ((utf8 text).take responseLength)
    if (utf8 text).length > responseLength then do
      let remaining ← ofUtf8 ((utf8 text).drop responseLength)
      some (.ok (messageData, some (.text remaining)))
    else some (.ok (messageData, none))

/-- `split_binary_handshake`; `invalid` is the text of an error of `String::from_utf8`. -/
def splitBinaryHandshake (invalid : Bytes → String) (bytes : Bytes) :
    Except Error (String × Option RemainingData) :=
  match bytes.findIdx? (· == 0x1e) with
  | none => .error (.framing FramingError.incompleteMessage.toText)
  | some separatorIndex =>
    let responseLength := separatorIndex + 1
    match ofUtf8 (bytes.take responseLength) with
    | none => .error (.handshake (invalid (bytes.take responseLength)))
    | some messageData =>
      let remaining :=
        if bytes.length > responseLength then some (.bytes (bytes.drop responseLength)) else none
      .ok (messageData, remaining)

/-! ## Parsing -/

/-- Server handshake response payload. -/
structure HandshakeResponse where
  error : Option String
  minorVersion : Option ℤ
  deriving DecidableEq, Repr

/-- Parsed handshake response and any trailing transport data. -/
structure HandshakeResult where
  response : HandshakeResponse
  remaining : Option RemainingData
  deriving DecidableEq, Repr

/-- Handshake input from the transport layer. -/
inductive HandshakeInput where
  | text (text : String)
  | binary (bytes : Bytes)

/-- What `parse_response` calls: `serde_json` to read a response, and the text of an error of
`String::from_utf8`. -/
structure HandshakeCrates where
  fromJson : String → Except String HandshakeResponse
  invalidUtf8 : Bytes → String

/-- `parse_response` behind the split. -/
def parseMessageData (crates : HandshakeCrates) (messageData : String)
    (remaining : Option RemainingData) : Except Error HandshakeResult :=
  match TextMessageFormat.parse messageData with
  | .error error => .error (.framing error.toText)
  | .ok [] => .error (.handshake "empty handshake response")
  | .ok (responseJson :: _) =>
    match crates.fromJson responseJson with
    | .error error => .error (.json error)
    | .ok response => .ok ⟨response, remaining⟩

/-- `parse_response`. -/
def parseResponse (crates : HandshakeCrates) :
    HandshakeInput → Option (Except Error HandshakeResult)
  | .text text =>
    (splitTextHandshake text).map fun split =>
      split.bind fun (messageData, remaining) => parseMessageData crates messageData remaining
  | .binary bytes =>
    some ((splitBinaryHandshake crates.invalidUtf8 bytes).bind fun (messageData, remaining) =>
      parseMessageData crates messageData remaining)

/-! ## The encoding of the separator -/

/-- The bytes of a string are the encodings of its characters. -/
lemma utf8_ofList (cs : List Char) :
    utf8 (String.ofList cs) = cs.flatMap String.utf8EncodeChar := by
  rw [utf8, String.toByteArray_ofList, List.utf8Encode]
  simp

/-- An ASCII byte in the encoding of a character is the character.

**Proof sketch.** A character below `0x80` is its own encoding, and the bytes of a longer encoding
all have their highest bit set. -/
lemma eq_of_mem_utf8EncodeChar {c : Char} {b : UInt8} (h : b ∈ String.utf8EncodeChar c)
    (hb : b.toNat < 0x80) : c.toNat = b.toNat := by
  have hvalue : c.toNat = c.val.toNat := rfl
  have hbyte : ∀ n : ℕ, b = UInt8.ofNat n → b.toNat = n % 256 := by
    rintro n rfl
    rw [UInt8.toNat_ofNat']
  unfold String.utf8EncodeChar at h
  dsimp only at h
  split at h
  · have hsame := hbyte _ (List.mem_singleton.mp h)
    omega
  · exfalso
    split at h
    · simp only [List.mem_cons, List.not_mem_nil, or_false] at h
      rcases h with h | h <;> have hsame := hbyte _ h <;> omega
    split at h
    · simp only [List.mem_cons, List.not_mem_nil, or_false] at h
      rcases h with h | h | h <;> have hsame := hbyte _ h <;> omega
    · simp only [List.mem_cons, List.not_mem_nil, or_false] at h
      rcases h with h | h | h | h <;> have hsame := hbyte _ h <;> omega

/-- The separator byte is only found where the separator is. -/
lemma separator_notMem_utf8 {cs : List Char} (h : TextMessageFormat.recordSeparator ∉ cs) :
    (0x1e : UInt8) ∉ utf8 (String.ofList cs) := by
  rw [utf8_ofList, List.mem_flatMap]
  rintro ⟨c, hc, hbyte⟩
  have hsame := eq_of_mem_utf8EncodeChar hbyte (by decide)
  have hseparator : c = TextMessageFormat.recordSeparator := Char.toNat_inj.mp hsame
  exact h (hseparator ▸ hc)

/-- The bytes of a string with a separator in it. -/
lemma utf8_separator (front tail : List Char) :
    utf8 (String.ofList (front ++ TextMessageFormat.recordSeparator :: tail)) =
      utf8 (String.ofList front) ++ 0x1e :: utf8 (String.ofList tail) := by
  have hseparator : String.utf8EncodeChar TextMessageFormat.recordSeparator = [0x1e] := rfl
  simp only [utf8_ofList, List.flatMap_append, List.flatMap_cons, hseparator, List.cons_append,
    List.nil_append]

/-- The offset of the first separator is the number of bytes in front of it. -/
lemma findSeparator_eq {front : List Char} (h : TextMessageFormat.recordSeparator ∉ front)
    (tail : List Char) :
    findSeparator (front ++ TextMessageFormat.recordSeparator :: tail) =
      some (utf8 (String.ofList front)).length := by
  induction front with
  | nil => rfl
  | cons c front ih =>
    rw [List.mem_cons, not_or] at h
    obtain ⟨hc, hfront⟩ := h
    rw [List.cons_append, findSeparator, if_neg (Ne.symm hc), ih hfront, Option.map_some,
      utf8_ofList, utf8_ofList, List.flatMap_cons, List.length_append, String.length_utf8EncodeChar]

/-- No separator is found where there is none. -/
lemma findSeparator_none {cs : List Char} (h : TextMessageFormat.recordSeparator ∉ cs) :
    findSeparator cs = none := by
  induction cs with
  | nil => rfl
  | cons c cs ih =>
    rw [List.mem_cons, not_or] at h
    obtain ⟨hc, hcs⟩ := h
    rw [findSeparator, if_neg (Ne.symm hc), ih hcs, Option.map_none]

/-- The position of the first separator byte. -/
lemma findIdx?_separator {front : Bytes} (h : 0x1e ∉ front) (tail : Bytes) :
    (front ++ 0x1e :: tail).findIdx? (· == 0x1e) = some front.length := by
  have hfront : front.findIdx? (· == 0x1e) = none := by
    rw [List.findIdx?_eq_none_iff]
    intro b hb
    simp only [beq_eq_false_iff_ne, ne_eq]
    rintro rfl
    exact h hb
  simp [List.findIdx?_append, hfront, List.findIdx?_cons]

/-! ## The splits -/

/-- `xs` is cut into `part` and `rest` behind the first `separator`. -/
def CutsAtFirst {α : Type} (separator : α) (xs part rest : List α) : Prop :=
  ∃ front, separator ∉ front ∧ part = front ++ [separator] ∧ xs = part ++ rest

/-- A list with a separator in it is cut behind the first one. -/
lemma exists_cutsAtFirst {α : Type} {separator : α} {xs : List α} (h : separator ∈ xs) :
    ∃ part rest, CutsAtFirst separator xs part rest := by
  obtain ⟨front, rest, rfl, hfront⟩ := List.eq_append_cons_of_mem h
  exact ⟨front ++ [separator], rest, front, hfront, rfl, by simp⟩

/-- What is left of a text, if anything. -/
def remainingText (rest : List Char) : Option RemainingData :=
  if rest = [] then none else some (.text (String.ofList rest))

/-- What is left of bytes, if anything. -/
def remainingBytes (rest : Bytes) : Option RemainingData :=
  if rest = [] then none else some (.bytes rest)

/-- A text is split where it is cut behind the first separator. -/
lemma splitTextHandshake_eq {text : String} {part rest : List Char}
    (h : CutsAtFirst TextMessageFormat.recordSeparator text.toList part rest) :
    splitTextHandshake text = some (.ok (String.ofList part, remainingText rest)) := by
  obtain ⟨front, hfront, rfl, htext⟩ := h
  have hbytes : utf8 text =
      utf8 (String.ofList (front ++ [TextMessageFormat.recordSeparator])) ++
        utf8 (String.ofList rest) := by
    rw [← utf8_append, ← String.ofList_append, ← htext, String.ofList_toList]
  have hlen : (utf8 (String.ofList front)).length + TextMessageFormat.recordSeparator.utf8Size =
      (utf8 (String.ofList (front ++ [TextMessageFormat.recordSeparator]))).length := by
    rw [utf8_separator, List.length_append, List.length_cons]
    rfl
  have hfind : findSeparator text.toList = some (utf8 (String.ofList front)).length := by
    rw [htext, List.append_assoc]
    exact findSeparator_eq hfront rest
  simp only [splitTextHandshake, hfind, hlen, hbytes, List.take_left, List.drop_left, ofUtf8_utf8,
    List.length_append, Option.bind_eq_bind, Option.bind_some, remainingText]
  cases rest with
  | nil =>
    have hnone : (utf8 (String.ofList [])).length = 0 := rfl
    rw [if_neg (by omega), if_pos rfl]
  | cons c rest =>
    have hpos : 0 < (utf8 (String.ofList (c :: rest))).length := by
      rw [utf8_ofList, List.flatMap_cons, List.length_append, String.length_utf8EncodeChar]
      have hsize := c.utf8Size_pos
      omega
    rw [if_pos (Nat.lt_add_of_pos_right hpos), if_neg (by simp)]

/-- A text without a separator is incomplete. -/
lemma splitTextHandshake_none {text : String}
    (h : TextMessageFormat.recordSeparator ∉ text.toList) :
    splitTextHandshake text = some (.error (.framing FramingError.incompleteMessage.toText)) := by
  rw [splitTextHandshake, findSeparator_none h]

/-- A binary message is split where it is cut behind the first separator, if the bytes in front are
a string. -/
lemma splitBinaryHandshake_eq (invalid : Bytes → String) {bytes part rest : Bytes}
    (h : CutsAtFirst 0x1e bytes part rest) :
    splitBinaryHandshake invalid bytes =
      match ofUtf8 part with
      | none => .error (.handshake (invalid part))
      | some messageData => .ok (messageData, remainingBytes rest) := by
  obtain ⟨front, hfront, rfl, rfl⟩ := h
  have hfind : (front ++ [0x1e] ++ rest).findIdx? (· == 0x1e) = some front.length := by
    rw [List.append_assoc]
    exact findIdx?_separator hfront rest
  have hlen : front.length + 1 = (front ++ [(0x1e : UInt8)]).length := by simp
  simp only [splitBinaryHandshake, hfind, hlen, List.take_left, List.drop_left, remainingBytes]
  cases ofUtf8 (front ++ [0x1e]) with
  | none => rfl
  | some messageData =>
    cases rest with
    | nil => simp
    | cons b rest => simp

/-- A binary message without a separator is incomplete. -/
lemma splitBinaryHandshake_none (invalid : Bytes → String) {bytes : Bytes} (h : 0x1e ∉ bytes) :
    splitBinaryHandshake invalid bytes =
      .error (.framing FramingError.incompleteMessage.toText) := by
  have hfind : bytes.findIdx? (· == 0x1e) = none := by
    rw [List.findIdx?_eq_none_iff]
    intro b hb
    simp only [beq_eq_false_iff_ne, ne_eq]
    rintro rfl
    exact h hb
  rw [splitBinaryHandshake, hfind]

/-! ## Texts and their bytes -/

/-- The same data as bytes. -/
def RemainingData.toBytes : RemainingData → RemainingData
  | .text s => .bytes (utf8 s)
  | .bytes b => .bytes b

/-- The same result with the remaining data as bytes. -/
def HandshakeResult.toBytes (result : HandshakeResult) : HandshakeResult :=
  { result with remaining := result.remaining.map RemainingData.toBytes }

/-- The bytes of a text are cut where the text is. -/
lemma CutsAtFirst.utf8 {text : String} {part rest : List Char}
    (h : CutsAtFirst TextMessageFormat.recordSeparator text.toList part rest) :
    CutsAtFirst 0x1e (Hub.utf8 text) (Hub.utf8 (String.ofList part))
      (Hub.utf8 (String.ofList rest)) := by
  obtain ⟨front, hfront, rfl, htext⟩ := h
  refine ⟨Hub.utf8 (String.ofList front), separator_notMem_utf8 hfront, ?_, ?_⟩
  · rw [utf8_separator]
    rfl
  · rw [← utf8_append, ← String.ofList_append, ← htext, String.ofList_toList]

/-- What is left of a text, as bytes. -/
lemma remainingText_toBytes (rest : List Char) :
    (remainingText rest).map RemainingData.toBytes =
      remainingBytes (utf8 (String.ofList rest)) := by
  cases rest with
  | nil => rfl
  | cons c rest =>
    have hne : utf8 (String.ofList (c :: rest)) ≠ [] := by
      rw [utf8_ofList, List.flatMap_cons]
      simp [String.utf8EncodeChar_ne_nil]
    rw [remainingText, if_neg (by simp), remainingBytes, if_neg hne]
    rfl

/-- Behind the split, the remaining data is passed on. -/
lemma parseMessageData_map (crates : HandshakeCrates) (messageData : String)
    (remaining : Option RemainingData) (f : RemainingData → RemainingData) :
    parseMessageData crates messageData (remaining.map f) =
      (parseMessageData crates messageData remaining).map fun result =>
        { result with remaining := result.remaining.map f } := by
  unfold parseMessageData
  cases TextMessageFormat.parse messageData with
  | error error => rfl
  | ok messages =>
    cases messages with
    | nil => rfl
    | cons responseJson messages =>
      dsimp only
      cases crates.fromJson responseJson with
      | error error => rfl
      | ok response => rfl

/-- A response is parsed alike from a text and from its bytes. -/
lemma parseResponse_utf8 (crates : HandshakeCrates) (text : String) :
    parseResponse crates (.binary (utf8 text)) =
      (parseResponse crates (.text text)).map fun result => result.map HandshakeResult.toBytes := by
  by_cases hsep : TextMessageFormat.recordSeparator ∈ text.toList
  · obtain ⟨part, rest, hcut⟩ := exists_cutsAtFirst hsep
    have hbinary := splitBinaryHandshake_eq crates.invalidUtf8 hcut.utf8
    rw [ofUtf8_utf8] at hbinary
    simp only [parseResponse, splitTextHandshake_eq hcut, hbinary, Option.map_some, Except.bind]
    rw [← remainingText_toBytes, parseMessageData_map]
    rfl
  · have hbytes : 0x1e ∉ utf8 text := by
      have hnone := separator_notMem_utf8 hsep
      rwa [String.ofList_toList] at hnone
    simp only [parseResponse, splitTextHandshake_none hsep, splitBinaryHandshake_none _ hbytes]
    rfl

/-- The handshake split loses nothing and does not depend on the kind of the message. A text with a
separator is split behind the first one. A binary message with a separator is split behind the first
one if the bytes up to it are a string, and refused otherwise. What is left is `None` exactly if
there is nothing. A response is parsed from a text and from its bytes with the same result, or with
the same error.

**Proof sketch.** The separator is found in the bytes of a text where it is found among its
characters, since its byte is no part of the encoding of another character. -/
theorem split_complete (crates : HandshakeCrates) :
    (∀ text : String, TextMessageFormat.recordSeparator ∈ text.toList →
      ∃ part rest, CutsAtFirst TextMessageFormat.recordSeparator text.toList part rest ∧
        splitTextHandshake text = some (.ok (String.ofList part, remainingText rest))) ∧
    (∀ bytes : Bytes, 0x1e ∈ bytes →
      ∃ part rest, CutsAtFirst 0x1e bytes part rest ∧
        (∀ messageData, ofUtf8 part = some messageData →
          splitBinaryHandshake crates.invalidUtf8 bytes =
            .ok (messageData, remainingBytes rest)) ∧
        (ofUtf8 part = none →
          splitBinaryHandshake crates.invalidUtf8 bytes =
            .error (.handshake (crates.invalidUtf8 part)))) ∧
    ∀ text : String,
      (parseResponse crates (.text text)).isSome = true ∧
        parseResponse crates (.binary (utf8 text)) =
          (parseResponse crates (.text text)).map fun result =>
            result.map HandshakeResult.toBytes := by
  refine ⟨?_, ?_, ?_⟩
  · intro text hsep
    obtain ⟨part, rest, hcut⟩ := exists_cutsAtFirst hsep
    exact ⟨part, rest, hcut, splitTextHandshake_eq hcut⟩
  · intro bytes hsep
    obtain ⟨part, rest, hcut⟩ := exists_cutsAtFirst hsep
    have hsplit := splitBinaryHandshake_eq crates.invalidUtf8 hcut
    refine ⟨part, rest, hcut, ?_, ?_⟩
    · intro messageData hpart
      rw [hsplit, hpart]
    · intro hpart
      rw [hsplit, hpart]
  · intro text
    refine ⟨?_, parseResponse_utf8 crates text⟩
    by_cases hsep : TextMessageFormat.recordSeparator ∈ text.toList
    · obtain ⟨part, rest, hcut⟩ := exists_cutsAtFirst hsep
      rw [parseResponse, splitTextHandshake_eq hcut]
      rfl
    · rw [parseResponse, splitTextHandshake_none hsep]
      rfl

/-- A byte that is no string in front of the separator: the message is refused, and nothing of it is
kept. -/
theorem splitBinaryHandshake_invalid :
    0x1e ∈ ([0xff, 0x1e, 0x61] : Bytes) ∧
      ¬ ∃ messageData remaining, splitBinaryHandshake (fun _ => "invalid utf-8 sequence")
        [0xff, 0x1e, 0x61] = .ok (messageData, remaining) := by
  refine ⟨by decide, ?_⟩
  rintro ⟨messageData, remaining, h⟩
  cases h

end Signalrr.Handshake
