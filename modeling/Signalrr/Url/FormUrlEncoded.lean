import Mathlib.Data.List.Basic

set_option relaxedAutoImplicit false
set_option autoImplicit false

/-!
# Form encoding

`application/x-www-form-urlencoded`, as the WHATWG URL standard has it, on bytes: pairs are
separated by `&`, a name and its value by the first `=`, and what is not a letter, a digit or one of
`*-._` is escaped.

## Main definitions

* `Signalrr.FormUrlEncoded.encode`, `decode` — escaping bytes and reading them back.
* `Signalrr.FormUrlEncoded.append`, `parse` — appending a pair to a text, and the pairs of a text.

## Main results

* `Signalrr.FormUrlEncoded.decode_encode` — bytes are read back as they are.
* `Signalrr.FormUrlEncoded.parse_append` — a pair that is appended is read back after those before
  it.
-/

namespace Signalrr.FormUrlEncoded

/-! ## Bytes -/

/-- A character that is not escaped. -/
def unescaped (c : Char) : Bool := c.isAlphanum || "*-._".toList.contains c

/-- The digit of a number below 16. -/
def hexDigit (n : ℕ) : Char := if n < 10 then Char.ofNat (48 + n) else Char.ofNat (55 + n)

/-- The number of a digit. -/
def hexValue (c : Char) : Option ℕ :=
  if c.isDigit then some (c.toNat - 48)
  else if 'A' ≤ c ∧ c ≤ 'F' then some (c.toNat - 55)
  else if 'a' ≤ c ∧ c ≤ 'f' then some (c.toNat - 87)
  else none

/-- A byte as it is, as a plus sign or as an escape. -/
def encodeByte (b : UInt8) : List Char :=
  if unescaped (Char.ofNat b.toNat) then [Char.ofNat b.toNat]
  else if b = 0x20 then ['+']
  else ['%', hexDigit (b.toNat / 16), hexDigit (b.toNat % 16)]

/-- `byte_serialize`. -/
def encode (bytes : List UInt8) : List Char := bytes.flatMap encodeByte

/-- The bytes of a text: plus signs are spaces, and escapes are decoded. -/
def decode : List Char → List UInt8
  | [] => []
  | c :: cs =>
    if c = '+' then 0x20 :: decode cs
    else if c = '%' then
      match cs with
      | high :: low :: rest =>
        match hexValue high, hexValue low with
        | some h, some l => UInt8.ofNat (16 * h + l) :: decode rest
        | _, _ => String.utf8EncodeChar c ++ decode (high :: low :: rest)
      | cs => String.utf8EncodeChar c ++ decode cs
    else String.utf8EncodeChar c ++ decode cs

/-- A character that is no plus sign and no percent sign stands for itself. -/
theorem decode_cons {c : Char} (hplus : c ≠ '+') (hpercent : c ≠ '%') (cs : List Char) :
    decode (c :: cs) = String.utf8EncodeChar c ++ decode cs := by
  rcases cs with _ | ⟨d, _ | ⟨e, cs⟩⟩ <;> simp [decode, hplus, hpercent]

/-- A plus sign stands for a space. -/
theorem decode_plus (cs : List Char) : decode ('+' :: cs) = 0x20 :: decode cs := by
  rcases cs with _ | ⟨d, _ | ⟨e, cs⟩⟩ <;> simp [decode]

/-- A digit below 16 is read back. -/
theorem hexValue_hexDigit : ∀ n < 16, hexValue (hexDigit n) = some n := by decide

/-- A letter or a digit is an ASCII character from `0` to `z`. -/
theorem bounds_of_isAlphanum {c : Char} (h : c.isAlphanum = true) :
    48 ≤ c.toNat ∧ c.toNat ≤ 122 := by
  have hranges : ('A'.val ≤ c.val ∧ c.val ≤ 'Z'.val ∨ 'a'.val ≤ c.val ∧ c.val ≤ 'z'.val) ∨
      '0'.val ≤ c.val ∧ c.val ≤ '9'.val := by
    simpa only [Bool.or_eq_true, Bool.and_eq_true, decide_eq_true_eq] using
      show ((decide ('A'.val ≤ c.val ∧ c.val ≤ 'Z'.val) ||
        decide ('a'.val ≤ c.val) && decide (c.val ≤ 'z'.val)) ||
        decide ('0'.val ≤ c.val) && decide (c.val ≤ '9'.val)) = true from h
  simp only [UInt32.le_iff_toNat_le] at hranges
  have hval : c.val.toNat = c.toNat := rfl
  have hvalues : 'A'.val.toNat = 65 ∧ 'Z'.val.toNat = 90 ∧ 'a'.val.toNat = 97 ∧
    'z'.val.toNat = 122 ∧ '0'.val.toNat = 48 ∧ '9'.val.toNat = 57 := by decide
  omega

/-- What is not escaped is an ASCII character, and no sign with a meaning. -/
theorem ascii_of_unescaped {c : Char} (h : unescaped c = true) :
    c.toNat < 128 ∧ c ≠ '+' ∧ c ≠ '%' := by
  have hcases : c.isAlphanum = true ∨ c ∈ ['*', '-', '.', '_'] := by
    simpa [unescaped] using h
  rcases hcases with halphanum | hmem
  · obtain ⟨hlow, hhigh⟩ := bounds_of_isAlphanum halphanum
    refine ⟨by omega, ?_, ?_⟩
    · rintro rfl
      exact absurd hlow (by decide)
    · rintro rfl
      exact absurd hlow (by decide)
  · simp only [List.mem_cons, List.not_mem_nil, or_false] at hmem
    rcases hmem with rfl | rfl | rfl | rfl <;> decide

/-- What is not escaped is one byte, and no sign with a meaning. -/
theorem unescaped_spec {n : ℕ} (hn : n < 256) (h : unescaped (Char.ofNat n) = true) :
    Char.ofNat n ≠ '+' ∧ Char.ofNat n ≠ '%' ∧
      String.utf8EncodeChar (Char.ofNat n) = [UInt8.ofNat n] := by
  obtain ⟨hascii, hplus, hpercent⟩ := ascii_of_unescaped h
  have hvalid : n.isValidChar := .inl (by omega)
  have htoNat : (Char.ofNat n).val.toNat = n := by
    rw [Char.ofNat, dif_pos hvalid]
    rfl
  have hbyte : (Char.ofNat n).val.toNat ≤ 0x7f := Nat.le_of_lt_succ hascii
  refine ⟨hplus, hpercent, ?_⟩
  rw [String.utf8EncodeChar, if_pos hbyte, htoNat]

/-- A byte is read back as it is. -/
theorem decode_encodeByte (b : UInt8) (rest : List Char) :
    decode (encodeByte b ++ rest) = b :: decode rest := by
  have hb : b.toNat < 256 := b.toNat_lt
  unfold encodeByte
  split_ifs with hunescaped hspace
  · obtain ⟨hplus, hpercent, hutf8⟩ := unescaped_spec hb hunescaped
    rw [List.singleton_append, decode_cons hplus hpercent, hutf8, UInt8.ofNat_toNat]
    rfl
  · rw [hspace, List.singleton_append, decode_plus]
  · have hhigh := hexValue_hexDigit (b.toNat / 16) (by omega)
    have hlow := hexValue_hexDigit (b.toNat % 16) (by omega)
    have hdivMod : 16 * (b.toNat / 16) + b.toNat % 16 = b.toNat := Nat.div_add_mod _ _
    simp only [List.cons_append, List.nil_append, decode, hhigh, hlow, hdivMod]
    simp

/-- Bytes are read back as they are. -/
theorem decode_encode (bytes : List UInt8) : decode (encode bytes) = bytes := by
  induction bytes with
  | nil => rfl
  | cons b bytes ih => rw [encode, List.flatMap_cons, decode_encodeByte, ← encode, ih]

/-- A character of an encoded text. -/
def encodedChar (c : Char) : Prop := unescaped c = true ∨ c = '+' ∨ c = '%'

/-- What is encoded has characters that are not escaped, plus signs and escapes. -/
theorem encodedChar_of_mem {bytes : List UInt8} {c : Char} (h : c ∈ encode bytes) :
    encodedChar c := by
  have hdigit : ∀ n < 16, unescaped (hexDigit n) = true := by decide
  obtain ⟨b, -, hc⟩ := List.mem_flatMap.mp h
  have hb : b.toNat < 256 := b.toNat_lt
  unfold encodeByte at hc
  split_ifs at hc with hunescaped hspace
  · obtain rfl := List.mem_singleton.mp hc
    exact .inl hunescaped
  · exact .inr (.inl (List.mem_singleton.mp hc))
  · simp only [List.mem_cons, List.not_mem_nil, or_false] at hc
    rcases hc with rfl | rfl | rfl
    · exact .inr (.inr rfl)
    · exact .inl (hdigit _ (by omega))
    · exact .inl (hdigit _ (by omega))

/-- The signs between pairs, names and values are not in what is encoded. -/
theorem notMem_encode {c : Char} (hc : c = '&' ∨ c = '=') (bytes : List UInt8) :
    c ∉ encode bytes := by
  intro hmem
  have h := encodedChar_of_mem hmem
  rcases hc with rfl | rfl <;> revert h <;> unfold encodedChar <;> decide

/-! ## Pairs -/

/-- The name before the first `=`, and the value after it. -/
def decodePair (part : List Char) : List UInt8 × List UInt8 :=
  (decode (part.takeWhile (· != '=')), decode ((part.dropWhile (· != '=')).drop 1))

/-- `form_urlencoded::parse`: the pairs of a text, where empty parts are none. -/
def parse (text : List Char) : List (List UInt8 × List UInt8) :=
  ((text.splitOn '&').filter fun part => !part.isEmpty).map decodePair

/-- `append_pair`: a pair after those of a text. -/
def append (text : List Char) (name value : List UInt8) : List Char :=
  (if text = [] then [] else text ++ ['&']) ++ (encode name ++ '=' :: encode value)

/-- A pair is read back. -/
theorem decodePair_encode (name value : List UInt8) :
    decodePair (encode name ++ '=' :: encode value) = (name, value) := by
  have hname : ∀ c ∈ encode name, (c != '=') = true := by
    intro c hc
    rw [bne_iff_ne]
    rintro rfl
    exact notMem_encode (.inr rfl) name hc
  unfold decodePair
  rw [List.takeWhile_append_of_pos hname, List.dropWhile_append_of_pos hname]
  simp [decode_encode]

/-- The pair of a text without `&` is read back. -/
theorem parse_singleton (name value : List UInt8) :
    parse (encode name ++ '=' :: encode value) = [(name, value)] := by
  have hnotMem : '&' ∉ encode name ++ '=' :: encode value := by
    simp [notMem_encode (.inl rfl)]
  simp [parse, List.splitOn_eq_singleton hnotMem, decodePair_encode]

/-- A pair that is appended is read back after those before it. -/
theorem parse_append (text : List Char) (name value : List UInt8) :
    parse (append text name value) = parse text ++ [(name, value)] := by
  unfold append
  split_ifs with hempty
  · rw [hempty, List.nil_append, parse_singleton]
    rfl
  · rw [List.append_assoc, List.singleton_append, ← parse_singleton]
    simp only [parse, List.splitOn_append_cons_self, List.filter_append, List.map_append]

/-- What is appended has the characters of the text, of what is encoded, and the signs between. -/
theorem mem_append {text : List Char} {name value : List UInt8} {c : Char}
    (h : c ∈ append text name value) : c ∈ text ∨ encodedChar c ∨ c = '&' ∨ c = '=' := by
  unfold append at h
  rw [List.mem_append, List.mem_append, List.mem_cons] at h
  rcases h with hbefore | hname | hsign | hvalue
  · split_ifs at hbefore
    · cases hbefore
    · rw [List.mem_append, List.mem_singleton] at hbefore
      exact hbefore.imp_right fun hsign => .inr (.inl hsign)
  · exact .inr (.inl (encodedChar_of_mem hname))
  · exact .inr (.inr (.inr hsign))
  · exact .inr (.inl (encodedChar_of_mem hvalue))

end Signalrr.FormUrlEncoded
