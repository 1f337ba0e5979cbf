import Signalrr.MessagePack.Format

set_option relaxedAutoImplicit false
set_option autoImplicit false

/-!
# Writing MessagePack

A writer that takes the shortest form of every value.

## Main definitions

* `MessagePack.Value.write` — the shortest encoding of a value. Lengths are cut to 32 bits.

## Main results

* `MessagePack.encodes_write` — what is written is an encoding, below 4 GB.
-/

namespace MessagePack

/-! ## Lengths -/

/-- The lowest `k` bytes of a number, highest first. -/
def beBytes : ℕ → ℕ → List UInt8
  | 0, _ => []
  | k + 1, n => beBytes k (n / 256) ++ [UInt8.ofNat n]

@[simp] lemma length_beBytes (k n : ℕ) : (beBytes k n).length = k := by
  induction k generalizing n with
  | zero => rfl
  | succ k ih => rw [beBytes, List.length_append, ih, List.length_singleton]

/-- The number that bytes stand for is written as these bytes. -/
lemma be_beBytes {k n : ℕ} (h : n < 256 ^ k) : be (beBytes k n) = n := by
  induction k generalizing n with
  | zero =>
    rw [pow_zero] at h
    rw [beBytes, be_nil]
    omega
  | succ k ih =>
    have hdiv : n / 256 < 256 ^ k := by
      rw [pow_succ] at h
      omega
    have hlow : (UInt8.ofNat n).toNat = n % 256 := UInt8.toNat_ofNat'
    rw [beBytes, be_concat, ih hdiv, hlow]
    omega

/-! ## Forms -/

/-- The header of a string. -/
def stringHeader (n : ℕ) : List UInt8 :=
  if n < 32 then [UInt8.ofNat (0xa0 + n)]
  else if n < 2 ^ 8 then 0xd9 :: beBytes 1 n
  else if n < 2 ^ 16 then 0xda :: beBytes 2 n
  else 0xdb :: beBytes 4 n

/-- The header of a byte string. -/
def binaryHeader (n : ℕ) : List UInt8 :=
  if n < 2 ^ 8 then 0xc4 :: beBytes 1 n
  else if n < 2 ^ 16 then 0xc5 :: beBytes 2 n
  else 0xc6 :: beBytes 4 n

/-- The header of an extension, before its tag. -/
def extHeader (n : ℕ) : List UInt8 :=
  if n = 1 then [0xd4]
  else if n = 2 then [0xd5]
  else if n = 4 then [0xd6]
  else if n = 8 then [0xd7]
  else if n = 16 then [0xd8]
  else if n < 2 ^ 8 then 0xc7 :: beBytes 1 n
  else if n < 2 ^ 16 then 0xc8 :: beBytes 2 n
  else 0xc9 :: beBytes 4 n

/-- The header of an array. -/
def arrayHeader (n : ℕ) : List UInt8 :=
  if n < 16 then [UInt8.ofNat (0x90 + n)]
  else if n < 2 ^ 16 then 0xdc :: beBytes 2 n
  else 0xdd :: beBytes 4 n

/-- The header of a map. -/
def mapHeader (n : ℕ) : List UInt8 :=
  if n < 16 then [UInt8.ofNat (0x80 + n)]
  else if n < 2 ^ 16 then 0xde :: beBytes 2 n
  else 0xdf :: beBytes 4 n

/-- The shortest form of an unsigned integer. -/
def writeUnsigned (n : ℕ) : List UInt8 :=
  if n < 2 ^ 7 then [UInt8.ofNat n]
  else if n < 2 ^ 8 then 0xcc :: beBytes 1 n
  else if n < 2 ^ 16 then 0xcd :: beBytes 2 n
  else if n < 2 ^ 32 then 0xce :: beBytes 4 n
  else 0xcf :: beBytes 8 n

/-- The shortest form of a negative integer. -/
def writeNegative (n : ℤ) : List UInt8 :=
  if -2 ^ 5 ≤ n then [UInt8.ofNat (n + 2 ^ 8).toNat]
  else if -2 ^ 7 ≤ n then 0xd0 :: beBytes 1 (n + 2 ^ 8).toNat
  else if -2 ^ 15 ≤ n then 0xd1 :: beBytes 2 (n + 2 ^ 16).toNat
  else if -2 ^ 31 ≤ n then 0xd2 :: beBytes 4 (n + 2 ^ 32).toNat
  else 0xd3 :: beBytes 8 (n + 2 ^ 64).toNat

mutual

/-- The shortest encoding of a value. -/
def Value.write : Value → List UInt8
  | .nil => [0xc0]
  | .boolean b => [if b then 0xc3 else 0xc2]
  | .integer n => if 0 ≤ n.val then writeUnsigned n.val.toNat else writeNegative n.val
  | .f32 bits => 0xca :: beBytes 4 bits.toNat
  | .f64 bits => 0xcb :: beBytes 8 bits.toNat
  | .string bytes => stringHeader bytes.length ++ bytes
  | .binary bytes => binaryHeader bytes.length ++ bytes
  | .array items => arrayHeader items.length ++ writeItems items
  | .map entries => mapHeader entries.length ++ writeEntries entries
  | .ext tag bytes => extHeader bytes.length ++ tag.toUInt8 :: bytes

/-- The encodings of values, one behind the other. -/
def writeItems : List Value → List UInt8
  | [] => []
  | v :: vs => v.write ++ writeItems vs

/-- The encodings of keys and values in turn. -/
def writeEntries : List (Value × Value) → List UInt8
  | [] => []
  | (k, v) :: entries => k.write ++ (v.write ++ writeEntries entries)

end

/-! ## What is written is an encoding -/

/-- The first bytes of a scalar with `n` content bytes. -/
def ScalarHeader (value : List UInt8 → Value) (n : ℕ) (p : List UInt8) : Prop :=
  ∃ b width extra len, (Marker.ofByte b).layout = .scalar width extra value ∧
    len.length = width ∧ n = be len + extra ∧ p = b :: len

/-- A scalar is its header and its content. -/
lemma Encodes.of_scalarHeader {value : List UInt8 → Value} {n : ℕ} {p content : List UInt8}
    (hp : ScalarHeader value n p) (h : content.length = n) :
    Encodes [value content] (p ++ content) := by
  obtain ⟨b, width, extra, len, hb, hlen, rfl, rfl⟩ := hp
  simpa using Encodes.scalar hb hlen h .nil

/-- A header with a length of `k` bytes. -/
lemma scalarHeader_sized {b : UInt8} {k extra n size : ℕ} {value : List UInt8 → Value}
    (hb : (Marker.ofByte b).layout = .scalar k extra value) (h : n < 256 ^ k)
    (hsize : size = n + extra) : ScalarHeader value size (b :: beBytes k n) :=
  ⟨b, k, extra, beBytes k n, hb, length_beBytes k n, by rw [be_beBytes h, hsize], rfl⟩

/-- A header of a fixed size. -/
lemma scalarHeader_fixed {b : UInt8} {extra : ℕ} {value : List UInt8 → Value}
    (hb : (Marker.ofByte b).layout = .scalar 0 extra value) :
    ScalarHeader value extra [b] :=
  ⟨b, 0, extra, [], hb, rfl, by rw [be_nil, Nat.zero_add], rfl⟩

/-- A scalar of one byte. -/
lemma encodes_single {b : UInt8} {v : Value}
    (hb : (Marker.ofByte b).layout = .scalar 0 0 fun _ => v) : Encodes [v] [b] :=
  Encodes.of_scalarHeader (scalarHeader_fixed hb) List.length_nil

/-- A container header with a length of `k` bytes. -/
lemma header_sized {b : UInt8} {k n : ℕ} {kind : Kind}
    (hb : (Marker.ofByte b).layout = .container k 0 kind) (h : n < 256 ^ k) :
    Header kind n (b :: beBytes k n) :=
  ⟨b, k, 0, beBytes k n, hb, length_beBytes k n, by rw [be_beBytes h, Nat.add_zero], rfl⟩

/-- A container header of a fixed size. -/
lemma header_fixed {b : UInt8} {n : ℕ} {kind : Kind}
    (hb : (Marker.ofByte b).layout = .container 0 n kind) : Header kind n [b] :=
  ⟨b, 0, n, [], hb, rfl, by rw [be_nil, Nat.zero_add], rfl⟩

/-- The bytes of the fixed forms. -/
lemma layout_fixStr {n : ℕ} (h : n < 32) :
    (Marker.ofByte (UInt8.ofNat (0xa0 + n))).layout = .scalar 0 n .string := by
  have hbyte : ∀ m : Fin 32, Marker.ofByte (UInt8.ofNat (0xa0 + m)) = .fixStr (UInt8.ofNat m) := by
    decide
  have hn : (UInt8.ofNat n).toNat = n := by
    rw [UInt8.toNat_ofNat']
    omega
  rw [hbyte ⟨n, h⟩, Marker.layout, hn]

lemma layout_fixArray {n : ℕ} (h : n < 16) :
    (Marker.ofByte (UInt8.ofNat (0x90 + n))).layout = .container 0 n .array := by
  have hbyte : ∀ m : Fin 16,
      Marker.ofByte (UInt8.ofNat (0x90 + m)) = .fixArray (UInt8.ofNat m) := by
    decide
  have hn : (UInt8.ofNat n).toNat = n := by
    rw [UInt8.toNat_ofNat']
    omega
  rw [hbyte ⟨n, h⟩, Marker.layout, hn]

lemma layout_fixMap {n : ℕ} (h : n < 16) :
    (Marker.ofByte (UInt8.ofNat (0x80 + n))).layout = .container 0 n .map := by
  have hbyte : ∀ m : Fin 16, Marker.ofByte (UInt8.ofNat (0x80 + m)) = .fixMap (UInt8.ofNat m) := by
    decide
  have hn : (UInt8.ofNat n).toNat = n := by
    rw [UInt8.toNat_ofNat']
    omega
  rw [hbyte ⟨n, h⟩, Marker.layout, hn]

/-- The header of a string. -/
lemma scalarHeader_string {n : ℕ} (h : n < 2 ^ 32) :
    ScalarHeader .string n (stringHeader n) := by
  unfold stringHeader
  split
  · exact scalarHeader_fixed (layout_fixStr ‹_›)
  split
  · exact scalarHeader_sized rfl (by omega) rfl
  split
  · exact scalarHeader_sized rfl (by omega) rfl
  · exact scalarHeader_sized rfl (by omega) rfl

/-- The header of a byte string. -/
lemma scalarHeader_binary {n : ℕ} (h : n < 2 ^ 32) :
    ScalarHeader .binary n (binaryHeader n) := by
  unfold binaryHeader
  split
  · exact scalarHeader_sized rfl (by omega) rfl
  split
  · exact scalarHeader_sized rfl (by omega) rfl
  · exact scalarHeader_sized rfl (by omega) rfl

/-- The header of an extension: the tag is one more byte of content. -/
lemma scalarHeader_ext {n : ℕ} (h : n < 2 ^ 32) :
    ScalarHeader extValue (n + 1) (extHeader n) := by
  unfold extHeader
  split
  · subst n
    exact scalarHeader_fixed rfl
  split
  · subst n
    exact scalarHeader_fixed rfl
  split
  · subst n
    exact scalarHeader_fixed rfl
  split
  · subst n
    exact scalarHeader_fixed rfl
  split
  · subst n
    exact scalarHeader_fixed rfl
  split
  · exact scalarHeader_sized rfl (by omega) rfl
  split
  · exact scalarHeader_sized rfl (by omega) rfl
  · exact scalarHeader_sized rfl (by omega) rfl

/-- The header of an array. -/
lemma header_array {n : ℕ} (h : n < 2 ^ 32) : Header .array n (arrayHeader n) := by
  unfold arrayHeader
  split
  · exact header_fixed (layout_fixArray ‹_›)
  split
  · exact header_sized rfl (by omega)
  · exact header_sized rfl (by omega)

/-- The header of a map. -/
lemma header_map {n : ℕ} (h : n < 2 ^ 32) : Header .map n (mapHeader n) := by
  unfold mapHeader
  split
  · exact header_fixed (layout_fixMap ‹_›)
  split
  · exact header_sized rfl (by omega)
  · exact header_sized rfl (by omega)

/-- An integer that is not negative is the unsigned one of its number. -/
lemma Integer.unsigned_toNat {n : Integer} (h : 0 ≤ n.val) : Integer.unsigned n.val.toNat = n := by
  have hupper := n.upper
  refine Integer.ext ?_
  change ((n.val.toNat % 2 ^ 64 : ℕ) : ℤ) = n.val
  omega

/-- A negative integer of `bits` bits is the signed one of itself and of its two's complement. -/
lemma Integer.signed_val {n : Integer} {bits : ℕ} (hbits : bits ≤ 64) (hneg : n.val < 0)
    (hlow : -2 ^ bits ≤ 2 * n.val) :
    Integer.signed bits hbits n.val = n ∧ Integer.signed bits hbits (n.val + 2 ^ bits) = n := by
  have hcast : ((2 ^ bits : ℕ) : ℤ) = 2 ^ bits := by norm_cast
  have hval : n.val.bmod (2 ^ bits) = n.val := Int.bmod_eq_of_le (by omega) (by omega)
  refine ⟨Integer.ext hval, Integer.ext ?_⟩
  change (n.val + 2 ^ bits).bmod (2 ^ bits) = n.val
  rw [← hcast, Int.add_bmod_right, hval]

/-- An unsigned form with `k` content bytes. -/
lemma encodes_unsigned {b : UInt8} {k m : ℕ}
    (hb : (Marker.ofByte b).layout = .scalar 0 k unsignedValue) (h : m < 256 ^ k) :
    Encodes [.integer (.unsigned m)] (b :: beBytes k m) := by
  have hform := Encodes.of_scalarHeader (scalarHeader_fixed hb) (length_beBytes k m)
  rwa [unsignedValue, be_beBytes h] at hform

/-- A signed form with `k` content bytes. -/
lemma encodes_signed {b : UInt8} {k bits : ℕ} {hbits : bits ≤ 64} {n : Integer}
    (hb : (Marker.ofByte b).layout = .scalar 0 k (signedValue bits hbits)) (hneg : n.val < 0)
    (hlow : -2 ^ bits ≤ 2 * n.val) (hwidth : 2 ^ bits = 256 ^ k) :
    Encodes [.integer n] (b :: beBytes k (n.val + 2 ^ bits).toNat) := by
  have hcast : ((2 ^ bits : ℕ) : ℤ) = 2 ^ bits := by norm_cast
  have hfit : (n.val + 2 ^ bits).toNat < 256 ^ k := by omega
  have hform := Encodes.of_scalarHeader (scalarHeader_fixed hb)
    (length_beBytes k (n.val + 2 ^ bits).toNat)
  rwa [signedValue, be_beBytes hfit, Int.toNat_of_nonneg (by omega),
    (Integer.signed_val hbits hneg hlow).2] at hform

/-- The shortest form of an unsigned integer. -/
lemma encodes_writeUnsigned {m : ℕ} (h : m < 2 ^ 64) :
    Encodes [.integer (.unsigned m)] (writeUnsigned m) := by
  unfold writeUnsigned
  split
  · have hbyte : ∀ k : Fin 128, Marker.ofByte (UInt8.ofNat k) = .fixPos (UInt8.ofNat k) := by
      decide
    have hm : (UInt8.ofNat m).toNat = m := by
      rw [UInt8.toNat_ofNat']
      omega
    have hb : (Marker.ofByte (UInt8.ofNat m)).layout =
        .scalar 0 0 fun _ => .integer (.unsigned m) := by
      rw [hbyte ⟨m, ‹_›⟩, Marker.layout, hm]
    exact encodes_single hb
  split
  · exact encodes_unsigned rfl (by omega)
  split
  · exact encodes_unsigned rfl (by omega)
  split
  · exact encodes_unsigned rfl (by omega)
  · exact encodes_unsigned rfl (by omega)

/-- The shortest form of a negative integer. -/
lemma encodes_writeNegative {n : Integer} (h : n.val < 0) :
    Encodes [.integer n] (writeNegative n.val) := by
  have hlower := n.lower
  unfold writeNegative
  split
  · have hbyte : ∀ k : Fin 32, let b := UInt8.ofNat (224 + k)
        Marker.ofByte b = .fixNeg b.toInt8 ∧ b.toInt8.toInt = (k : ℕ) - 32 := by
      decide
    obtain ⟨k, hk⟩ : ∃ k : ℕ, (k : ℤ) = n.val + 32 := ⟨_, Int.toNat_of_nonneg (by omega)⟩
    obtain ⟨hmarker, hint⟩ := hbyte ⟨k, by omega⟩
    have hnat : (n.val + 2 ^ 8).toNat = 224 + k := by omega
    have hint' : (UInt8.ofNat (224 + k)).toInt8.toInt = n.val := hint.trans (by simp; omega)
    have hb : (Marker.ofByte (UInt8.ofNat (224 + k))).layout = .scalar 0 0 fun _ => .integer n := by
      rw [hmarker, Marker.layout, hint', (Integer.signed_val _ h (by omega)).1]
    rw [hnat]
    exact encodes_single hb
  split
  · exact encodes_signed rfl h (by omega) rfl
  split
  · exact encodes_signed rfl h (by omega) rfl
  split
  · exact encodes_signed rfl h (by omega) rfl
  · exact encodes_signed rfl h (by omega) rfl

mutual

/-- What is written is an encoding, below 4 GB.

**Proof sketch.** Induction on the value. A container has no more entries than its bytes, so its
length is not cut. -/
theorem encodes_write (v : Value) (h : v.write.length < 2 ^ 32) : Encodes [v] v.write := by
  cases v with
  | nil =>
    rw [Value.write]
    exact encodes_single rfl
  | boolean b =>
    rw [Value.write]
    cases b
    · exact encodes_single rfl
    · exact encodes_single rfl
  | integer n =>
    rw [Value.write]
    have hupper := n.upper
    split
    · have hform := encodes_writeUnsigned (show n.val.toNat < 2 ^ 64 by omega)
      rwa [Integer.unsigned_toNat ‹_›] at hform
    · exact encodes_writeNegative (by omega)
  | f32 bits =>
    have hform := Encodes.of_scalarHeader (scalarHeader_fixed
      (show (Marker.ofByte 0xca).layout = _ from rfl)) (length_beBytes 4 bits.toNat)
    rwa [be_beBytes bits.toNat_lt, UInt32.ofNat_toNat] at hform
  | f64 bits =>
    have hform := Encodes.of_scalarHeader (scalarHeader_fixed
      (show (Marker.ofByte 0xcb).layout = _ from rfl)) (length_beBytes 8 bits.toNat)
    rwa [be_beBytes bits.toNat_lt, UInt64.ofNat_toNat] at hform
  | string bytes =>
    rw [Value.write, List.length_append] at h
    exact Encodes.of_scalarHeader (scalarHeader_string (by omega)) rfl
  | binary bytes =>
    rw [Value.write, List.length_append] at h
    exact Encodes.of_scalarHeader (scalarHeader_binary (by omega)) rfl
  | ext tag bytes =>
    rw [Value.write, List.length_append, List.length_cons] at h
    have hheader := scalarHeader_ext (show bytes.length < 2 ^ 32 by omega)
    have hcontent : (tag.toUInt8 :: bytes).length = bytes.length + 1 := rfl
    have hform := Encodes.of_scalarHeader hheader hcontent
    rwa [extValue] at hform
  | array items =>
    rw [Value.write, List.length_append] at h
    have hitems := encodes_writeItems items (by omega)
    have hcount := hitems.length_le
    exact Encodes.array (header_array (by omega)) hitems
  | map entries =>
    rw [Value.write, List.length_append] at h
    have hentries := encodes_writeEntries entries (by omega)
    have hcount := hentries.length_le
    rw [length_flatten] at hcount
    have hform := Encodes.of_header (header_map (show entries.length < 2 ^ 32 by omega))
      (length_flatten entries) hentries
    rwa [Kind.value, pairUp_flatten] at hform

/-- The items of an array, one behind the other. -/
lemma encodes_writeItems (vs : List Value) (h : (writeItems vs).length < 2 ^ 32) :
    Encodes vs (writeItems vs) := by
  cases vs with
  | nil => exact .nil
  | cons v vs =>
    rw [writeItems, List.length_append] at h
    exact (encodes_write v (by omega)).append (encodes_writeItems vs (by omega))

/-- The keys and values of a map in turn. -/
lemma encodes_writeEntries (entries : List (Value × Value))
    (h : (writeEntries entries).length < 2 ^ 32) :
    Encodes (flatten entries) (writeEntries entries) := by
  cases entries with
  | nil => exact .nil
  | cons entry entries =>
    obtain ⟨k, v⟩ := entry
    rw [writeEntries, List.length_append, List.length_append] at h
    have hv := (encodes_write v (by omega)).append (encodes_writeEntries entries (by omega))
    exact (encodes_write k (by omega)).append hv

end

end MessagePack
