import Mathlib.Data.List.Basic
import Mathlib.Data.List.Induction
import Mathlib.Data.Int.Notation
import Mathlib.Tactic.Ring

set_option relaxedAutoImplicit false
set_option autoImplicit false

/-!
# The MessagePack format

Values, the first byte of an encoding, and which byte strings encode which values.

## Main definitions

* `MessagePack.Value` — the values of the format; strings are byte strings.
* `MessagePack.Value.depth` — how deep a value is nested; scalars and empty containers are not.
* `MessagePack.Marker`, `MessagePack.Marker.ofByte` — the meaning of the first byte.
* `MessagePack.Layout`, `MessagePack.Marker.layout` — what follows a marker.
* `MessagePack.Encodes` — a byte string encodes a list of values.
* `MessagePack.Header` — the bytes before the entries of a container.

## Main results

* `MessagePack.Encodes.append`, `MessagePack.Encodes.cons_inv`, `MessagePack.Encodes.append_inv` —
  encodings of lists are joined and split.
* `MessagePack.Kind.depth_value_lt` — a container is nested one deeper than what it holds.

## Design

Every form of a value is a line of the table `Marker.layout`: a length of `width` bytes, then as
many content bytes (or items) as it says. Forms of a fixed size have a length of no bytes, and the
size as a constant behind it. A map is encoded as the list of its keys and values in turn.
-/

namespace MessagePack

/-! ## Values -/

/-- An integer of the format. -/
@[ext] structure Integer where
  val : ℤ
  lower : -2 ^ 63 ≤ val
  upper : val < 2 ^ 64
  deriving DecidableEq, Repr

namespace Integer

/-- An unsigned 64-bit integer. -/
def unsigned (n : ℕ) : Integer := ⟨(n % 2 ^ 64 : ℕ), by omega, by omega⟩

/-- The integer a number stands for in two's complement with `2 ^ bits` values. -/
def signed (bits : ℕ) (hbits : bits ≤ 64) (n : ℤ) : Integer :=
  ⟨n.bmod (2 ^ bits), by
    have hle := Int.le_bmod (x := n) (Nat.two_pow_pos bits)
    have hpow : 2 ^ bits ≤ 2 ^ 64 := Nat.pow_le_pow_right (by decide) hbits
    omega, by
    have hlt := Int.bmod_lt (x := n) (Nat.two_pow_pos bits)
    have hpow : 2 ^ bits ≤ 2 ^ 64 := Nat.pow_le_pow_right (by decide) hbits
    omega⟩

end Integer

/-- A value of the format. Floating-point numbers are kept as their bits. -/
inductive Value where
  | nil
  | boolean (b : Bool)
  | integer (n : Integer)
  | f32 (bits : UInt32)
  | f64 (bits : UInt64)
  | string (bytes : List UInt8)
  | binary (bytes : List UInt8)
  | array (items : List Value)
  | map (entries : List (Value × Value))
  | ext (tag : Int8) (bytes : List UInt8)
  deriving Repr

mutual

/-- How deep a value is nested: scalars and empty containers not at all. -/
def Value.depth : Value → ℕ
  | .array items => depthItems items
  | .map entries => depthEntries entries
  | _ => 0

/-- One more than the depth of the deepest item. -/
def depthItems : List Value → ℕ
  | [] => 0
  | v :: vs => max (v.depth + 1) (depthItems vs)

/-- One more than the depth of the deepest key or value. -/
def depthEntries : List (Value × Value) → ℕ
  | [] => 0
  | (k, v) :: entries => max (max (k.depth + 1) (v.depth + 1)) (depthEntries entries)

end

/-- Every item is nested less deep than `d` exactly if the bound of the items is at most `d`. -/
lemma depthItems_le {d : ℕ} {vs : List Value} : depthItems vs ≤ d ↔ ∀ v ∈ vs, v.depth < d := by
  induction vs with
  | nil => simp [depthItems]
  | cons v vs ih =>
    have hdepth : v.depth + 1 ≤ d ↔ v.depth < d := Nat.succ_le_iff
    simp only [depthItems, max_le_iff, ih, hdepth, List.forall_mem_cons]

/-! ## Markers -/

/-- The meaning of the first byte of an encoding. -/
inductive Marker where
  | fixPos (n : UInt8)
  | fixNeg (n : Int8)
  | fixMap (len : UInt8)
  | fixArray (len : UInt8)
  | fixStr (len : UInt8)
  | null
  | reserved
  | false
  | true
  | bin8
  | bin16
  | bin32
  | ext8
  | ext16
  | ext32
  | f32
  | f64
  | u8
  | u16
  | u32
  | u64
  | i8
  | i16
  | i32
  | i64
  | fixExt1
  | fixExt2
  | fixExt4
  | fixExt8
  | fixExt16
  | str8
  | str16
  | str32
  | array16
  | array32
  | map16
  | map32
  deriving DecidableEq, Repr

/-- The marker a byte stands for. -/
def Marker.ofByte (b : UInt8) : Marker :=
  if b < 0x80 then .fixPos b
  else if b < 0x90 then .fixMap (b &&& 0x0f)
  else if b < 0xa0 then .fixArray (b &&& 0x0f)
  else if b < 0xc0 then .fixStr (b &&& 0x1f)
  else if 0xe0 ≤ b then .fixNeg b.toInt8
  else
    match b.toNat with
    | 0xc0 => .null
    | 0xc2 => .false
    | 0xc3 => .true
    | 0xc4 => .bin8
    | 0xc5 => .bin16
    | 0xc6 => .bin32
    | 0xc7 => .ext8
    | 0xc8 => .ext16
    | 0xc9 => .ext32
    | 0xca => .f32
    | 0xcb => .f64
    | 0xcc => .u8
    | 0xcd => .u16
    | 0xce => .u32
    | 0xcf => .u64
    | 0xd0 => .i8
    | 0xd1 => .i16
    | 0xd2 => .i32
    | 0xd3 => .i64
    | 0xd4 => .fixExt1
    | 0xd5 => .fixExt2
    | 0xd6 => .fixExt4
    | 0xd7 => .fixExt8
    | 0xd8 => .fixExt16
    | 0xd9 => .str8
    | 0xda => .str16
    | 0xdb => .str32
    | 0xdc => .array16
    | 0xdd => .array32
    | 0xde => .map16
    | 0xdf => .map32
    | _ => .reserved

/-- The number that bytes stand for, highest first. -/
def be (bytes : List UInt8) : ℕ := bytes.foldl (fun n b => 256 * n + b.toNat) 0

@[simp] lemma be_nil : be [] = 0 := rfl

/-- The last byte is the lowest one. -/
lemma be_concat (bytes : List UInt8) (b : UInt8) :
    be (bytes ++ [b]) = 256 * be bytes + b.toNat := by
  rw [be, List.foldl_append]
  rfl

/-- How large a number of `k` bytes is. -/
lemma be_lt (bytes : List UInt8) : be bytes < 256 ^ bytes.length := by
  induction bytes using List.reverseRecOn with
  | nil => simp
  | append_singleton bytes b ih =>
    have hb : b.toNat < 256 := b.toNat_lt
    rw [be_concat, List.length_append, List.length_singleton, pow_succ]
    omega

/-! ## Containers -/

section Pairs

variable {α : Type}

/-- The elements of a list two by two. -/
def pairUp : List α → List (α × α)
  | a :: b :: xs => (a, b) :: pairUp xs
  | _ => []

/-- The elements of pairs in turn. -/
def flatten (ps : List (α × α)) : List α := ps.flatMap fun p => [p.1, p.2]

@[simp] lemma pairUp_flatten (ps : List (α × α)) : pairUp (flatten ps) = ps := by
  induction ps with
  | nil => rfl
  | cons p ps ih => simpa [flatten, pairUp] using ih

@[simp] lemma length_flatten (ps : List (α × α)) : (flatten ps).length = 2 * ps.length := by
  induction ps with
  | nil => rfl
  | cons p ps ih =>
    rw [flatten] at ih
    simp [flatten, ih]
    omega

/-- A list of even length is a list of pairs. -/
lemma exists_flatten {xs : List α} {n : ℕ} (h : xs.length = 2 * n) :
    ∃ ps, xs = flatten ps ∧ ps.length = n := by
  induction n generalizing xs with
  | zero => exact ⟨[], List.length_eq_zero_iff.mp h, rfl⟩
  | succ n ih =>
    rcases xs with _ | ⟨a, _ | ⟨b, xs⟩⟩
    · simp at h
    · simp at h
      omega
    · have hlen : xs.length = 2 * n := by
        rw [List.length_cons, List.length_cons] at h
        omega
      obtain ⟨ps, rfl, rfl⟩ := ih hlen
      exact ⟨(a, b) :: ps, rfl, rfl⟩

end Pairs

/-- The two kinds of containers. -/
inductive Kind where
  | array
  | map
  deriving DecidableEq, Repr

namespace Kind

/-- How many values make up one entry. -/
def arity : Kind → ℕ
  | array => 1
  | map => 2

/-- The container with the given values in it. -/
def value : Kind → List Value → Value
  | array, items => .array items
  | map, items => .map (pairUp items)

end Kind

/-- The bound of keys and values two by two is the bound of them all. -/
lemma depthEntries_eq (entries : List (Value × Value)) :
    depthEntries entries = depthItems (flatten entries) := by
  induction entries with
  | nil => rfl
  | cons entry entries ih =>
    obtain ⟨k, v⟩ := entry
    rw [flatten] at ih
    simp only [depthEntries, flatten, List.flatMap_cons, List.cons_append, List.nil_append,
      depthItems, ih, Nat.max_assoc]

/-- A container is nested one deeper than what it holds. -/
lemma Kind.depth_value_lt {kind : Kind} {items : List Value} {n d : ℕ}
    (h : items.length = kind.arity * n) :
    (kind.value items).depth < d + 1 ↔ ∀ v ∈ items, v.depth < d := by
  rw [Nat.lt_succ_iff]
  cases kind with
  | array => rw [Kind.value, Value.depth, depthItems_le]
  | map =>
    obtain ⟨entries, rfl, -⟩ := exists_flatten h
    rw [Kind.value, pairUp_flatten, Value.depth, depthEntries_eq, depthItems_le]

/-! ## Encodings -/

/-- What follows a marker: a length of `width` bytes, then as many content bytes as it says and
`extra` more, which stand for a value; or such a length and as many entries of a container as it
says and `base` more; or nothing at all is allowed. -/
inductive Layout where
  | scalar (width extra : ℕ) (value : List UInt8 → Value)
  | container (width base : ℕ) (kind : Kind)
  | reserved

/-- An unsigned integer as content. -/
def unsignedValue (content : List UInt8) : Value := .integer (.unsigned (be content))

/-- A signed integer of `bits` bits as content. -/
def signedValue (bits : ℕ) (hbits : bits ≤ 64) (content : List UInt8) : Value :=
  .integer (.signed bits hbits (be content))

/-- An extension as content: its tag, then its bytes. -/
def extValue : List UInt8 → Value
  | [] => .ext 0 []
  | tag :: bytes => .ext tag.toInt8 bytes

/-- An extension is no container. -/
lemma depth_extValue (content : List UInt8) :
    (extValue content).depth = 0 ∧ ∀ items, extValue content ≠ .array items := by
  cases content <;> simp [extValue, Value.depth]

/-- What follows a marker. -/
def Marker.layout : Marker → Layout
  | .fixPos n => .scalar 0 0 fun _ => .integer (.unsigned n.toNat)
  | .fixNeg n => .scalar 0 0 fun _ => .integer (.signed 8 (by decide) n.toInt)
  | .null => .scalar 0 0 fun _ => .nil
  | .false => .scalar 0 0 fun _ => .boolean Bool.false
  | .true => .scalar 0 0 fun _ => .boolean Bool.true
  | .u8 => .scalar 0 1 unsignedValue
  | .u16 => .scalar 0 2 unsignedValue
  | .u32 => .scalar 0 4 unsignedValue
  | .u64 => .scalar 0 8 unsignedValue
  | .i8 => .scalar 0 1 (signedValue 8 (by decide))
  | .i16 => .scalar 0 2 (signedValue 16 (by decide))
  | .i32 => .scalar 0 4 (signedValue 32 (by decide))
  | .i64 => .scalar 0 8 (signedValue 64 (by decide))
  | .f32 => .scalar 0 4 fun content => .f32 (UInt32.ofNat (be content))
  | .f64 => .scalar 0 8 fun content => .f64 (UInt64.ofNat (be content))
  | .fixStr len => .scalar 0 len.toNat .string
  | .str8 => .scalar 1 0 .string
  | .str16 => .scalar 2 0 .string
  | .str32 => .scalar 4 0 .string
  | .bin8 => .scalar 1 0 .binary
  | .bin16 => .scalar 2 0 .binary
  | .bin32 => .scalar 4 0 .binary
  | .fixExt1 => .scalar 0 2 extValue
  | .fixExt2 => .scalar 0 3 extValue
  | .fixExt4 => .scalar 0 5 extValue
  | .fixExt8 => .scalar 0 9 extValue
  | .fixExt16 => .scalar 0 17 extValue
  | .ext8 => .scalar 1 1 extValue
  | .ext16 => .scalar 2 1 extValue
  | .ext32 => .scalar 4 1 extValue
  | .fixArray len => .container 0 len.toNat .array
  | .array16 => .container 2 0 .array
  | .array32 => .container 4 0 .array
  | .fixMap len => .container 0 len.toNat .map
  | .map16 => .container 2 0 .map
  | .map32 => .container 4 0 .map
  | .reserved => .reserved

/-- A scalar is no container. -/
lemma Marker.depth_of_scalar {m : Marker} {width extra : ℕ} {value : List UInt8 → Value}
    (h : m.layout = .scalar width extra value) (content : List UInt8) :
    (value content).depth = 0 ∧ ∀ items, value content ≠ .array items := by
  cases m <;> simp only [layout, Layout.scalar.injEq, reduceCtorEq] at h <;>
    obtain ⟨-, -, rfl⟩ := h <;>
    first
    | exact depth_extValue content
    | simp [Value.depth, unsignedValue, signedValue]

/-- The lengths and the constants of the table are small. -/
lemma Marker.layout_bounds (m : Marker) :
    (∀ width extra value, m.layout = .scalar width extra value → width ≤ 4 ∧ extra < 256) ∧
      ∀ width base kind, m.layout = .container width base kind → width ≤ 4 ∧ base < 256 := by
  have hbyte (b : UInt8) : b.toNat < 256 := b.toNat_lt
  cases m <;> refine ⟨fun width n _ h => ?_, fun width n _ h => ?_⟩ <;>
    simp only [layout, Layout.scalar.injEq, Layout.container.injEq, reduceCtorEq] at h <;>
    obtain ⟨rfl, rfl, -⟩ := h <;>
    first
    | exact ⟨by decide, by decide⟩
    | exact ⟨by decide, hbyte _⟩

/-- The bytes encode the values, one behind the other. -/
inductive Encodes : List Value → List UInt8 → Prop where
  | nil : Encodes [] []
  | scalar {b : UInt8} {width extra : ℕ} {value : List UInt8 → Value} {len content : List UInt8}
      {vs : List Value} {rest : List UInt8}
      (hb : (Marker.ofByte b).layout = .scalar width extra value) (hlen : len.length = width)
      (hcontent : content.length = be len + extra) (h : Encodes vs rest) :
      Encodes (value content :: vs) (b :: len ++ content ++ rest)
  | container {b : UInt8} {width base : ℕ} {kind : Kind} {len : List UInt8} {items : List Value}
      {inner : List UInt8} {vs : List Value} {rest : List UInt8}
      (hb : (Marker.ofByte b).layout = .container width base kind) (hlen : len.length = width)
      (hcount : items.length = kind.arity * (be len + base)) (hitems : Encodes items inner)
      (h : Encodes vs rest) : Encodes (kind.value items :: vs) (b :: len ++ inner ++ rest)

/-- The first bytes of a container with `n` entries. -/
def Header (kind : Kind) (n : ℕ) (p : List UInt8) : Prop :=
  ∃ b width base len, (Marker.ofByte b).layout = .container width base kind ∧
    len.length = width ∧ n = be len + base ∧ p = b :: len

namespace Encodes

/-- Encodings are joined. -/
lemma append {vs ws : List Value} {e f : List UInt8} (hv : Encodes vs e) (hw : Encodes ws f) :
    Encodes (vs ++ ws) (e ++ f) := by
  induction hv with
  | nil => exact hw
  | scalar hb hlen hcontent _ ih =>
    rw [List.append_assoc, List.cons_append]
    exact .scalar hb hlen hcontent ih
  | container hb hlen hcount hitems _ _ ih =>
    rw [List.append_assoc, List.cons_append]
    exact .container hb hlen hcount hitems ih

/-- The encoding of the first value and the rest of an encoding. -/
lemma cons_inv {v : Value} {vs : List Value} {bytes : List UInt8} (h : Encodes (v :: vs) bytes) :
    ∃ e rest, bytes = e ++ rest ∧ Encodes [v] e ∧ Encodes vs rest := by
  cases h with
  | scalar hb hlen hcontent h =>
    refine ⟨_, _, rfl, ?_, h⟩
    simpa using Encodes.scalar hb hlen hcontent .nil
  | container hb hlen hcount hitems h =>
    refine ⟨_, _, rfl, ?_, h⟩
    simpa using Encodes.container hb hlen hcount hitems .nil

/-- Encodings are split. -/
lemma append_inv {vs ws : List Value} {bytes : List UInt8} (h : Encodes (vs ++ ws) bytes) :
    ∃ e f, bytes = e ++ f ∧ Encodes vs e ∧ Encodes ws f := by
  induction vs generalizing bytes with
  | nil => exact ⟨[], bytes, rfl, .nil, h⟩
  | cons v vs ih =>
    obtain ⟨e, rest, rfl, hv, hrest⟩ := h.cons_inv
    obtain ⟨e', f, rfl, hvs, hws⟩ := ih hrest
    exact ⟨e ++ e', f, by rw [List.append_assoc], hv.append hvs, hws⟩

/-- Every value takes at least one byte. -/
lemma length_le {vs : List Value} {bytes : List UInt8} (h : Encodes vs bytes) :
    vs.length ≤ bytes.length := by
  induction h with
  | nil => simp
  | scalar _ _ _ _ ih =>
    simp only [List.length_cons, List.length_append]
    omega
  | container _ _ _ _ _ _ ih =>
    simp only [List.length_cons, List.length_append]
    omega

/-- A container is its header and what is in it. -/
lemma of_header {kind : Kind} {n : ℕ} {items : List Value} {p inner : List UInt8}
    (hp : Header kind n p) (hcount : items.length = kind.arity * n) (h : Encodes items inner) :
    Encodes [kind.value items] (p ++ inner) := by
  obtain ⟨b, width, base, len, hb, hlen, rfl, rfl⟩ := hp
  simpa using Encodes.container hb hlen hcount h .nil

/-- An array is its header and its items. -/
lemma array {items : List Value} {p inner : List UInt8} (hp : Header .array items.length p)
    (h : Encodes items inner) : Encodes [.array items] (p ++ inner) :=
  of_header hp (Nat.one_mul _).symm h

/-- An encoded array is a header and encoded items. -/
lemma array_inv {items : List Value} {bytes : List UInt8} (h : Encodes [.array items] bytes) :
    ∃ p inner, bytes = p ++ inner ∧ Header .array items.length p ∧ Encodes items inner := by
  generalize hv : [Value.array items] = vs at h
  cases h with
  | nil => cases hv
  | scalar hb hlen hcontent h =>
    obtain ⟨hitem, -⟩ := List.cons.inj hv
    exact absurd hitem.symm ((Marker.depth_of_scalar hb _).2 items)
  | @container b width base kind len items' inner vs rest hb hlen hcount hitems h =>
    obtain ⟨hitem, rfl⟩ := List.cons.inj hv
    cases h
    cases kind with
    | map => cases hitem
    | array =>
      obtain rfl : items = items' := by simpa [Kind.value] using hitem
      rw [Kind.arity, Nat.one_mul] at hcount
      exact ⟨b :: len, inner, by simp, ⟨b, width, base, len, hb, hlen, hcount, rfl⟩, hitems⟩

/-- What begins with the header of an array is an array. -/
lemma array_of_header {v : Value} {n : ℕ} {p rest : List UInt8} (h : Encodes [v] (p ++ rest))
    (hp : Header .array n p) : ∃ items, v = .array items := by
  obtain ⟨b, width, base, len, hb, -, -, rfl⟩ := hp
  generalize hvs : [v] = vs at h
  generalize hbytes : b :: len ++ rest = bytes at h
  cases h with
  | nil => cases hvs
  | scalar hb' =>
    obtain ⟨rfl, -⟩ := List.cons.inj hbytes
    rw [hb] at hb'
    cases hb'
  | @container b' width' base' kind len' items inner vs tail hb' =>
    obtain ⟨rfl, -⟩ := List.cons.inj hbytes
    obtain ⟨rfl, -⟩ := List.cons.inj hvs
    rw [hb] at hb'
    cases hb'
    exact ⟨items, rfl⟩

end Encodes

end MessagePack
