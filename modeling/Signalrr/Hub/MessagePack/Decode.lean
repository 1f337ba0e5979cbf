import Signalrr.Hub.Message
import Signalrr.MessagePack.Reader
import Signalrr.MessagePack.Writer

set_option relaxedAutoImplicit false
set_option autoImplicit false

/-!
# Decoding one MessagePack frame

`decode_message` and `skip_value` of `src/hub/messagepack/parse.rs`: the elements of a message are
decoded, the arguments of an invocation stay encoded.

## Main definitions

* `Signalrr.Hub.Rmp`, `Signalrr.Hub.Rmp.Lawful` — the functions of the `rmp` and `rmpv` crates that
  the client calls, and what it relies on.
* `Signalrr.Hub.Checked` — results of functions on machine words.
* `Signalrr.Hub.MessagePackProtocol.skipValue`, `decodeMessage` — the two functions.

## Main results

* `Signalrr.Hub.MessagePackProtocol.skipMany_of_encodes` — encoded values are skipped.
* `Signalrr.Hub.MessagePackProtocol.decodeItems_of_encodes` — encoded values are decoded one by one.
* `Signalrr.Hub.MessagePackProtocol.decodeMessage_agrees` — decoding a frame with the arguments left
  encoded agrees with plain decoding.
* `Signalrr.Hub.Rmp.reference_lawful` — the assumptions hold of the reader and the writer of
  `Signalrr.MessagePack`.

## Design

Words have `w` bits; `none` is a sum or a product that leaves them. `skip_value` counts its depth up
to `MAX_DEPTH`; here the levels that are left are counted down, so that the recursion ends by
itself.
-/

namespace Signalrr.Hub

/-! ## The MessagePack crates -/

/-- The functions of `rmp` and `rmpv` the client calls. A reader returns what it has read and the
rest, or the text of its error; `writeValue` writes into an empty buffer. -/
structure Rmp where
  readMarker : Bytes → Except String (MessagePack.Marker × Bytes)
  readArrayLen : Bytes → Except String (ℕ × Bytes)
  readValue : Bytes → Except String (MessagePack.Value × Bytes)
  writeValue : MessagePack.Value → Except String Bytes

namespace Rmp

/-- The deepest nesting `rmpv` reads, plus one. -/
def maxDepth : ℕ := 1024

/-- The crates read and write MessagePack as it is specified. A buffer in memory takes all that is
written to it; a length of 4 GB or more does not fit into the format. -/
structure Lawful (rmp : Rmp) : Prop where
  readMarker_cons : ∀ b rest, rmp.readMarker (b :: rest) = .ok (.ofByte b, rest)
  readMarker_nil : ∃ error, rmp.readMarker [] = .error error
  readArrayLen_ok : ∀ {n p rest}, MessagePack.Header .array n p →
    rmp.readArrayLen (p ++ rest) = .ok (n, rest)
  header_of_readArrayLen : ∀ {bytes n rest}, rmp.readArrayLen bytes = .ok (n, rest) →
    ∃ p, bytes = p ++ rest ∧ MessagePack.Header .array n p
  readValue_ok : ∀ {v e rest}, MessagePack.Encodes [v] e → v.depth < maxDepth →
    rmp.readValue (e ++ rest) = .ok (v, rest)
  readValue_deep : ∀ {v e rest}, MessagePack.Encodes [v] e → maxDepth ≤ v.depth →
    ∃ error, rmp.readValue (e ++ rest) = .error error
  writeValue_ok : ∀ v, ∃ e, rmp.writeValue v = .ok e
  encodes_writeValue : ∀ {v e}, rmp.writeValue v = .ok e → e.length < 2 ^ 32 →
    MessagePack.Encodes [v] e

/-- The crates read nothing but encodings. -/
def ReadsOnlyEncodings (rmp : Rmp) : Prop :=
  ∀ bytes v rest, rmp.readValue bytes = .ok (v, rest) →
    ∃ e, bytes = e ++ rest ∧ MessagePack.Encodes [v] e

/-- The reader and the writer of the MessagePack library, in the place of the crates. -/
def reference : Rmp where
  readMarker
    | [] => .error "failed to fill whole buffer"
    | b :: rest => .ok (.ofByte b, rest)
  readArrayLen bytes :=
    match MessagePack.readHeader .array bytes with
    | some (n, rest) => .ok (n, rest)
    | none => .error "the type decoded isn't match with the expected one"
  readValue bytes :=
    match MessagePack.read maxDepth bytes with
    | some (v, rest) => .ok (v, rest)
    | none => .error "failed to read MessagePack value"
  writeValue v := .ok v.write

/-- What the library reads, as the answer of the crate. -/
lemma reference_readValue {bytes rest : Bytes} {v : MessagePack.Value} :
    reference.readValue bytes = .ok (v, rest) ↔
      MessagePack.read maxDepth bytes = some (v, rest) := by
  simp only [reference]
  cases MessagePack.read maxDepth bytes with
  | none => simp
  | some p => simp [Prod.ext_iff]

/-- The assumptions hold of the MessagePack library. -/
lemma reference_lawful : reference.Lawful where
  readMarker_cons _ _ := rfl
  readMarker_nil := ⟨_, rfl⟩
  readArrayLen_ok {n p rest} hp := by
    simp only [reference, MessagePack.readHeader_eq_some.mpr ⟨p, rfl, hp⟩]
  header_of_readArrayLen {bytes n rest} h := by
    simp only [reference] at h
    cases hread : MessagePack.readHeader .array bytes with
    | none => simp [hread] at h
    | some q =>
      obtain rfl : q = (n, rest) := by simpa [hread] using h
      exact MessagePack.readHeader_eq_some.mp hread
  readValue_ok he hdepth :=
    reference_readValue.mpr (MessagePack.read_eq_some.mpr ⟨_, rfl, he, hdepth⟩)
  readValue_deep {v e rest} he hdepth := by
    have hnone := MessagePack.read_of_encodes he maxDepth rest
    rw [if_neg (by omega)] at hnone
    refine ⟨"failed to read MessagePack value", ?_⟩
    simp only [reference, hnone]
  writeValue_ok v := ⟨_, rfl⟩
  encodes_writeValue {v e} h hlen := by
    obtain rfl : v.write = e := by simpa [reference] using h
    exact MessagePack.encodes_write v hlen

/-- The MessagePack library reads nothing but encodings. -/
lemma reference_readsOnlyEncodings : reference.ReadsOnlyEncodings := by
  intro bytes v rest h
  obtain ⟨e, hbytes, he, -⟩ := MessagePack.encodes_of_read (reference_readValue.mp h)
  exact ⟨e, hbytes, he⟩

end Rmp

/-! ## Checked results -/

/-- A result or a protocol error; `none` where a sum or a product leaves the machine words. -/
abbrev Checked (α : Type) := ExceptT ProtocolError Option α

namespace Checked

variable {α β : Type}

/-- A sum or a product has left the machine words. -/
def overflow : Checked α := ExceptT.mk none

/-- The result of a function that does not calculate with words. -/
def ofExcept (x : Except ProtocolError α) : Checked α := ExceptT.mk (some x)

@[simp] lemma ofExcept_ok (a : α) : ofExcept (.ok a) = pure a := rfl

@[simp] lemma ofExcept_error (e : ProtocolError) :
    (ofExcept (.error e) : Checked α) = throw e := rfl

@[simp] lemma throw_bind (e : ProtocolError) (f : α → Checked β) :
    (throw e : Checked α) >>= f = throw e := rfl

@[simp] lemma pure_ne_throw (a : α) (e : ProtocolError) : (pure a : Checked α) ≠ throw e := by
  intro h
  cases h

@[simp] lemma pure_inj {a b : α} : (pure a : Checked α) = pure b ↔ a = b := by
  constructor
  · intro h
    cases h
    rfl
  · rintro rfl
    rfl

/-- Two steps have an answer if both have one. -/
lemma bind_eq_pure {x : Checked α} {f : α → Checked β} {b : β} :
    x >>= f = pure b ↔ ∃ a, x = pure a ∧ f a = pure b := by
  constructor
  · intro h
    rcases x with _ | (e | a)
    · cases h
    · cases h
    · exact ⟨a, rfl, h⟩
  · rintro ⟨a, rfl, hb⟩
    exact hb

end Checked

namespace MessagePackProtocol

/-! ## Skipping -/

/-- `MAX_DEPTH`. -/
def maxDepth : ℕ := 512

/-- `truncated`. -/
def truncated : ProtocolError := .invalidPayload "truncated messagepack value"

/-- A sum of words. -/
def add (w a b : ℕ) : Checked ℕ := if a + b < 2 ^ w then pure (a + b) else Checked.overflow

/-- A product of words. -/
def mul (w a b : ℕ) : Checked ℕ := if a * b < 2 ^ w then pure (a * b) else Checked.overflow

/-- `checked_mul`. -/
def checkedMul (w a b : ℕ) : Option ℕ := if a * b < 2 ^ w then some (a * b) else none

/-- `take`: the first `len` bytes and the rest. -/
def take (rest : Bytes) (len : ℕ) : Checked (Bytes × Bytes) :=
  if rest.length < len then throw truncated else pure (rest.take len, rest.drop len)

/-- `read_len`: a big-endian length of `size` bytes, and the rest. -/
def readLen (w : ℕ) (rest : Bytes) (size : ℕ) : Checked (ℕ × Bytes) := do
  let (head, rest) ← take rest size
  pure (head.foldl (fun len byte => (len <<< 8) % 2 ^ w ||| byte.toNat) 0, rest)

/-- What `skip_value` does with a marker: how many bytes and how many values follow, and the rest
behind the length. -/
def skipSize (w : ℕ) (marker : MessagePack.Marker) (rest : Bytes) : Checked (ℕ × ℕ × Bytes) :=
  match marker with
  | .fixPos _ | .fixNeg _ | .null | .true | .false => pure (0, 0, rest)
  | .u8 | .i8 => pure (1, 0, rest)
  | .u16 | .i16 => pure (2, 0, rest)
  | .u32 | .i32 | .f32 => pure (4, 0, rest)
  | .u64 | .i64 | .f64 => pure (8, 0, rest)
  | .fixStr len => pure (len.toNat, 0, rest)
  | .str8 | .bin8 => do
    let (len, rest) ← readLen w rest 1
    pure (len, 0, rest)
  | .str16 | .bin16 => do
    let (len, rest) ← readLen w rest 2
    pure (len, 0, rest)
  | .str32 | .bin32 => do
    let (len, rest) ← readLen w rest 4
    pure (len, 0, rest)
  | .fixArray len => pure (0, len.toNat, rest)
  | .array16 => do
    let (len, rest) ← readLen w rest 2
    pure (0, len, rest)
  | .array32 => do
    let (len, rest) ← readLen w rest 4
    pure (0, len, rest)
  | .fixMap len => do
    let values ← mul w 2 len.toNat
    pure (0, values, rest)
  | .map16 => do
    let (len, rest) ← readLen w rest 2
    let values ← mul w 2 len
    pure (0, values, rest)
  | .map32 => do
    let (len, rest) ← readLen w rest 4
    match checkedMul w len 2 with
    | some values => pure (0, values, rest)
    | none => throw truncated
  | .fixExt1 => pure (2, 0, rest)
  | .fixExt2 => pure (3, 0, rest)
  | .fixExt4 => pure (5, 0, rest)
  | .fixExt8 => pure (9, 0, rest)
  | .fixExt16 => pure (17, 0, rest)
  | .ext8 => do
    let (len, rest) ← readLen w rest 1
    let bytes ← add w len 1
    pure (bytes, 0, rest)
  | .ext16 => do
    let (len, rest) ← readLen w rest 2
    let bytes ← add w len 1
    pure (bytes, 0, rest)
  | .ext32 => do
    let (len, rest) ← readLen w rest 4
    let bytes ← add w len 1
    pure (bytes, 0, rest)
  | .reserved => throw (.invalidPayload "reserved messagepack marker")

/-- Skips `n` values. -/
def skipMany (skip : Bytes → Checked Bytes) : ℕ → Bytes → Checked Bytes
  | 0, rest => pure rest
  | n + 1, rest => do
    let rest ← skip rest
    skipMany skip n rest

/-- `skip_value`, with `MAX_DEPTH + 1 - depth` levels left. -/
def skipValue (rmp : Rmp) (w : ℕ) : ℕ → Bytes → Checked Bytes
  | 0, _ => throw (.invalidPayload "messagepack nesting is too deep")
  | levels + 1, rest => do
    match rmp.readMarker rest with
    | .error _ => throw truncated
    | .ok (marker, rest) =>
      let (bytes, values, rest) ← skipSize w marker rest
      let (_, rest) ← take rest bytes
      skipMany (skipValue rmp w levels) values rest

/-! ### Lengths -/

section Lengths

variable {w : ℕ} {rest : Bytes}

/-- Taking a chunk that is there. -/
lemma take_of_chunk {n : ℕ} {head tail : Bytes} (h : MessagePack.chunk n rest = some (head, tail)) :
    take rest n = pure (head, tail) := by
  obtain ⟨rfl, rfl⟩ := MessagePack.chunk_eq_some h
  rw [take, if_neg (by simp), List.take_left, List.drop_left]

/-- Taking a chunk that is cut off. -/
lemma take_of_chunk_none {n : ℕ} (h : MessagePack.chunk n rest = none) :
    take rest n = throw truncated := by
  rw [take, if_pos]
  by_contra hle
  rw [MessagePack.chunk, if_pos (by omega)] at h
  cases h

/-- The bytes of a length are shifted together without loss. -/
lemma foldl_shift (hw : 32 ≤ w) {head : Bytes} (h : head.length ≤ 4) :
    head.foldl (fun len byte => (len <<< 8) % 2 ^ w ||| byte.toNat) 0 = MessagePack.be head := by
  have hstep : ∀ {n k : ℕ} (byte : UInt8), n < 256 ^ k → k < 4 →
      (n <<< 8) % 2 ^ w ||| byte.toNat = 256 * n + byte.toNat ∧
        256 * n + byte.toNat < 256 ^ (k + 1) := by
    intro n k byte hn hk
    have hbyte : byte.toNat < 2 ^ 8 := byte.toNat_lt
    have hnext : 256 * n + byte.toNat < 256 ^ (k + 1) := by
      rw [pow_succ]
      omega
    have hword : 256 ^ (k + 1) ≤ 2 ^ w :=
      calc 256 ^ (k + 1) ≤ 256 ^ 4 := Nat.pow_le_pow_right (by decide) hk
        _ = 2 ^ 32 := by decide
        _ ≤ 2 ^ w := Nat.pow_le_pow_right (by decide) hw
    have hshift : n <<< 8 = 256 * n := by rw [Nat.shiftLeft_eq, Nat.mul_comm]
    refine ⟨?_, hnext⟩
    rw [Nat.mod_eq_of_lt (by omega), ← Nat.shiftLeft_add_eq_or_of_lt hbyte, hshift]
  have hfold : ∀ (head : Bytes) {n k : ℕ}, n < 256 ^ k → k + head.length ≤ 4 →
      head.foldl (fun len byte => (len <<< 8) % 2 ^ w ||| byte.toNat) n =
        head.foldl (fun n b => 256 * n + b.toNat) n := by
    intro head
    induction head with
    | nil => intro n k _ _; rfl
    | cons byte head ih =>
      intro n k hn hk
      rw [List.length_cons] at hk
      obtain ⟨heq, hlt⟩ := hstep byte hn (by omega)
      rw [List.foldl_cons, List.foldl_cons, heq]
      exact ih hlt (by omega)
  exact hfold head (k := 0) Nat.one_pos (by omega)

/-- Reading a length that is there. -/
lemma readLen_of_chunk (hw : 32 ≤ w) {n : ℕ} (hn : n ≤ 4) {head tail : Bytes}
    (h : MessagePack.chunk n rest = some (head, tail)) :
    readLen w rest n = pure (MessagePack.be head, tail) := by
  have hlen := (MessagePack.chunk_eq_some h).2
  rw [readLen, take_of_chunk h, pure_bind]
  exact congrArg (fun len => pure (len, tail)) (foldl_shift hw (by omega))

/-- Reading a length that is cut off. -/
lemma readLen_of_chunk_none {n : ℕ} (h : MessagePack.chunk n rest = none) :
    readLen w rest n = throw truncated := by
  rw [readLen, take_of_chunk_none h, Checked.throw_bind]

end Lengths

/-! ### Skipping what is encoded -/

section Skipping

open MessagePack

variable {w : ℕ} {rest len tail : Bytes} {m : Marker}

/-- No bytes are always there. -/
lemma eq_of_chunk_zero (h : chunk 0 rest = some (len, tail)) : len = [] ∧ tail = rest := by
  obtain ⟨rfl, hlen⟩ := chunk_eq_some h
  obtain rfl := List.length_eq_zero_iff.mp hlen
  exact ⟨rfl, rfl⟩

/-- The marker of a scalar: as many bytes follow as its layout says. -/
lemma skipSize_scalar (hw : 32 ≤ w) {width extra : ℕ} {value : Bytes → MessagePack.Value}
    (hm : m.layout = .scalar width extra value) (hlen : chunk width rest = some (len, tail))
    (hfit : be len + extra < 2 ^ w) : skipSize w m rest = pure (be len + extra, 0, tail) := by
  cases m <;> simp only [Marker.layout, Layout.scalar.injEq, reduceCtorEq] at hm <;>
    obtain ⟨rfl, rfl, -⟩ := hm <;>
    first
    | obtain ⟨rfl, rfl⟩ := eq_of_chunk_zero hlen
      simp [skipSize]
    | simp [skipSize, readLen_of_chunk hw _ hlen, add, hfit]

/-- The marker of a container: as many values follow as its layout says. -/
lemma skipSize_container (hw : 32 ≤ w) {width base : ℕ} {kind : Kind}
    (hm : m.layout = .container width base kind) (hlen : chunk width rest = some (len, tail))
    (hfit : kind.arity * (be len + base) < 2 ^ w) :
    skipSize w m rest = pure (0, kind.arity * (be len + base), tail) := by
  cases m <;> simp only [Marker.layout, Layout.container.injEq, reduceCtorEq] at hm <;>
    obtain ⟨rfl, rfl, rfl⟩ := hm <;>
    first
    | obtain ⟨rfl, rfl⟩ := eq_of_chunk_zero hlen
      simp_all [skipSize, Kind.arity, mul]
    | simp_all [skipSize, readLen_of_chunk hw _ hlen, Kind.arity, mul, checkedMul, Nat.mul_comm]

/-- A marker whose length is cut off. -/
lemma skipSize_of_chunk_none {width : ℕ}
    (hm : (∃ extra value, m.layout = .scalar width extra value) ∨
      ∃ base kind, m.layout = .container width base kind)
    (hlen : chunk width rest = none) : skipSize w m rest = throw truncated := by
  rcases hm with ⟨extra, value, hm⟩ | ⟨base, kind, hm⟩
  · cases m <;> simp only [Marker.layout, Layout.scalar.injEq, reduceCtorEq] at hm <;>
      obtain ⟨rfl, -⟩ := hm <;>
      first
      | simp [chunk] at hlen; done
      | simp [skipSize, readLen_of_chunk_none hlen]
  · cases m <;> simp only [Marker.layout, Layout.container.injEq, reduceCtorEq] at hm <;>
      obtain ⟨rfl, -⟩ := hm <;>
      first
      | simp [chunk] at hlen; done
      | simp [skipSize, readLen_of_chunk_none hlen]

/-- The marker that is reserved. -/
lemma skipSize_reserved (hm : m.layout = .reserved) :
    skipSize w m rest = throw (.invalidPayload "reserved messagepack marker") := by
  cases m <;> simp only [Marker.layout, reduceCtorEq] at hm
  rfl

/-- What follows a scalar's marker fits into the words. -/
lemma scalar_fits {width extra : ℕ} {value : Bytes → MessagePack.Value}
    (hm : m.layout = .scalar width extra value) (hlen : len.length = width)
    (hfit : 64 ≤ w ∨ be len + extra < 2 ^ w) : be len + extra < 2 ^ w := by
  obtain ⟨hwidth, hextra⟩ := m.layout_bounds.1 _ _ _ hm
  have hlt : be len < 256 ^ 4 :=
    (be_lt len).trans_le (Nat.pow_le_pow_right (by decide) (hlen ▸ hwidth))
  refine hfit.elim (fun hw => ?_) id
  have hword : 2 ^ 64 ≤ 2 ^ w := Nat.pow_le_pow_right (by decide) hw
  omega

/-- What follows a container's marker fits into the words. -/
lemma container_fits {width base : ℕ} {kind : Kind} (hm : m.layout = .container width base kind)
    (hlen : len.length = width) (hfit : 64 ≤ w ∨ kind.arity * (be len + base) < 2 ^ w) :
    kind.arity * (be len + base) < 2 ^ w := by
  obtain ⟨hwidth, hbase⟩ := m.layout_bounds.2 _ _ _ hm
  have hlt : be len < 256 ^ 4 :=
    (be_lt len).trans_le (Nat.pow_le_pow_right (by decide) (hlen ▸ hwidth))
  refine hfit.elim (fun hw => ?_) id
  have hword : 2 ^ 64 ≤ 2 ^ w := Nat.pow_le_pow_right (by decide) hw
  have harity : kind.arity ≤ 2 := by cases kind <;> decide
  calc kind.arity * (be len + base) ≤ 2 * (be len + base) := Nat.mul_le_mul_right _ harity
    _ < 2 ^ w := by omega

variable {rmp : Rmp}

/-- Skipping behind the first byte. -/
lemma skipValue_cons (hlaw : rmp.Lawful) (levels : ℕ) (b : UInt8) (bytes : Bytes) :
    skipValue rmp w (levels + 1) (b :: bytes) =
      (do
        let (n, values, rest) ← skipSize w (Marker.ofByte b) bytes
        let (_, rest) ← take rest n
        skipMany (skipValue rmp w levels) values rest) := by
  rw [skipValue, hlaw.readMarker_cons]

/-- Skipping a scalar. -/
lemma skipValue_scalar (hlaw : rmp.Lawful) (hw : 32 ≤ w) {b : UInt8} {width extra : ℕ}
    {value : Bytes → MessagePack.Value} {content : Bytes}
    (hb : (Marker.ofByte b).layout = .scalar width extra value) (hlen : len.length = width)
    (hcontent : content.length = be len + extra) (hfit : 64 ≤ w ∨ be len + extra < 2 ^ w)
    (levels : ℕ) : skipValue rmp w (levels + 1) (b :: (len ++ (content ++ rest))) = pure rest := by
  simp only [skipValue_cons hlaw,
    skipSize_scalar hw hb (chunk_append hlen _) (scalar_fits hb hlen hfit), pure_bind,
    take_of_chunk (chunk_append hcontent rest), skipMany]

/-- Skipping a container: skipping what is in it. -/
lemma skipValue_container (hlaw : rmp.Lawful) (hw : 32 ≤ w) {b : UInt8} {width base : ℕ}
    {kind : Kind} (hb : (Marker.ofByte b).layout = .container width base kind)
    (hlen : len.length = width) (hfit : 64 ≤ w ∨ kind.arity * (be len + base) < 2 ^ w)
    (levels : ℕ) :
    skipValue rmp w (levels + 1) (b :: (len ++ rest)) =
      skipMany (skipValue rmp w levels) (kind.arity * (be len + base)) rest := by
  have hnone : chunk 0 rest = some ([], rest) := chunk_append List.length_nil rest
  simp only [skipValue_cons hlaw,
    skipSize_container hw hb (chunk_append hlen _) (container_fits hb hlen hfit), pure_bind,
    take_of_chunk hnone]

/-- Encoded values are skipped.

**Proof sketch.** Induction on the encoding, as for reading; the lengths in an encoding are at most
the number of its bytes. -/
lemma skipMany_of_encodes (hlaw : rmp.Lawful) (hw : 32 ≤ w) {vs : List MessagePack.Value}
    {e : Bytes} (h : Encodes vs e) : ∀ {levels : ℕ} (rest : Bytes), (∀ v ∈ vs, v.depth < levels) →
      (64 ≤ w ∨ e.length < 2 ^ w) →
      skipMany (skipValue rmp w levels) vs.length (e ++ rest) = pure rest := by
  induction h with
  | nil => intro levels rest _ _; rfl
  | @scalar b width extra value len content vs tail hb hlen hcontent _ ih =>
    intro levels rest hdepth hfit
    rw [List.length_append, List.length_append] at hfit
    obtain ⟨hv, hvs⟩ := List.forall_mem_cons.mp hdepth
    cases levels with
    | zero => exact absurd hv (Nat.not_lt_zero _)
    | succ levels =>
      simp only [List.cons_append, List.append_assoc, List.length_cons, skipMany,
        skipValue_scalar hlaw hw hb hlen hcontent (hfit.imp_right fun h => by omega), pure_bind]
      exact ih rest hvs (hfit.imp_right fun h => by omega)
  | @container b width base kind len items inner vs tail hb hlen hcount hitems _ ihitems ih =>
    intro levels rest hdepth hfit
    rw [List.length_append, List.length_append] at hfit
    obtain ⟨hv, hvs⟩ := List.forall_mem_cons.mp hdepth
    have hitemsLength := hitems.length_le
    cases levels with
    | zero => exact absurd hv (Nat.not_lt_zero _)
    | succ levels =>
      have hinner := ihitems (tail ++ rest) ((Kind.depth_value_lt hcount).mp hv)
        (hfit.imp_right fun h => by omega)
      rw [hcount] at hinner hitemsLength
      simp only [List.cons_append, List.append_assoc, List.length_cons, skipMany,
        skipValue_container hlaw hw hb hlen (hfit.imp_right fun h => by omega), hinner, pure_bind]
      exact ih rest hvs (hfit.imp_right fun h => by omega)

/-- An encoded value is skipped. -/
lemma skipValue_of_encodes (hlaw : rmp.Lawful) (hw : 32 ≤ w) {v : MessagePack.Value} {e : Bytes}
    (h : Encodes [v] e) {levels : ℕ} (hdepth : v.depth < levels) (hfit : 64 ≤ w ∨ e.length < 2 ^ w)
    (rest : Bytes) : skipValue rmp w levels (e ++ rest) = pure rest := by
  have hmany := skipMany_of_encodes hlaw hw h rest (List.forall_mem_singleton.mpr hdepth) hfit
  simpa [skipMany] using hmany

/-! ### Skipping nothing else -/

/-- Values that cannot be read one behind the other cannot be skipped. -/
lemma skipMany_of_readMany_none {readOne : Bytes → Option (MessagePack.Value × Bytes)}
    {skip : Bytes → Checked Bytes}
    (hsome : ∀ {bytes v rest}, readOne bytes = some (v, rest) → skip bytes = pure rest)
    (hnone : ∀ {bytes}, readOne bytes = none → ∃ error, skip bytes = throw error) {n : ℕ} :
    ∀ {bytes : Bytes}, readMany readOne n bytes = none →
      ∃ error, skipMany skip n bytes = throw error := by
  induction n with
  | zero => intro bytes h; cases h
  | succ n ih =>
    intro bytes h
    rw [readMany] at h
    cases hread : readOne bytes with
    | none =>
      obtain ⟨error, herror⟩ := hnone hread
      exact ⟨error, by rw [skipMany, herror, Checked.throw_bind]⟩
    | some p =>
      obtain ⟨v, tail⟩ := p
      rw [hread, Option.bind_some, Option.map_eq_none_iff] at h
      obtain ⟨error, herror⟩ := ih h
      exact ⟨error, by rw [skipMany, hsome hread, pure_bind, herror]⟩

/-- With words of 64 bits, what cannot be read cannot be skipped.

**Proof sketch.** Induction on the levels: the bytes after the marker that reading misses are missed
by skipping. -/
lemma skipValue_of_read_none (hlaw : rmp.Lawful) {levels : ℕ} {bytes : Bytes}
    (h : read levels bytes = none) : ∃ error, skipValue rmp 64 levels bytes = throw error := by
  have hw : 32 ≤ 64 := by decide
  induction levels generalizing bytes with
  | zero => exact ⟨_, rfl⟩
  | succ levels ih =>
    have hskip : ∀ {bytes v rest}, MessagePack.read levels bytes = some (v, rest) →
        skipValue rmp 64 levels bytes = pure rest := by
      intro bytes v rest h
      obtain ⟨e, rfl, he, hdepth⟩ := encodes_of_read h
      exact skipValue_of_encodes hlaw hw he hdepth (.inl le_rfl) rest
    cases bytes with
    | nil =>
      obtain ⟨error, herror⟩ := hlaw.readMarker_nil
      exact ⟨truncated, by rw [skipValue, herror]⟩
    | cons b bytes =>
      rw [MessagePack.read] at h
      simp only [skipValue_cons hlaw]
      cases hb : (Marker.ofByte b).layout with
      | reserved =>
        refine ⟨.invalidPayload "reserved messagepack marker", ?_⟩
        simp only [skipSize_reserved hb, Checked.throw_bind]
      | scalar width extra value =>
        simp only [hb] at h
        cases hlen : chunk width bytes with
        | none =>
          have hsize : skipSize 64 (Marker.ofByte b) bytes = throw truncated :=
            skipSize_of_chunk_none (.inl ⟨_, _, hb⟩) hlen
          exact ⟨truncated, by simp only [hsize, Checked.throw_bind]⟩
        | some p =>
          obtain ⟨len, tail⟩ := p
          rw [hlen, Option.bind_some, Option.map_eq_none_iff] at h
          have hwidth := (chunk_eq_some hlen).2
          have hsize := skipSize_scalar hw hb hlen (scalar_fits hb hwidth (.inl le_rfl))
          refine ⟨truncated, ?_⟩
          simp only [hsize, pure_bind, take_of_chunk_none h, Checked.throw_bind]
      | container width base kind =>
        simp only [hb] at h
        cases hlen : chunk width bytes with
        | none =>
          have hsize : skipSize 64 (Marker.ofByte b) bytes = throw truncated :=
            skipSize_of_chunk_none (.inr ⟨_, _, hb⟩) hlen
          exact ⟨truncated, by simp only [hsize, Checked.throw_bind]⟩
        | some p =>
          obtain ⟨len, tail⟩ := p
          rw [hlen, Option.bind_some, Option.map_eq_none_iff] at h
          have hwidth := (chunk_eq_some hlen).2
          have hsize := skipSize_container hw hb hlen (container_fits hb hwidth (.inl le_rfl))
          have hnone : chunk 0 tail = some ([], tail) := chunk_append List.length_nil tail
          obtain ⟨error, herror⟩ := skipMany_of_readMany_none hskip ih h
          exact ⟨error, by simp only [hsize, pure_bind, take_of_chunk hnone, herror]⟩

end Skipping

/-! ## Decoding -/

/-- `Value::as_i64`. -/
def asI64 : MessagePack.Value → Option ℤ
  | .integer n => if n.val < 2 ^ 63 then some n.val else none
  | _ => none

/-- The first item has the type of an invocation. -/
def isInvocation (items : List MessagePack.Value) : Prop :=
  items.head?.bind asI64 = some (MessageType.invocation.toNat : ℤ)

instance (items : List MessagePack.Value) : Decidable (isInvocation items) :=
  inferInstanceAs (Decidable (_ = _))

/-- The loop of `decode_message` over the elements that are left, the next of them at `index`. -/
def decodeItems (rmp : Rmp) (w argumentsIndex : ℕ) :
    ℕ → ℕ → List MessagePack.Value → Option Bytes → Bytes →
      Checked (List MessagePack.Value × Option Bytes)
  | 0, _, items, rawArguments, _ => pure (items, rawArguments)
  | n + 1, index, items, rawArguments, rest =>
    if index = argumentsIndex ∧ isInvocation items then do
      let tail ← skipValue rmp w (maxDepth + 1) rest
      decodeItems rmp w argumentsIndex n (index + 1) (items ++ [.nil])
        (some (rest.take (rest.length - tail.length))) tail
    else
      match rmp.readValue rest with
      | .ok (item, rest) =>
        decodeItems rmp w argumentsIndex n (index + 1) (items ++ [item]) rawArguments rest
      | .error error =>
        throw (.messagePack ("failed to decode messagepack payload: " ++ error))

/-- `decode_message`: the items of a frame, and the encoded arguments of an invocation. -/
def decodeMessage (rmp : Rmp) (w : ℕ) (frame : Bytes) (argumentsIndex : ℕ) :
    Checked (List MessagePack.Value × Option Bytes) :=
  match rmp.readArrayLen frame with
  | .ok (len, rest) => decodeItems rmp w argumentsIndex len 0 [] none rest
  | .error _ => throw (.invalidPayload "invalid payload")

/-! ### Decoding what is encoded -/

section Decoding

open MessagePack

variable {rmp : Rmp} {w k : ℕ}

/-- Whether a message is an invocation is known from its first item. -/
lemma isInvocation_append {items : List MessagePack.Value} (h : isInvocation items)
    (more : List MessagePack.Value) : isInvocation (items ++ more) := by
  cases items with
  | nil => cases h
  | cons item items => exact h

/-- The first item is the integer one. -/
lemma isInvocation_iff {xs : List MessagePack.Value} :
    isInvocation xs ↔ xs.head? = some (.integer (.unsigned 1)) := by
  unfold isInvocation
  cases xs with
  | nil => simp
  | cons x xs =>
    rw [List.head?_cons, Option.bind_some, Option.some_inj]
    cases x with
    | integer n =>
      rw [MessagePack.Value.integer.injEq, Integer.ext_iff, asI64]
      change (if n.val < 2 ^ 63 then some n.val else none) = some 1 ↔ n.val = 1
      split
      · rw [Option.some_inj]
      · simp only [reduceCtorEq, false_iff]
        omega
    | _ => simp [asI64]

/-- Encoded values are decoded one by one, where none of them is left encoded. -/
lemma decodeItems_of_encodes (hlaw : rmp.Lawful) {xs : List MessagePack.Value} :
    ∀ {e : Bytes} {n index : ℕ} {items : List MessagePack.Value} {raw : Option Bytes}
      {rest : Bytes}, Encodes xs e → (∀ x ∈ xs, x.depth < Rmp.maxDepth) →
      (∀ j < xs.length, index + j = k → ¬ isInvocation (items ++ xs)) →
      decodeItems rmp w k (xs.length + n) index items raw (e ++ rest) =
        decodeItems rmp w k n (index + xs.length) (items ++ xs) raw rest := by
  induction xs with
  | nil =>
    intro e n index items raw rest he _ _
    cases he
    simp
  | cons x xs ih =>
    intro e n index items raw rest he hdepth hplain
    obtain ⟨ex, exs, rfl, hx, hxs⟩ := he.cons_inv
    obtain ⟨hxdepth, hxsdepth⟩ := List.forall_mem_cons.mp hdepth
    have hread : ¬ (index = k ∧ isInvocation items) := fun h =>
      hplain 0 (by simp) h.1 (isInvocation_append h.2 _)
    have hnext : ∀ j < xs.length, index + 1 + j = k → ¬ isInvocation ((items ++ [x]) ++ xs) := by
      intro j hj hk
      rw [List.append_assoc, List.singleton_append]
      exact hplain (j + 1) (by simpa using hj) (by omega)
    have hcount : (x :: xs).length + n = (xs.length + n) + 1 := by
      rw [List.length_cons]
      omega
    rw [hcount, decodeItems, if_neg hread, List.append_assoc, hlaw.readValue_ok hx hxdepth]
    simp only [ih hxs hxsdepth hnext, List.append_assoc, List.singleton_append, List.length_cons]
    congr 1
    omega

/-- The arguments of an invocation stay encoded. -/
lemma decodeItems_arguments (hlaw : rmp.Lawful) (hw : 32 ≤ w) {x : MessagePack.Value} {e : Bytes}
    (he : Encodes [x] e) (hdepth : x.depth ≤ maxDepth) (hfit : 64 ≤ w ∨ e.length < 2 ^ w)
    {items : List MessagePack.Value} (hitems : isInvocation items) (n : ℕ) (raw : Option Bytes)
    (rest : Bytes) :
    decodeItems rmp w k (n + 1) k items raw (e ++ rest) =
      decodeItems rmp w k n (k + 1) (items ++ [.nil]) (some e) rest := by
  have hslice : (e ++ rest).take ((e ++ rest).length - rest.length) = e := by
    rw [List.length_append, Nat.add_sub_cancel, List.take_left]
  rw [decodeItems, if_pos ⟨rfl, hitems⟩,
    skipValue_of_encodes hlaw hw he (Nat.lt_succ_of_le hdepth) hfit, pure_bind, hslice]

/-- Decoding a message of which no element is left encoded. -/
lemma decodeMessage_plain (hlaw : rmp.Lawful) {xs : List MessagePack.Value} {p inner : Bytes}
    (hp : Header .array xs.length p) (hinner : Encodes xs inner)
    (hdepth : ∀ x ∈ xs, x.depth < Rmp.maxDepth) (hplain : k < xs.length → ¬ isInvocation xs)
    (rest : Bytes) : decodeMessage rmp w (p ++ (inner ++ rest)) k = pure (xs, none) := by
  have hnone : ∀ j < xs.length, 0 + j = k → ¬ isInvocation ([] ++ xs) := by
    intro j hj hk
    rw [List.nil_append]
    exact hplain (by omega)
  have hitems : decodeItems rmp w k (xs.length + 0) 0 [] none (inner ++ rest) = _ :=
    decodeItems_of_encodes hlaw hinner hdepth hnone
  rw [decodeMessage, hlaw.readArrayLen_ok hp]
  exact hitems

/-- Decoding an invocation: its arguments stay encoded.

**Proof sketch.** The elements before the arguments are decoded, the arguments are skipped, and the
elements behind them are decoded. -/
lemma decodeMessage_invocation (hlaw : rmp.Lawful) (hw : 32 ≤ w)
    {front back : List MessagePack.Value} {x : MessagePack.Value} {p a e b : Bytes}
    (hp : Header .array (front ++ x :: back).length p) (ha : Encodes front a) (he : Encodes [x] e)
    (hb : Encodes back b) (hfront : isInvocation front)
    (hfrontDepth : ∀ y ∈ front, y.depth < Rmp.maxDepth) (hdepth : x.depth ≤ maxDepth)
    (hbackDepth : ∀ y ∈ back, y.depth < Rmp.maxDepth) (hfit : 64 ≤ w ∨ e.length < 2 ^ w)
    (rest : Bytes) :
    decodeMessage rmp w (p ++ (a ++ (e ++ (b ++ rest)))) front.length =
      pure (front ++ .nil :: back, some e) := by
  have hbefore : ∀ j < front.length, 0 + j = front.length → ¬ isInvocation ([] ++ front) := by
    intro j hj hk
    omega
  have hbehind : ∀ j < back.length, 0 + front.length + 1 + j = front.length →
      ¬ isInvocation (([] ++ front ++ [.nil]) ++ back) := by
    intro j hj hk
    omega
  have hcount : (front ++ x :: back).length = front.length + (back.length + 0 + 1) := by
    rw [List.length_append, List.length_cons, Nat.add_zero]
  have hskip := decodeItems_arguments (k := 0 + front.length) hlaw hw he hdepth hfit
    (show isInvocation ([] ++ front) from hfront) (back.length + 0) none (b ++ rest)
  rw [Nat.zero_add] at hskip hbehind
  rw [decodeMessage, hlaw.readArrayLen_ok hp]
  simp only [hcount]
  rw [decodeItems_of_encodes hlaw ha hfrontDepth hbefore, Nat.zero_add, hskip,
    decodeItems_of_encodes hlaw hb hbackDepth hbehind, decodeItems]
  simp

/-! ### Decoding nothing else -/

/-- With words of 64 bits, the loop over the elements either fails or has read as many encoded
values as it has been asked for. -/
lemma decodeItems_cases (hlaw : rmp.Lawful) (hreads : rmp.ReadsOnlyEncodings) {n : ℕ} :
    ∀ (index : ℕ) (items : List MessagePack.Value) (raw : Option Bytes) (rest : Bytes),
      (∃ error, decodeItems rmp 64 k n index items raw rest = throw error) ∨
        ∃ xs e tail, rest = e ++ tail ∧ Encodes xs e ∧ xs.length = n := by
  induction n with
  | zero =>
    intro index items raw rest
    exact .inr ⟨[], [], rest, rfl, .nil, rfl⟩
  | succ n ih =>
    intro index items raw rest
    -- one encoded value in front, and the same question behind it
    have hbehind : ∀ {x : MessagePack.Value} {e tail : Bytes} {items' : List MessagePack.Value}
        {raw' : Option Bytes}, Encodes [x] e → rest = e ++ tail →
        (∃ error, decodeItems rmp 64 k n (index + 1) items' raw' tail = throw error) ∨
          ∃ xs e' tail', rest = e' ++ tail' ∧ Encodes xs e' ∧ xs.length = n + 1 := by
      intro x e tail items' raw' he hrest
      rcases ih (index + 1) items' raw' tail with herror | ⟨xs, e', tail', rfl, hxs, hlen⟩
      · exact .inl herror
      · refine .inr ⟨x :: xs, e ++ e', tail', by rw [hrest, List.append_assoc], he.append hxs, ?_⟩
        rw [List.length_cons, hlen]
    rw [decodeItems]
    split
    · cases hread : MessagePack.read (maxDepth + 1) rest with
      | none =>
        obtain ⟨error, herror⟩ := skipValue_of_read_none hlaw hread
        exact .inl ⟨error, by rw [herror, Checked.throw_bind]⟩
      | some q =>
        obtain ⟨x, tail⟩ := q
        obtain ⟨e, hrest, he, hdepth⟩ := encodes_of_read hread
        have hskip := skipValue_of_encodes hlaw (by decide) he hdepth (.inl le_rfl) tail
        rw [hrest, hskip, pure_bind]
        rw [hrest] at hbehind
        exact hbehind he rfl
    · cases hread : rmp.readValue rest with
      | error error => exact .inl ⟨_, rfl⟩
      | ok q =>
        obtain ⟨x, tail⟩ := q
        obtain ⟨e, hrest, he⟩ := hreads _ _ _ hread
        exact hbehind he hrest

/-- With words of 64 bits, a frame that does not begin with an encoded array is refused. -/
lemma decodeMessage_refuses (hlaw : rmp.Lawful) (hreads : rmp.ReadsOnlyEncodings) {frame : Bytes}
    (hframe : ¬ ∃ xs e rest, frame = e ++ rest ∧ Encodes [.array xs] e) :
    ∃ error, decodeMessage rmp 64 frame k = throw error := by
  rw [decodeMessage]
  cases hlen : rmp.readArrayLen frame with
  | error error => exact ⟨_, rfl⟩
  | ok q =>
    obtain ⟨n, rest⟩ := q
    obtain ⟨p, rfl, hp⟩ := hlaw.header_of_readArrayLen hlen
    rcases decodeItems_cases (n := n) hlaw hreads 0 [] none rest with
      herror | ⟨xs, e, tail, rfl, hxs, rfl⟩
    · exact herror
    · exact absurd ⟨xs, p ++ e, tail, by rw [List.append_assoc], .array hp hxs⟩ hframe

end Decoding

/-! ## Agreement with plain decoding -/

section Agreement

open MessagePack

/-- The nesting that both decoders read: plain decoding of every element, and skipping of the one at
`k` that is left encoded. -/
def WithinLimits (xs : List MessagePack.Value) (k : ℕ) : Prop :=
  (∀ x ∈ xs, x.depth < Rmp.maxDepth) ∧
    (isInvocation xs → ∀ x, xs[k]? = some x → x.depth ≤ maxDepth)

/-- Decoding a frame with the arguments left encoded agrees with plain decoding. A frame that begins
with an encoded array is decoded to its items; when the first of them is the integer one and there
is an item at `k`, `Nil` stands for that item and its encoding is returned, which plain decoding
reads back. A frame that does not begin with an encoded array is refused.

**Proof sketch.** The array is its header and its encoded items. They are decoded one by one, and
skipping consumes exactly the encoding of the item at `k`. For the last part, whatever skipping or
reading gets past is an encoded value. -/
theorem decodeMessage_agrees {rmp : Rmp} (hlaw : rmp.Lawful) (hreads : rmp.ReadsOnlyEncodings)
    (frame : Bytes) {k : ℕ} (hk : 1 ≤ k) :
    (∀ w, w = 32 ∨ w = 64 → frame.length < 2 ^ (w - 1) → ∀ xs e rest, frame = e ++ rest →
      Encodes [.array xs] e → WithinLimits xs k →
      (∀ (_ : xs.head? = some (.integer (.unsigned 1))) (_ : k < xs.length),
        ∃ p a slice b, e = p ++ (a ++ (slice ++ b)) ∧ Header .array xs.length p ∧
          Encodes (xs.take k) a ∧ Encodes [xs[k]] slice ∧ Encodes (xs.drop (k + 1)) b ∧
          decodeMessage rmp w frame k = pure (xs.set k .nil, some slice) ∧
          rmp.readValue slice = .ok (xs[k], [])) ∧
      (¬ (xs.head? = some (.integer (.unsigned 1)) ∧ k < xs.length) →
        decodeMessage rmp w frame k = pure (xs, none))) ∧
    ((¬ ∃ xs e rest, frame = e ++ rest ∧ Encodes [.array xs] e) →
      ∃ error, decodeMessage rmp 64 frame k = throw error) := by
  refine ⟨?_, decodeMessage_refuses hlaw hreads⟩
  rintro w hw hframe xs e rest rfl he ⟨hdepth, hargs⟩
  have hwide : 32 ≤ w := by omega
  obtain ⟨p, inner, rfl, hp, hinner⟩ := he.array_inv
  constructor
  · intro hone hlt
    have hsplit : xs.take k ++ xs[k] :: xs.drop (k + 1) = xs := by
      rw [← List.drop_eq_getElem_cons hlt, List.take_append_drop]
    have hfront : isInvocation (xs.take k) := by
      rw [isInvocation_iff, List.head?_take, if_neg (by omega), hone]
    have hmem : ∀ {y}, y ∈ xs.take k ∨ y ∈ xs.drop (k + 1) → y ∈ xs := by
      rintro y (hy | hy)
      · exact List.mem_of_mem_take hy
      · exact List.mem_of_mem_drop hy
    have hlen : (xs.take k).length = k := List.length_take_of_le hlt.le
    rw [← hsplit] at hinner
    obtain ⟨a, tail, rfl, ha, htail⟩ := hinner.append_inv
    obtain ⟨slice, b, rfl, hslice, hb⟩ := htail.cons_inv
    have hitem : (xs[k]).depth ≤ maxDepth :=
      hargs (isInvocation_iff.mpr hone) _ (List.getElem?_eq_getElem hlt)
    have hpow : 2 ^ (w - 1) ≤ 2 ^ w := Nat.pow_le_pow_right (by decide) (Nat.sub_le w 1)
    have hfit : slice.length < 2 ^ w := by
      simp only [List.length_append] at hframe
      omega
    have hdecode := decodeMessage_invocation hlaw hwide (hsplit.symm ▸ hp) ha hslice hb hfront
      (fun y hy => hdepth y (hmem (.inl hy))) hitem (fun y hy => hdepth y (hmem (.inr hy)))
      (.inr hfit) rest
    have hread : rmp.readValue (slice ++ []) = .ok (xs[k], []) :=
      hlaw.readValue_ok hslice (hdepth _ (List.getElem_mem hlt))
    rw [hlen] at hdecode
    refine ⟨p, a, slice, b, rfl, hp, ha, hslice, hb, ?_, by rwa [List.append_nil] at hread⟩
    rw [List.set_eq_take_append_cons_drop, if_pos hlt]
    simpa only [List.append_assoc] using hdecode
  · intro h
    rw [List.append_assoc]
    refine decodeMessage_plain hlaw hp hinner hdepth (fun hlt hinv => h ⟨?_, hlt⟩) rest
    exact isInvocation_iff.mp hinv

/-- The array of the integer one and an empty array is decoded with the latter left encoded; what is
no array is refused. -/
theorem decodeMessage_agrees_pair :
    (∃ slice, decodeMessage Rmp.reference 64 [0x92, 0x01, 0x90] 1 =
        pure ([.integer (.unsigned 1), .nil], some slice) ∧
      Rmp.reference.readValue slice = .ok (.array [], [])) ∧
    ∃ error, decodeMessage Rmp.reference 64 [0xc0] 1 = throw error := by
  have hagrees := @decodeMessage_agrees _ Rmp.reference_lawful Rmp.reference_readsOnlyEncodings
  constructor
  · have hframe : Encodes [.array [.integer (.unsigned 1), .array []]] [0x92, 0x01, 0x90] :=
      encodes_write (.array [.integer (.unsigned 1), .array []]) (by decide)
    have hlimits : WithinLimits [.integer (.unsigned 1), .array []] 1 := by
      constructor
      · simp [MessagePack.Value.depth, MessagePack.depthItems, Rmp.maxDepth]
      · simp [MessagePack.Value.depth, MessagePack.depthItems]
    obtain ⟨p, a, slice, b, -, -, -, -, -, hdecode, hread⟩ :=
      ((hagrees [0x92, 0x01, 0x90] le_rfl).1 64 (.inr rfl) (by decide) _ _ [] rfl hframe hlimits).1
        rfl (by decide)
    exact ⟨slice, hdecode, hread⟩
  · refine (hagrees [0xc0] le_rfl).2 ?_
    rintro ⟨xs, e, rest, hframe, he⟩
    have hnil : Encodes [.nil] [0xc0] := encodes_single rfl
    have hsplit : [0xc0] ++ [] = e ++ rest := hframe
    cases (hnil.unique he hsplit).1

end Agreement

end MessagePackProtocol

end Signalrr.Hub
