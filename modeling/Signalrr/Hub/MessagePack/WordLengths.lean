import Signalrr.Hub.MessagePack.SkipValue

set_option relaxedAutoImplicit false
set_option autoImplicit false

/-!
# Lengths and words

`skip_value` and `read_len` of `src/hub/messagepack/parse.rs` calculate with lengths from the input
in words of the machine. A product is checked where the number of entries of a map has 32 bits; the
sum behind a 32-bit length of an extension is not.

## Main definitions

* `Signalrr.Hub.MessagePackProtocol.lengthResults` — what is calculated from a length, without
  bounds.
* `Signalrr.Hub.MessagePackProtocol.Calls` — the calls of `skip_value` that a call makes.
* `Signalrr.Hub.MessagePackProtocol.LengthsFit` — all of it fits into the words, and a size that
  does not is refused.
* `Signalrr.Hub.MessagePackProtocol.MeetsLongExt` — an extension of 2 ^ 32 - 1 bytes begins where a
  value is expected.

## Main results

* `Signalrr.Hub.MessagePackProtocol.lengthResults_lt` — the only result that may be too large.
* `Signalrr.Hub.MessagePackProtocol.Calls.meetsLongExt`, `MeetsLongExt.exists_call` — the calls that
  get to such an extension.
* `Signalrr.Hub.MessagePackProtocol.lengthsFit_iff` — when everything fits.

## Design

`lengthResults` follows the arms of `skip_value`, in exact arithmetic. A word of `w` bits holds such
a result if and only if it is less than `2 ^ w`; `skipValue` stops with `Checked.overflow` at the
first sum or product that is not, where the source panics or goes on with a wrapped size.
-/

namespace Signalrr.Hub.MessagePackProtocol

open MessagePack

/-! ## Results -/

/-- The shifts of `read_len` behind a length that has been read so far. -/
def shiftsFrom : ℕ → Bytes → List ℕ
  | _, [] => []
  | len, byte :: bytes => len <<< 8 :: shiftsFrom (len <<< 8 ||| byte.toNat) bytes

/-- What is calculated by `read_len`, and then from its result. -/
def readResults (rest : Bytes) (size : ℕ) (results : ℕ → List ℕ) : List ℕ :=
  match chunk size rest with
  | none => []
  | some (head, _) => shiftsFrom 0 head ++ results (be head)

/-- What `skip_value` calculates from the length behind a marker. The product of `checked_mul` is
not among it. -/
def lengthResults (rest : Bytes) : Marker → List ℕ
  | .str8 | .bin8 => readResults rest 1 fun _ => []
  | .str16 | .bin16 | .array16 => readResults rest 2 fun _ => []
  | .str32 | .bin32 | .array32 | .map32 => readResults rest 4 fun _ => []
  | .fixMap len => [2 * len.toNat]
  | .map16 => readResults rest 2 fun len => [2 * len]
  | .ext8 => readResults rest 1 fun len => [len + 1]
  | .ext16 => readResults rest 2 fun len => [len + 1]
  | .ext32 => readResults rest 4 fun len => [len + 1]
  | _ => []

/-- How many bytes, or values, a marker and the length behind it announce. -/
def announced (rest : Bytes) (m : Marker) : Option ℕ :=
  match m.layout with
  | .scalar width extra _ => (chunk width rest).map fun (len, _) => be len + extra
  | .container width base kind =>
    (chunk width rest).map fun (len, _) => kind.arity * (be len + base)
  | .reserved => none

/-- `skip_value` of `bytes` makes a call at `tail`, both with the levels that are left. -/
inductive Calls (rmp : Rmp) (w : ℕ) : ℕ → Bytes → ℕ → Bytes → Prop
  | self (levels : ℕ) (bytes : Bytes) : Calls rmp w levels bytes levels bytes
  | inner {levels levels' n k values : ℕ} {bytes rest rest' content entries tail bytes' : Bytes}
      {m : Marker} (hmarker : rmp.readMarker bytes = .ok (m, rest))
      (hsize : skipSize w m rest = pure (n, values, rest'))
      (htake : take rest' n = pure (content, entries)) (hk : k < values)
      (hskip : skipMany (skipValue rmp w levels) k entries = pure tail)
      (h : Calls rmp w levels tail levels' bytes') : Calls rmp w (levels + 1) bytes levels' bytes'

/-- Whatever `skip_value` calculates from lengths fits into the words, and a value whose announced
size does not is refused as truncated. -/
structure LengthsFit (rmp : Rmp) (w : ℕ) (bytes : Bytes) : Prop where
  results : ∀ {levels : ℕ} {tail rest : Bytes} {m : Marker},
    Calls rmp w (maxDepth + 1) bytes (levels + 1) tail → rmp.readMarker tail = .ok (m, rest) →
      ∀ n ∈ lengthResults rest m, n < 2 ^ w
  refused : ∀ {levels n : ℕ} {tail rest : Bytes} {m : Marker},
    Calls rmp w (maxDepth + 1) bytes (levels + 1) tail → rmp.readMarker tail = .ok (m, rest) →
      announced rest m = some n → 2 ^ w ≤ n → skipValueAt rmp w 0 bytes = throw truncated
  answered : skipValueAt rmp w 0 bytes ≠ Checked.overflow

/-- An extension of 2 ^ 32 - 1 bytes begins where a value is expected: at once, or behind the header
of a container, which has more entries than the values that follow. -/
inductive MeetsLongExt : ℕ → Bytes → Prop
  | here (levels : ℕ) (rest : Bytes) :
    MeetsLongExt (levels + 1) (0xc9 :: 0xff :: 0xff :: 0xff :: 0xff :: rest)
  | inside {levels width base : ℕ} {b : UInt8} {kind : Kind} {len e rest : Bytes}
      {items : List MessagePack.Value} (hb : (Marker.ofByte b).layout = .container width base kind)
      (hlen : len.length = width) (hcount : items.length < kind.arity * (be len + base))
      (hfit : kind.arity * (be len + base) < 2 ^ 32) (he : Encodes items e)
      (hdepth : ∀ v ∈ items, v.depth < levels) (h : MeetsLongExt levels rest) :
    MeetsLongExt (levels + 1) (b :: (len ++ (e ++ rest)))

/-! ## Bounds -/

/-- Shifts of a length of a few bytes. -/
lemma lt_of_mem_shiftsFrom {n : ℕ} : ∀ {bytes : Bytes} {len k : ℕ}, len < 256 ^ k →
    n ∈ shiftsFrom len bytes → n < 256 ^ (k + bytes.length) := by
  intro bytes
  induction bytes with
  | nil => intro len k _ hn; cases hn
  | cons byte bytes ih =>
    intro len k hlen hn
    have hbyte : byte.toNat < 2 ^ 8 := byte.toNat_lt
    have hshift : len <<< 8 = 256 * len := by rw [Nat.shiftLeft_eq, Nat.mul_comm]
    have hor : len <<< 8 ||| byte.toNat = 256 * len + byte.toNat := by
      rw [← Nat.shiftLeft_add_eq_or_of_lt hbyte, hshift]
    rw [List.length_cons, Nat.add_comm bytes.length, ← Nat.add_assoc]
    rcases List.mem_cons.mp hn with rfl | hn
    · calc len <<< 8 = 256 * len := hshift
        _ < 256 ^ (k + 1) := by rw [pow_succ]; omega
        _ ≤ 256 ^ (k + 1 + bytes.length) := Nat.pow_le_pow_right (by decide) (by omega)
    · refine ih ?_ hn
      rw [hor, pow_succ]
      omega

/-- What is calculated by reading a length is less than what the length may be, or is calculated
from the length. -/
lemma mem_readResults {rest : Bytes} {size n : ℕ} {results : ℕ → List ℕ}
    (h : n ∈ readResults rest size results) :
    n < 256 ^ size ∨
      ∃ head tail, rest = head ++ tail ∧ head.length = size ∧ n ∈ results (be head) := by
  rw [readResults] at h
  cases hchunk : chunk size rest with
  | none =>
    rw [hchunk] at h
    cases h
  | some p =>
    obtain ⟨head, tail⟩ := p
    rw [hchunk] at h
    obtain ⟨hrest, hhead⟩ := chunk_eq_some hchunk
    rcases List.mem_append.mp h with hshift | hresult
    · have hlt := lt_of_mem_shiftsFrom (k := 0) Nat.one_pos hshift
      rw [Nat.zero_add, hhead] at hlt
      exact .inl hlt
    · exact .inr ⟨head, tail, hrest, hhead, hresult⟩

/-- A bound on what is calculated from every length is one on what is calculated by reading it. -/
lemma lt_of_mem_readResults {rest : Bytes} {size n : ℕ} {results : ℕ → List ℕ} (hsize : size ≤ 4)
    (hresults : ∀ len < 256 ^ size, ∀ n ∈ results len, n < 2 ^ 32)
    (h : n ∈ readResults rest size results) : n < 2 ^ 32 := by
  rcases mem_readResults h with hlt | ⟨head, tail, -, hhead, hn⟩
  · calc n < 256 ^ size := hlt
      _ ≤ 256 ^ 4 := Nat.pow_le_pow_right (by decide) hsize
      _ = 2 ^ 32 := by decide
  · exact hresults _ (hhead ▸ be_lt head) n hn

/-- A bound on what is calculated by reading a length and nothing else. -/
lemma lt_of_mem_lengthOnly {rest : Bytes} {size n : ℕ} (hsize : size ≤ 4)
    (h : n ∈ readResults rest size fun _ => []) : n < 2 ^ 32 :=
  lt_of_mem_readResults hsize (fun _ _ _ hn => (by cases hn)) h

/-- The largest number of four bytes. -/
lemma eq_of_be_eq_max {head : Bytes} (hlen : head.length = 4) (hbe : be head = 2 ^ 32 - 1) :
    head = [0xff, 0xff, 0xff, 0xff] := by
  obtain ⟨a, b, c, d, rfl⟩ := List.length_eq_four.mp hlen
  have ha : a.toNat < 256 := a.toNat_lt
  have hb : b.toNat < 256 := b.toNat_lt
  have hc : c.toNat < 256 := c.toNat_lt
  have hd : d.toNat < 256 := d.toNat_lt
  simp only [be, List.foldl_cons, List.foldl_nil] at hbe
  have hall : a.toNat = 255 ∧ b.toNat = 255 ∧ c.toNat = 255 ∧ d.toNat = 255 := by omega
  obtain ⟨ha, hb, hc, hd⟩ := hall
  rw [UInt8.toNat_inj.mp (show a.toNat = (0xff : UInt8).toNat from ha),
    UInt8.toNat_inj.mp (show b.toNat = (0xff : UInt8).toNat from hb),
    UInt8.toNat_inj.mp (show c.toNat = (0xff : UInt8).toNat from hc),
    UInt8.toNat_inj.mp (show d.toNat = (0xff : UInt8).toNat from hd)]

/-- What is calculated from a length has 32 bits, apart from the size of the longest extension. -/
lemma lengthResults_lt {rest : Bytes} {m : Marker} {n : ℕ} (h : n ∈ lengthResults rest m) :
    n < 2 ^ 32 ∨
      n = 2 ^ 32 ∧ m = .ext32 ∧ ∃ tail, rest = 0xff :: 0xff :: 0xff :: 0xff :: tail := by
  cases m with
  | fixMap len =>
    have h : n ∈ [2 * len.toNat] := h
    obtain rfl := List.mem_singleton.mp h
    have hlen : len.toNat < 256 := len.toNat_lt
    exact .inl (by omega)
  | map16 =>
    have h : n ∈ readResults rest 2 fun len => [2 * len] := h
    refine .inl (lt_of_mem_readResults (by decide) (fun len hlen n hn => ?_) h)
    obtain rfl := List.mem_singleton.mp hn
    omega
  | ext8 =>
    have h : n ∈ readResults rest 1 fun len => [len + 1] := h
    refine .inl (lt_of_mem_readResults (by decide) (fun len hlen n hn => ?_) h)
    obtain rfl := List.mem_singleton.mp hn
    omega
  | ext16 =>
    have h : n ∈ readResults rest 2 fun len => [len + 1] := h
    refine .inl (lt_of_mem_readResults (by decide) (fun len hlen n hn => ?_) h)
    obtain rfl := List.mem_singleton.mp hn
    omega
  | ext32 =>
    have h : n ∈ readResults rest 4 fun len => [len + 1] := h
    rcases mem_readResults h with hlt | ⟨head, tail, hrest, hhead, hn⟩
    · exact .inl hlt
    · obtain rfl := List.mem_singleton.mp hn
      have hbe := be_lt head
      rw [hhead] at hbe
      rcases Nat.lt_or_ge (be head + 1) (2 ^ 32) with hlt | hge
      · exact .inl hlt
      · have hmax : be head = 2 ^ 32 - 1 := by omega
        rw [eq_of_be_eq_max hhead hmax] at hrest
        exact .inr ⟨by omega, rfl, tail, hrest⟩
  | str8 | bin8 => exact .inl (lt_of_mem_lengthOnly (show 1 ≤ 4 by decide) h)
  | str16 | bin16 | array16 => exact .inl (lt_of_mem_lengthOnly (show 2 ≤ 4 by decide) h)
  | str32 | bin32 | array32 | map32 => exact .inl (lt_of_mem_lengthOnly le_rfl h)
  | _ => cases h

/-- The size of the longest extension is calculated. -/
lemma mem_lengthResults_longExt (tail : Bytes) :
    2 ^ 32 ∈ lengthResults (0xff :: 0xff :: 0xff :: 0xff :: tail) .ext32 := by
  have hchunk : chunk 4 (0xff :: 0xff :: 0xff :: 0xff :: tail) =
      some ([0xff, 0xff, 0xff, 0xff], tail) :=
    chunk_append (a := [0xff, 0xff, 0xff, 0xff]) rfl tail
  have hresults : lengthResults (0xff :: 0xff :: 0xff :: 0xff :: tail) .ext32 =
      readResults (0xff :: 0xff :: 0xff :: 0xff :: tail) 4 fun len => [len + 1] := rfl
  rw [hresults, readResults, hchunk]
  exact List.mem_append_right _ (List.mem_singleton.mpr (by decide))

/-! ## Calls -/

section

variable {rmp : Rmp} {w levels : ℕ} {bytes : Bytes}

/-- Skipping `k` values and then `n` others. -/
lemma skipMany_add (skip : Bytes → Checked Bytes) (k n : ℕ) (rest : Bytes) :
    skipMany skip (k + n) rest = skipMany skip k rest >>= skipMany skip n := by
  induction k generalizing rest with
  | zero => rw [Nat.zero_add, skipMany, pure_bind]
  | succ k ih =>
    rw [Nat.succ_add, skipMany, skipMany, bind_assoc]
    exact congrArg _ (funext ih)

/-- A loop goes on with the value behind those it has skipped. -/
lemma skipMany_of_lt {skip : Bytes → Checked Bytes} {k values : ℕ} {entries tail : Bytes}
    (hk : k < values) (hskip : skipMany skip k entries = pure tail) :
    skipMany skip values entries = skip tail >>= skipMany skip (values - (k + 1)) := by
  obtain ⟨n, rfl⟩ := Nat.exists_eq_add_of_lt hk
  rw [show k + n + 1 - (k + 1) = n by omega, Nat.add_assoc, skipMany_add, hskip, pure_bind,
    skipMany]

/-- The error of a call is the error of every call that makes it. -/
lemma Calls.error {levels' : ℕ} {tail : Bytes} (h : Calls rmp w levels bytes levels' tail)
    {error : ProtocolError} (herror : skipValue rmp w levels' tail = throw error) :
    skipValue rmp w levels bytes = throw error := by
  induction h with
  | self levels bytes => exact herror
  | inner hmarker hsize htake hk hskip _ ih =>
    rw [skipValue, hmarker]
    simp only [hsize, htake, pure_bind, skipMany_of_lt hk hskip, ih herror, Checked.throw_bind]

/-- The marker that has been read is the first byte. -/
lemma eq_cons_of_readMarker (hlaw : rmp.Lawful) {m : Marker} {rest : Bytes}
    (h : rmp.readMarker bytes = .ok (m, rest)) : ∃ b, bytes = b :: rest ∧ m = Marker.ofByte b := by
  cases bytes with
  | nil =>
    obtain ⟨error, herror⟩ := hlaw.readMarker_nil
    rw [herror] at h
    cases h
  | cons b bytes =>
    rw [hlaw.readMarker_cons] at h
    cases h
    exact ⟨b, rfl, rfl⟩

/-- The first byte of an extension with a length of 32 bits. -/
lemma eq_of_ofByte_eq_ext32 {b : UInt8} (h : Marker.ofByte b = .ext32) : b = 0xc9 := by
  rw [Marker.ofByte] at h
  split_ifs at h
  split at h
  case h_9 heq => exact UInt8.toNat_inj.mp heq
  all_goals cases h

/-- Only the longest extension has more bytes than words of 32 bits hold. -/
lemma longExt_of_scalar (hw : 32 ≤ w) {width extra : ℕ} {value : Bytes → MessagePack.Value}
    {m : Marker} {rest tail len : Bytes} (hm : m.layout = .scalar width extra value)
    (hlen : chunk width rest = some (len, tail)) (hfit : 2 ^ w ≤ be len + extra) :
    w = 32 ∧ m = .ext32 ∧ rest = 0xff :: 0xff :: 0xff :: 0xff :: tail := by
  have hword : 2 ^ 32 ≤ 2 ^ w := Nat.pow_le_pow_right (by decide) hw
  have hextra := (m.layout_bounds.1 _ _ _ hm).2
  obtain ⟨rfl, hwidth⟩ := chunk_eq_some hlen
  have hlt := be_lt len
  rw [hwidth] at hlt
  have hm32 : m = .ext32 := by
    cases m <;> simp only [Marker.layout, Layout.scalar.injEq, reduceCtorEq] at hm <;>
      obtain ⟨rfl, rfl, -⟩ := hm <;>
      first
      | rfl
      | exfalso
        omega
  subst hm32
  simp only [Marker.layout, Layout.scalar.injEq] at hm
  obtain ⟨rfl, rfl, -⟩ := hm
  have hmax : be len = 2 ^ 32 - 1 := by omega
  have hle : 2 ^ w ≤ 2 ^ 32 := by omega
  refine ⟨?_, rfl, ?_⟩
  · have hw' := (Nat.pow_le_pow_iff_right (by decide)).mp hle
    omega
  · rw [eq_of_be_eq_max hwidth hmax]
    rfl

/-- A call whose marker announces more than the words hold is refused, unless that is the longest
extension. -/
lemma skipValue_of_announced (hlaw : rmp.Lawful) (hw : 32 ≤ w) {rest : Bytes} {m : Marker} {n : ℕ}
    (hmarker : rmp.readMarker bytes = .ok (m, rest)) (hannounced : announced rest m = some n)
    (hfit : 2 ^ w ≤ n) : skipValue rmp w (levels + 1) bytes = throw truncated ∨
      w = 32 ∧ ∃ tail, bytes = 0xc9 :: 0xff :: 0xff :: 0xff :: 0xff :: tail := by
  obtain ⟨b, rfl, rfl⟩ := eq_cons_of_readMarker hlaw hmarker
  rw [announced] at hannounced
  cases hm : (Marker.ofByte b).layout with
  | reserved => simp [hm] at hannounced
  | scalar width extra value =>
    simp only [hm, Option.map_eq_some_iff] at hannounced
    obtain ⟨⟨len, tail⟩, hlen, rfl⟩ := hannounced
    obtain ⟨hw32, hext, rfl⟩ := longExt_of_scalar hw hm hlen hfit
    obtain rfl := eq_of_ofByte_eq_ext32 hext
    exact .inr ⟨hw32, tail, rfl⟩
  | container width base kind =>
    simp only [hm, Option.map_eq_some_iff] at hannounced
    obtain ⟨⟨len, tail⟩, hlen, rfl⟩ := hannounced
    have hrefused := skipSize_container_refused hw hm hlen (Nat.not_lt.mpr hfit)
    exact .inl (by rw [skipValue_cons hlaw, hrefused, Checked.throw_bind])

/-- A call at the longest extension is made where such an extension is met. -/
lemma Calls.meetsLongExt (hlaw : rmp.Lawful) {levels' : ℕ} {tail : Bytes}
    (h : Calls rmp 32 levels bytes levels' tail) (hmeets : MeetsLongExt levels' tail) :
    MeetsLongExt levels bytes := by
  have hw : 32 ≤ 32 := le_rfl
  induction h with
  | self levels bytes => exact hmeets
  | inner hmarker hsize htake hk hskip _ ih =>
    obtain ⟨b, rfl, rfl⟩ := eq_cons_of_readMarker hlaw hmarker
    cases hm : (Marker.ofByte b).layout with
    | reserved =>
      rw [skipSize_reserved hm] at hsize
      exact absurd hsize.symm (Checked.pure_ne_throw _ _)
    | scalar width extra value =>
      obtain ⟨len, -, -, rfl⟩ := skipSize_scalar_inv hw hm hsize
      exact absurd hk (Nat.not_lt_zero _)
    | container width base kind =>
      obtain ⟨len, hlen, rfl, rfl⟩ := skipSize_container_inv hw hm hsize
      obtain ⟨rfl, hnil⟩ := chunk_eq_some (chunk_of_take htake)
      obtain rfl := List.length_eq_zero_iff.mp hnil
      obtain ⟨items, e, rfl, he, rfl, hdepth⟩ :=
        encodes_of_skipMany (fun h => encodes_of_skipValue hlaw hw h) hskip
      obtain ⟨rfl, hwidth⟩ := chunk_eq_some hlen
      rw [List.nil_append]
      refine .inside hm hwidth hk ?_ he hdepth (ih hmeets)
      by_contra hfit
      rw [skipSize_container_refused hw hm hlen hfit] at hsize
      exact absurd hsize.symm (Checked.pure_ne_throw _ _)

/-- Where the longest extension is met, a call is made at it. -/
lemma MeetsLongExt.exists_call (hlaw : rmp.Lawful) (h : MeetsLongExt levels bytes)
    (hbytes : bytes.length < 2 ^ 32) : ∃ levels' tail, Calls rmp 32 levels bytes (levels' + 1)
      (0xc9 :: 0xff :: 0xff :: 0xff :: 0xff :: tail) := by
  induction h with
  | here levels rest => exact ⟨levels, rest, .self _ _⟩
  | @inside levels width base b kind len e rest items hb hlen hcount hfit he hdepth _ ih =>
    simp only [List.length_cons, List.length_append] at hbytes
    obtain ⟨levels', tail, hcall⟩ := ih (by omega)
    have hnone : chunk 0 (e ++ rest) = some ([], e ++ rest) := chunk_append List.length_nil _
    exact ⟨levels', tail, .inner (hlaw.readMarker_cons _ _)
      (skipSize_container le_rfl hb (chunk_append hlen _) hfit) (take_of_chunk hnone) hcount
      (skipMany_of_encodes hlaw le_rfl he rest hdepth (.inr (by omega))) hcall⟩

/-- The first byte where the longest extension is met: its own, or that of a container. -/
lemma MeetsLongExt.cons_inv {b : UInt8} {rest : Bytes} (h : MeetsLongExt levels (b :: rest)) :
    (b = 0xc9 ∧ ∃ tail, rest = 0xff :: 0xff :: 0xff :: 0xff :: tail) ∨
      ∃ width base kind, (Marker.ofByte b).layout = .container width base kind := by
  generalize hbytes : b :: rest = bytes at h
  cases h with
  | here levels tail =>
    obtain ⟨rfl, rfl⟩ := List.cons.inj hbytes
    exact .inl ⟨rfl, tail, rfl⟩
  | inside hb =>
    obtain ⟨rfl, -⟩ := List.cons.inj hbytes
    exact .inr ⟨_, _, _, hb⟩

/-! ## Overflow -/

/-- A step that leaves the words stops what follows. -/
lemma bind_eq_overflow {α β : Type} {x : Checked α} {f : α → Checked β}
    (h : x >>= f = Checked.overflow) :
    x = Checked.overflow ∨ ∃ a, x = pure a ∧ f a = Checked.overflow := by
  rcases x with _ | (e | a)
  · exact .inl rfl
  · cases h
  · exact .inr ⟨a, rfl, h⟩

/-- Taking does not calculate. -/
lemma take_ne_overflow (rest : Bytes) (n : ℕ) : take rest n ≠ Checked.overflow := by
  intro h
  rw [take] at h
  split at h <;> cases h

/-- A loop leaves the words in one of its calls. -/
lemma exists_of_skipMany_overflow {skip : Bytes → Checked Bytes} {values : ℕ} :
    ∀ {entries : Bytes}, skipMany skip values entries = Checked.overflow →
      ∃ k tail, k < values ∧ skipMany skip k entries = pure tail ∧
        skip tail = Checked.overflow := by
  induction values with
  | zero => intro entries h; cases h
  | succ values ih =>
    intro entries h
    rcases bind_eq_overflow h with hfirst | ⟨entries', hfirst, hrest⟩
    · exact ⟨0, entries, Nat.succ_pos values, rfl, hfirst⟩
    · obtain ⟨k, tail, hk, hskip, htail⟩ := ih hrest
      exact ⟨k + 1, tail, Nat.succ_lt_succ hk, by rw [skipMany, hfirst, pure_bind, hskip], htail⟩

/-- The words are left at the marker of the longest extension only. -/
lemma longExt_of_skipSize_overflow (hw : 32 ≤ w) {m : Marker} {rest : Bytes}
    (h : skipSize w m rest = Checked.overflow) :
    w = 32 ∧ m = .ext32 ∧ ∃ tail, rest = 0xff :: 0xff :: 0xff :: 0xff :: tail := by
  cases hm : m.layout with
  | reserved =>
    rw [skipSize_reserved hm] at h
    cases h
  | scalar width extra value =>
    cases hlen : chunk width rest with
    | none =>
      rw [skipSize_of_chunk_none (.inl ⟨_, _, hm⟩) hlen] at h
      cases h
    | some p =>
      obtain ⟨len, tail⟩ := p
      rcases Nat.lt_or_ge (be len + extra) (2 ^ w) with hfit | hfit
      · rw [skipSize_scalar hw hm hlen hfit] at h
        cases h
      · obtain ⟨hw32, hext, hrest⟩ := longExt_of_scalar hw hm hlen hfit
        exact ⟨hw32, hext, tail, hrest⟩
  | container width base kind =>
    cases hlen : chunk width rest with
    | none =>
      rw [skipSize_of_chunk_none (.inr ⟨_, _, hm⟩) hlen] at h
      cases h
    | some p =>
      obtain ⟨len, tail⟩ := p
      by_cases hfit : kind.arity * (be len + base) < 2 ^ w
      · rw [skipSize_container hw hm hlen hfit] at h
        cases h
      · rw [skipSize_container_refused hw hm hlen hfit] at h
        cases h

/-- A call that leaves the words gets to the longest extension.

**Proof sketch.** Induction on the levels: the marker is that of the longest extension, or the first
value of a loop that leaves the words contains it. -/
lemma exists_call_of_overflow (hlaw : rmp.Lawful) (hw : 32 ≤ w)
    (h : skipValue rmp w levels bytes = Checked.overflow) :
    w = 32 ∧ ∃ levels' tail, Calls rmp w levels bytes (levels' + 1)
      (0xc9 :: 0xff :: 0xff :: 0xff :: 0xff :: tail) := by
  induction levels generalizing bytes with
  | zero => cases h
  | succ levels ih =>
    cases bytes with
    | nil =>
      obtain ⟨error, herror⟩ := hlaw.readMarker_nil
      rw [skipValue, herror] at h
      cases h
    | cons b bytes =>
      rw [skipValue_cons hlaw] at h
      rcases bind_eq_overflow h with hsize | ⟨⟨n, values, rest⟩, hsize, hbody⟩
      · obtain ⟨hw32, hext, tail, rfl⟩ := longExt_of_skipSize_overflow hw hsize
        obtain rfl := eq_of_ofByte_eq_ext32 hext
        exact ⟨hw32, levels, tail, .self _ _⟩
      · rcases bind_eq_overflow hbody with htake | ⟨⟨content, entries⟩, htake, hmany⟩
        · exact absurd htake (take_ne_overflow rest n)
        · obtain ⟨k, tail, hk, hskip, htail⟩ := exists_of_skipMany_overflow hmany
          obtain ⟨hw32, levels', tail', hcall⟩ := ih htail
          exact ⟨hw32, levels', tail', .inner (hlaw.readMarker_cons _ _) hsize htake hk hskip hcall⟩

/-! ## When everything fits -/

/-- With words of 32 or 64 bits, everything fits if the words have 64 bits, or no extension of
2 ^ 32 - 1 bytes begins where a value is expected, and only then. The length of the input is one
of the words. -/
theorem lengthsFit_iff (hlaw : rmp.Lawful) (hw : w = 32 ∨ w = 64) (hbytes : bytes.length < 2 ^ w) :
    LengthsFit rmp w bytes ↔ w = 64 ∨ ¬ MeetsLongExt (maxDepth + 1) bytes := by
  have hw32 : 32 ≤ w := by omega
  constructor
  · rintro ⟨hresults, -, -⟩
    rcases hw with rfl | rfl
    · refine .inr fun hmeets => ?_
      obtain ⟨levels', tail, hcall⟩ := hmeets.exists_call hlaw hbytes
      have hmem : 2 ^ 32 ∈ lengthResults (0xff :: 0xff :: 0xff :: 0xff :: tail) .ext32 :=
        mem_lengthResults_longExt tail
      exact absurd (hresults hcall (hlaw.readMarker_cons _ _) _ hmem) (Nat.lt_irrefl _)
    · exact .inl rfl
  · intro h
    have hnone : ∀ {levels' : ℕ} {tail : Bytes}, w = 32 →
        ¬ Calls rmp w (maxDepth + 1) bytes (levels' + 1)
          (0xc9 :: 0xff :: 0xff :: 0xff :: 0xff :: tail) := by
      rintro levels' tail rfl hcall
      rcases h with h | h
      · cases h
      · exact h (hcall.meetsLongExt hlaw (.here levels' tail))
    refine ⟨fun {levels tail rest m} hcall hmarker n hn => ?_,
      fun {levels n tail rest m} hcall hmarker hannounced hfit => ?_, fun hoverflow => ?_⟩
    · rcases lengthResults_lt hn with hlt | ⟨rfl, rfl, tail', rfl⟩
      · exact hlt.trans_le (Nat.pow_le_pow_right (by decide) hw32)
      · obtain ⟨b, rfl, hext⟩ := eq_cons_of_readMarker hlaw hmarker
        obtain rfl := eq_of_ofByte_eq_ext32 hext.symm
        rcases hw with rfl | rfl
        · exact absurd hcall (hnone rfl)
        · decide
    · rcases skipValue_of_announced hlaw hw32 hmarker hannounced hfit with
        hthrow | ⟨hw32, tail', rfl⟩
      · exact hcall.error hthrow
      · exact absurd hcall (hnone hw32)
    · obtain ⟨hw32, levels', tail, hcall⟩ := exists_call_of_overflow hlaw hw32 hoverflow
      exact hnone hw32 hcall

/-- The second longest extension fits into words of 32 bits. -/
theorem lengthsFit_iff_second_longest :
    LengthsFit Rmp.reference 32 [0xc9, 0xff, 0xff, 0xff, 0xfe] := by
  refine (lengthsFit_iff Rmp.reference_lawful (.inl rfl) (by decide)).mpr (.inr fun h => ?_)
  rcases h.cons_inv with ⟨-, tail, hrest⟩ | ⟨width, base, kind, hlayout⟩
  · simp at hrest
  · cases hlayout

/-- The longest extension does not fit into words of 32 bits. -/
theorem not_lengthsFit_longest : ¬ LengthsFit Rmp.reference 32 [0xc9, 0xff, 0xff, 0xff, 0xff] :=
  fun h => h.answered rfl

end

end Signalrr.Hub.MessagePackProtocol
