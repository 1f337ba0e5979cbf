import Signalrr.MessagePack.Format

set_option relaxedAutoImplicit false
set_option autoImplicit false

/-!
# Reading MessagePack

A reader that follows the first byte of a value, and the proof that it reads exactly the encodings.

## Main definitions

* `MessagePack.read` — reads one value, nested less deep than a number of levels.
* `MessagePack.readMany` — reads values one behind the other.
* `MessagePack.readHeader` — reads the header of a container.

## Main results

* `MessagePack.readMany_of_encodes` — what is encoded is read, unless it is nested too deep.
* `MessagePack.read_eq_some` — reading succeeds exactly on an encoding in front.
* `MessagePack.Encodes.unique` — a byte string begins with at most one encoding.
-/

namespace MessagePack

/-! ## The reader -/

/-- The first `n` bytes and the rest. -/
def chunk (n : ℕ) (bytes : List UInt8) : Option (List UInt8 × List UInt8) :=
  if n ≤ bytes.length then some (bytes.take n, bytes.drop n) else none

/-- Reads `n` values one behind the other. -/
def readMany (readOne : List UInt8 → Option (Value × List UInt8)) :
    ℕ → List UInt8 → Option (List Value × List UInt8)
  | 0, bytes => some ([], bytes)
  | n + 1, bytes =>
    (readOne bytes).bind fun (v, bytes) =>
      (readMany readOne n bytes).map fun (vs, rest) => (v :: vs, rest)

/-- Reads one value that is nested less deep than a number of levels. -/
def read : ℕ → List UInt8 → Option (Value × List UInt8)
  | 0, _ => none
  | _ + 1, [] => none
  | levels + 1, b :: bytes =>
    match (Marker.ofByte b).layout with
    | .reserved => none
    | .scalar width extra value =>
      (chunk width bytes).bind fun (len, bytes) =>
        (chunk (be len + extra) bytes).map fun (content, rest) => (value content, rest)
    | .container width base kind =>
      (chunk width bytes).bind fun (len, bytes) =>
        (readMany (read levels) (kind.arity * (be len + base)) bytes).map fun (items, rest) =>
          (kind.value items, rest)

/-! ## What is encoded is read -/

/-- A chunk in front. -/
lemma chunk_append {n : ℕ} {a : List UInt8} (h : a.length = n) (b : List UInt8) :
    chunk n (a ++ b) = some (a, b) := by
  subst h
  rw [chunk, if_pos (by simp), List.take_left, List.drop_left]

/-- A chunk is in front. -/
lemma chunk_eq_some {n : ℕ} {bytes a b : List UInt8} (h : chunk n bytes = some (a, b)) :
    bytes = a ++ b ∧ a.length = n := by
  unfold chunk at h
  split at h
  · obtain ⟨rfl, rfl⟩ : bytes.take n = a ∧ bytes.drop n = b := by simpa using h
    exact ⟨(List.take_append_drop n bytes).symm, by simpa using ‹n ≤ bytes.length›⟩
  · cases h

/-- Reading the encoding of a scalar. -/
lemma read_scalar {b : UInt8} {width extra : ℕ} {value : List UInt8 → Value}
    {len content : List UInt8} (hb : (Marker.ofByte b).layout = .scalar width extra value)
    (hlen : len.length = width) (hcontent : content.length = be len + extra) (levels : ℕ)
    (rest : List UInt8) :
    read (levels + 1) (b :: (len ++ (content ++ rest))) = some (value content, rest) := by
  rw [read]
  simp only [hb, chunk_append hlen, Option.bind_some, chunk_append hcontent, Option.map_some]

/-- Reading the encoding of a container: reading what is in it. -/
lemma read_container {b : UInt8} {width base : ℕ} {kind : Kind} {len : List UInt8}
    (hb : (Marker.ofByte b).layout = .container width base kind) (hlen : len.length = width)
    (levels : ℕ) (rest : List UInt8) :
    read (levels + 1) (b :: (len ++ rest)) =
      (readMany (read levels) (kind.arity * (be len + base)) rest).map fun (items, rest) =>
        (kind.value items, rest) := by
  rw [read]
  simp only [hb, chunk_append hlen, Option.bind_some]

/-- No level is left for a value. -/
lemma readMany_zero {n : ℕ} (bytes : List UInt8) : readMany (read 0) (n + 1) bytes = none := by
  rw [readMany, read, Option.bind_none]

/-- What is encoded is read, unless it is nested too deep.

**Proof sketch.** Induction on the encoding. A container is nested one deeper than what is in it and
reads that with one level less. -/
lemma readMany_of_encodes {vs : List Value} {e : List UInt8} (h : Encodes vs e) (levels : ℕ)
    (rest : List UInt8) :
    readMany (read levels) vs.length (e ++ rest) =
      if ∀ v ∈ vs, v.depth < levels then some (vs, rest) else none := by
  induction h generalizing levels rest with
  | nil => simp [readMany]
  | @scalar b width extra value len content vs tail hb hlen hcontent _ ih =>
    cases levels with
    | zero =>
      rw [List.length_cons, readMany_zero,
        if_neg fun h => Nat.not_lt_zero _ (h _ List.mem_cons_self)]
    | succ levels =>
      have hdepth : (value content).depth < levels + 1 := by
        rw [(Marker.depth_of_scalar hb content).1]
        exact Nat.succ_pos levels
      simp only [List.cons_append, List.append_assoc, List.length_cons, readMany,
        read_scalar hb hlen hcontent, Option.bind_some, ih, List.forall_mem_cons, hdepth, true_and]
      split <;> rfl
  | @container b width base kind len items inner vs tail hb hlen hcount _ _ ihitems ih =>
    cases levels with
    | zero =>
      rw [List.length_cons, readMany_zero,
        if_neg fun h => Nat.not_lt_zero _ (h _ List.mem_cons_self)]
    | succ levels =>
      have hread := ihitems levels (tail ++ rest)
      rw [hcount] at hread
      simp only [List.cons_append, List.append_assoc, List.length_cons, readMany,
        read_container hb hlen, hread, List.forall_mem_cons, Kind.depth_value_lt hcount]
      by_cases hitems : ∀ v ∈ items, v.depth < levels
      · simp only [if_pos hitems, Option.map_some, Option.bind_some, ih]
        by_cases hrest : ∀ v ∈ vs, v.depth < levels + 1
        · rw [if_pos hrest, if_pos ⟨hitems, hrest⟩, Option.map_some]
        · rw [if_neg hrest, if_neg (fun h => hrest h.2), Option.map_none]
      · rw [if_neg hitems, if_neg (fun h => hitems h.1), Option.map_none, Option.bind_none]

/-- Reading an encoded value. -/
lemma read_of_encodes {v : Value} {e : List UInt8} (h : Encodes [v] e) (levels : ℕ)
    (rest : List UInt8) :
    read levels (e ++ rest) = if v.depth < levels then some (v, rest) else none := by
  have hmany := readMany_of_encodes h levels rest
  simp only [List.length_singleton, readMany, List.forall_mem_singleton] at hmany
  by_cases hdepth : v.depth < levels
  · rw [if_pos hdepth] at hmany ⊢
    obtain ⟨⟨v', rest'⟩, hread, hv⟩ := Option.bind_eq_some_iff.mp hmany
    obtain ⟨rfl, rfl⟩ : v' = v ∧ rest' = rest := by simpa using hv
    exact hread
  · rw [if_neg hdepth] at hmany ⊢
    cases hread : read levels (e ++ rest) with
    | none => rfl
    | some p => simp [hread] at hmany

/-! ## What is read is encoded -/

/-- Values that are read one behind the other are encoded one behind the other. -/
lemma encodes_of_readMany {readOne : List UInt8 → Option (Value × List UInt8)} {levels : ℕ}
    (hone : ∀ {bytes v rest}, readOne bytes = some (v, rest) →
      ∃ e, bytes = e ++ rest ∧ Encodes [v] e ∧ v.depth < levels) {n : ℕ} :
    ∀ {bytes : List UInt8} {vs : List Value} {rest : List UInt8},
      readMany readOne n bytes = some (vs, rest) → vs.length = n ∧
        ∃ e, bytes = e ++ rest ∧ Encodes vs e ∧ ∀ v ∈ vs, v.depth < levels := by
  induction n with
  | zero =>
    intro bytes vs rest h
    obtain ⟨rfl, rfl⟩ : [] = vs ∧ bytes = rest := by simpa [readMany] using h
    exact ⟨rfl, [], rfl, .nil, by simp⟩
  | succ n ih =>
    intro bytes vs rest h
    obtain ⟨⟨v, bytes'⟩, hv, h⟩ := Option.bind_eq_some_iff.mp h
    obtain ⟨⟨vs', rest'⟩, hvs, h⟩ := Option.map_eq_some_iff.mp h
    obtain ⟨rfl, rfl⟩ : v :: vs' = vs ∧ rest' = rest := by simpa using h
    obtain ⟨e, rfl, he, hdepth⟩ := hone hv
    obtain ⟨hlen, e', rfl, he', hdepths⟩ := ih hvs
    exact ⟨by rw [List.length_cons, hlen], e ++ e', by rw [List.append_assoc], he.append he',
      List.forall_mem_cons.mpr ⟨hdepth, hdepths⟩⟩

/-- A value that is read is encoded in front.

**Proof sketch.** Induction on the levels, one case for each layout. -/
lemma encodes_of_read {levels : ℕ} {bytes rest : List UInt8} {v : Value}
    (h : read levels bytes = some (v, rest)) :
    ∃ e, bytes = e ++ rest ∧ Encodes [v] e ∧ v.depth < levels := by
  induction levels generalizing bytes v rest with
  | zero => simp [read] at h
  | succ levels ih =>
    cases bytes with
    | nil => simp [read] at h
    | cons b bytes =>
      rw [read] at h
      cases hb : (Marker.ofByte b).layout with
      | reserved => simp [hb] at h
      | scalar width extra value =>
        simp only [hb] at h
        obtain ⟨⟨len, bytes'⟩, hlen, h⟩ := Option.bind_eq_some_iff.mp h
        obtain ⟨⟨content, rest'⟩, hcontent, h⟩ := Option.map_eq_some_iff.mp h
        obtain ⟨rfl, rfl⟩ : value content = v ∧ rest' = rest := by simpa using h
        obtain ⟨rfl, hwidth⟩ := chunk_eq_some hlen
        obtain ⟨rfl, hsize⟩ := chunk_eq_some hcontent
        refine ⟨_, ?_, .scalar hb hwidth hsize .nil, ?_⟩
        · simp
        · rw [(Marker.depth_of_scalar hb content).1]
          exact Nat.succ_pos levels
      | container width base kind =>
        simp only [hb] at h
        obtain ⟨⟨len, bytes'⟩, hlen, h⟩ := Option.bind_eq_some_iff.mp h
        obtain ⟨⟨items, rest'⟩, hitems, h⟩ := Option.map_eq_some_iff.mp h
        obtain ⟨rfl, rfl⟩ : kind.value items = v ∧ rest' = rest := by simpa using h
        obtain ⟨rfl, hwidth⟩ := chunk_eq_some hlen
        obtain ⟨hcount, e, rfl, he, hdepth⟩ := encodes_of_readMany ih hitems
        refine ⟨_, ?_, .container hb hwidth hcount he .nil, ?_⟩
        · simp
        · exact (Kind.depth_value_lt hcount).mpr hdepth

/-- Reading succeeds exactly on an encoding in front that is not nested too deep. -/
lemma read_eq_some {levels : ℕ} {bytes rest : List UInt8} {v : Value} :
    read levels bytes = some (v, rest) ↔
      ∃ e, bytes = e ++ rest ∧ Encodes [v] e ∧ v.depth < levels := by
  refine ⟨encodes_of_read, ?_⟩
  rintro ⟨e, rfl, he, hdepth⟩
  rw [read_of_encodes he, if_pos hdepth]

/-- Reads the header of a container: the number of its entries. -/
def readHeader (kind : Kind) : List UInt8 → Option (ℕ × List UInt8)
  | [] => none
  | b :: bytes =>
    match (Marker.ofByte b).layout with
    | .container width base kind' =>
      if kind' = kind then
        (chunk width bytes).map fun (len, rest) => (be len + base, rest)
      else none
    | _ => none

/-- Reading a header succeeds exactly on a header in front. -/
lemma readHeader_eq_some {kind : Kind} {bytes rest : List UInt8} {n : ℕ} :
    readHeader kind bytes = some (n, rest) ↔ ∃ p, bytes = p ++ rest ∧ Header kind n p := by
  constructor
  · intro h
    cases bytes with
    | nil => cases h
    | cons b bytes =>
      rw [readHeader] at h
      split at h
      · next width base kind' hb =>
        split at h
        · subst kind'
          obtain ⟨⟨len, rest'⟩, hlen, h⟩ := Option.map_eq_some_iff.mp h
          obtain ⟨rfl, rfl⟩ : be len + base = n ∧ rest' = rest := by simpa using h
          obtain ⟨rfl, hwidth⟩ := chunk_eq_some hlen
          exact ⟨b :: len, rfl, b, width, base, len, hb, hwidth, rfl, rfl⟩
        · cases h
      · cases h
  · rintro ⟨p, rfl, b, width, base, len, hb, hlen, rfl, rfl⟩
    rw [List.cons_append, readHeader]
    simp only [hb, if_true, chunk_append hlen, Option.map_some]

/-- A byte string begins with at most one encoding. -/
lemma Encodes.unique {v v' : Value} {e e' rest rest' : List UInt8} (h : Encodes [v] e)
    (h' : Encodes [v'] e') (heq : e ++ rest = e' ++ rest') : v = v' ∧ e = e' ∧ rest = rest' := by
  have hread := read_of_encodes h (max v.depth v'.depth + 1) rest
  rw [heq, read_of_encodes h', if_pos (by omega), if_pos (by omega)] at hread
  obtain ⟨rfl, rfl⟩ : v' = v ∧ rest' = rest := by simpa using hread
  exact ⟨rfl, List.append_cancel_right heq, rfl⟩

end MessagePack
