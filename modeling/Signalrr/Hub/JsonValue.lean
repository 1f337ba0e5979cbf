import Mathlib.Data.List.Induction
import Signalrr.Hub.Message

set_option relaxedAutoImplicit false
set_option autoImplicit false

/-!
# JSON values

What the client uses of `serde_json::Value` and of strings as bytes, and headers as hash maps.

## Main definitions

* `Signalrr.Hub.utf8`, `Signalrr.Hub.ofUtf8` — the bytes of a string and back.
* `Signalrr.Hub.Number.asI64`, `Signalrr.Hub.Value.asStr` and the others — the accessors.
* `Signalrr.Hub.Value.Valid` — what every value of the Rust type satisfies: keys in order, negative
  integers below zero, finite floats.
* `Signalrr.Hub.Value.depth` — how deep a value is nested.
* `Signalrr.Hub.insertMember` — inserting into the members of an object, which are kept in order.
* `Signalrr.Hub.Headers.insert`, `Signalrr.Hub.Headers.collect` — inserting into headers.

## Main results

* `Signalrr.Hub.lookup_insertMember` — looking up what has been inserted.
* `Signalrr.Hub.Headers.collect_eq` — headers with distinct keys are collected as they are.
-/

namespace Signalrr.Hub

/-! ## Strings as bytes -/

/-- The UTF-8 bytes of a string. -/
def utf8 (s : String) : Bytes := s.toByteArray.data.toList

/-- The string with the given UTF-8 bytes. -/
def ofUtf8 (bytes : Bytes) : Option String := String.fromUTF8? ⟨bytes.toArray⟩

@[simp] lemma ofUtf8_utf8 (s : String) : ofUtf8 (utf8 s) = some s := by
  have hvalid := s.isValidUTF8
  simp only [ofUtf8, utf8, Array.toArray_toList]
  rw [String.fromUTF8?, dif_pos hvalid]
  rfl

@[simp] lemma utf8_append (s t : String) : utf8 (s ++ t) = utf8 s ++ utf8 t := by
  simp [utf8]

/-! ## Numbers -/

namespace Number

/-- `Number::as_i64`. -/
def asI64 : Number → Option ℤ
  | posInt n => if n.toNat < 2 ^ 63 then some n.toNat else none
  | negInt n => some n.toInt
  | float _ => none

/-- `Number::as_u64`. -/
def asU64 : Number → Option ℕ
  | posInt n => some n.toNat
  | _ => none

/-- `Number::as_f64` on a number that is no integer. -/
def asF64 : Number → Option UInt64
  | float bits => some bits
  | _ => none

/-- The number of a signed 64-bit integer. -/
def ofInt (n : ℤ) : Number :=
  if 0 ≤ n then .posInt (UInt64.ofNat n.toNat) else .negInt (Int64.ofInt n)

/-- Negative integers are below zero and floats are finite. -/
def Valid : Number → Prop
  | posInt _ => True
  | negInt n => n.toInt < 0
  | float bits => bits.toNat / 2 ^ 52 % 2 ^ 11 ≠ 2 ^ 11 - 1

/-- A signed 64-bit integer is read back from its number. -/
lemma asI64_ofInt {n : ℤ} (hlow : -2 ^ 63 ≤ n) (hhigh : n < 2 ^ 63) : (ofInt n).asI64 = some n := by
  unfold ofInt
  split
  · have hn : (UInt64.ofNat n.toNat).toNat = n.toNat := by
      rw [UInt64.toNat_ofNat']
      omega
    rw [asI64, hn, if_pos (by omega), Int.toNat_of_nonneg ‹_›]
  · rw [asI64, Int64.toInt_ofInt_of_le hlow hhigh]

end Number

/-! ## Values -/

namespace Value

/-- `Value::as_i64`. -/
def asI64 : Value → Option ℤ
  | number n => n.asI64
  | _ => none

/-- `Value::as_str`. -/
def asStr : Value → Option String
  | string s => some s
  | _ => none

/-- `Value::as_bool`. -/
def asBool : Value → Option Bool
  | bool b => some b
  | _ => none

/-- `Value::as_array`. -/
def asArray : Value → Option (List Value)
  | array items => some items
  | _ => none

/-- `Value::as_object`. -/
def asObject : Value → Option (List (String × Value))
  | object members => some members
  | _ => none

end Value

mutual

/-- How deep a value is nested: scalars and empty containers not at all. -/
def Value.depth : Value → ℕ
  | .array items => depthItems items
  | .object members => depthMembers members
  | _ => 0

/-- One more than the depth of the deepest item. -/
def depthItems : List Value → ℕ
  | [] => 0
  | v :: vs => max (v.depth + 1) (depthItems vs)

/-- One more than the depth of the deepest member. -/
def depthMembers : List (String × Value) → ℕ
  | [] => 0
  | (_, v) :: members => max (v.depth + 1) (depthMembers members)

end

mutual

/-- What the types of `serde_json` guarantee: the keys of an object are distinct and in order, and
all numbers are valid. -/
def Value.Valid : Value → Prop
  | .number n => n.Valid
  | .array items => ValidItems items
  | .object members => (members.map Prod.fst).Pairwise (· < ·) ∧ ValidMembers members
  | _ => True

/-- All items are valid. -/
def ValidItems : List Value → Prop
  | [] => True
  | v :: vs => v.Valid ∧ ValidItems vs

/-- All values of members are valid. -/
def ValidMembers : List (String × Value) → Prop
  | [] => True
  | (_, v) :: members => v.Valid ∧ ValidMembers members

end

/-! ## Objects -/

/-- Inserting a member into an object: members are kept in the order of their keys. -/
def insertMember (key : String) (value : Value) : List (String × Value) → List (String × Value)
  | [] => [(key, value)]
  | (k, v) :: members =>
    if key < k then (key, value) :: (k, v) :: members
    else if key = k then (key, value) :: members
    else (k, v) :: insertMember key value members

/-- Looking up in an association list, first the first entry. -/
lemma lookup_cons_eq {α : Type} (key k : String) (a : α) (entries : List (String × α)) :
    ((k, a) :: entries).lookup key = if key = k then some a else entries.lookup key := by
  rw [List.lookup_cons]
  by_cases h : key = k
  · simp [h]
  · have hne : (key == k) = false := by simpa using h
    rw [hne, if_neg h]

/-- Looking up a member that has been inserted, and any other. -/
lemma lookup_insertMember (key : String) (value : Value) (members : List (String × Value))
    (k : String) :
    (insertMember key value members).lookup k =
      if k = key then some value else members.lookup k := by
  induction members with
  | nil => rw [insertMember, lookup_cons_eq]
  | cons member members ih =>
    obtain ⟨k', v⟩ := member
    rw [insertMember]
    split
    · rw [lookup_cons_eq]
    split
    · subst k'
      rw [lookup_cons_eq, lookup_cons_eq]
      by_cases hk : k = key
      · rw [if_pos hk, if_pos hk]
      · rw [if_neg hk, if_neg hk, if_neg hk]
    · rw [lookup_cons_eq, lookup_cons_eq, ih]
      by_cases hk : k = key
      · have hne : ¬ k = k' := by rwa [hk]
        rw [if_neg hne, if_pos hk, if_pos hk]
      · rw [if_neg hk, if_neg hk]

/-! ## Headers -/

namespace Headers

/-- Inserting a header: the value of a key that is there is replaced. -/
def insert (headers : Headers) (key value : String) : Headers :=
  if headers.any (fun h => h.1 == key) then
    headers.map fun h => if h.1 = key then (key, value) else h
  else headers ++ [(key, value)]

/-- The headers with the given entries; a later entry replaces an earlier one. -/
def collect (entries : List (String × String)) : Headers :=
  entries.foldl (fun headers entry => headers.insert entry.1 entry.2) []

/-- Headers with the same value under every key. -/
def Same (a b : Headers) : Prop := ∀ key, List.lookup key a = List.lookup key b

lemma Same.refl (a : Headers) : a.Same a := fun _ => rfl

/-- A header with a new key is inserted behind the others. -/
lemma insert_of_notMem {headers : Headers} {key : String} (h : key ∉ headers.map Prod.fst)
    (value : String) : headers.insert key value = headers ++ [(key, value)] := by
  have hany : ¬ (headers.any (fun h => h.1 == key) = true) := by
    rw [List.any_eq_true]
    rintro ⟨entry, hmem, heq⟩
    exact h (List.mem_map.mpr ⟨entry, hmem, by simpa using heq⟩)
  rw [insert, if_neg hany]

/-- Headers with distinct keys are collected as they are. -/
lemma collect_eq {headers : Headers} (h : (headers.map Prod.fst).Nodup) :
    collect headers = headers := by
  induction headers using List.reverseRecOn with
  | nil => rfl
  | append_singleton headers entry ih =>
    rw [List.map_append, List.nodup_append] at h
    obtain ⟨hnodup, -, hdisjoint⟩ := h
    have hnew : entry.1 ∉ headers.map Prod.fst := by
      intro hmem
      exact hdisjoint _ hmem _ (by simp) rfl
    have hinit : headers.foldl (fun headers entry => Headers.insert headers entry.1 entry.2) [] =
        headers := ih hnodup
    rw [collect, List.foldl_append, hinit]
    exact insert_of_notMem hnew entry.2

end Headers

end Signalrr.Hub
