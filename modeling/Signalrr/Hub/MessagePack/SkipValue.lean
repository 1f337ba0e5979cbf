import Signalrr.Hub.MessagePack.ParsedArguments

set_option relaxedAutoImplicit false
set_option autoImplicit false

/-!
# Skipping one value

`skip_value` of `src/hub/messagepack/parse.rs` advances past one MessagePack value without decoding
it, and refuses what is nested deeper than `MAX_DEPTH`.

## Main definitions

* `Signalrr.Hub.MessagePackProtocol.skipValueAt` — `skip_value` at a depth.
* `Signalrr.Hub.MessagePackProtocol.skipCalls` — how many calls of `skip_value` a call makes.

## Main results

* `Signalrr.Hub.MessagePackProtocol.skipValueAt_eq` — one call, with its depth counted up.
* `Signalrr.Hub.MessagePackProtocol.skipValueAt_eq_pure_iff` — what is skipped is one value.
* `Signalrr.Hub.MessagePackProtocol.skipCalls_le` — how many calls there are at most.

## Design

A loop of `skip_value` runs up to 2 ^ 33 - 2 times, and is left at the first error. The calls are
counted to see that it is the input that ends it: every call but the last takes a byte away.
-/

namespace Signalrr.Hub.MessagePackProtocol

open MessagePack (Encodes)

/-! ## Depths -/

/-- `skip_value` at a depth. -/
def skipValueAt (rmp : Rmp) (w depth : ℕ) (rest : Bytes) : Checked Bytes :=
  skipValue rmp w (maxDepth + 1 - depth) rest

section

variable {rmp : Rmp} {w : ℕ}

/-- A call at a depth that is accepted makes its calls one deeper. -/
lemma skipValueAt_eq (depth : ℕ) (rest : Bytes) :
    skipValueAt rmp w depth rest =
      if maxDepth < depth then throw (.invalidPayload "messagepack nesting is too deep")
      else
        match rmp.readMarker rest with
        | .error _ => throw truncated
        | .ok (marker, rest) => (do
          let (bytes, values, rest) ← skipSize w marker rest
          let (_, rest) ← take rest bytes
          skipMany (skipValueAt rmp w (depth + 1)) values rest) := by
  by_cases hdepth : maxDepth < depth
  · rw [if_pos hdepth, skipValueAt, show maxDepth + 1 - depth = 0 by omega, skipValue]
  · rw [if_neg hdepth, skipValueAt,
      show maxDepth + 1 - depth = maxDepth + 1 - (depth + 1) + 1 by omega, skipValue]
    rfl

/-- At a depth, exactly the values that are nested less deep than the levels that are left are
skipped. -/
lemma skipValueAt_eq_pure_iff (hlaw : rmp.Lawful) (hw : 64 ≤ w) {depth : ℕ} {bytes rest : Bytes} :
    skipValueAt rmp w depth bytes = pure rest ↔
      ∃ v e, bytes = e ++ rest ∧ Encodes [v] e ∧ v.depth + depth ≤ maxDepth := by
  constructor
  · intro h
    obtain ⟨v, e, hbytes, he, hdepth⟩ := encodes_of_skipValue hlaw (by omega) h
    exact ⟨v, e, hbytes, he, by omega⟩
  · rintro ⟨v, e, rfl, he, hdepth⟩
    exact skipValue_of_encodes hlaw (by omega) he (by omega) (.inl hw) rest

/-- With words of 64 bits, a call skips a value or is an error. -/
lemma exists_skipValueAt_eq (hlaw : rmp.Lawful) (depth : ℕ) (bytes : Bytes) :
    (∃ rest, skipValueAt rmp 64 depth bytes = pure rest) ∨
      ∃ error, skipValueAt rmp 64 depth bytes = throw error := by
  cases hread : MessagePack.read (maxDepth + 1 - depth) bytes with
  | none => exact .inr (skipValue_of_read_none hlaw hread)
  | some p =>
    obtain ⟨v, rest⟩ := p
    obtain ⟨e, rfl, he, hdepth⟩ := MessagePack.encodes_of_read hread
    exact .inl ⟨rest, skipValue_of_encodes hlaw (by decide) he hdepth (.inl le_rfl) rest⟩

/-- What is skipped takes at least one byte. -/
lemma length_lt_of_skipValue (hlaw : rmp.Lawful) (hw : 32 ≤ w) {levels : ℕ} {bytes rest : Bytes}
    (h : skipValue rmp w levels bytes = pure rest) : rest.length < bytes.length := by
  obtain ⟨v, e, rfl, he, -⟩ := encodes_of_skipValue hlaw hw h
  have hpos : 1 ≤ e.length := he.length_le
  rw [List.length_append]
  omega

/-- A value that is cut off is an error.

**Proof sketch.** If the bytes that are left held a value, it would be the whole value, since no
encoding begins with another one. -/
lemma exists_error_of_prefix (hlaw : rmp.Lawful) {v : MessagePack.Value} {e p : Bytes}
    (he : Encodes [v] e) (hp : p <+: e) (hne : p ≠ e) :
    ∃ error, skipValueAt rmp 64 0 p = throw error := by
  obtain ⟨tail, rfl⟩ := hp
  refine (exists_skipValueAt_eq hlaw 0 p).resolve_left ?_
  rintro ⟨rest, hskip⟩
  obtain ⟨v', e', rfl, he', -⟩ := (skipValueAt_eq_pure_iff hlaw le_rfl).mp hskip
  have hbytes : (e' ++ rest ++ tail) ++ [] = e' ++ (rest ++ tail) := by simp
  have hnil : ([] : Bytes) = rest ++ tail := (MessagePack.Encodes.unique he he' hbytes).2.2
  obtain ⟨rfl, rfl⟩ := List.append_eq_nil_iff.mp hnil.symm
  exact hne (by simp)

end

/-! ## Calls -/

/-- What a step with an answer makes of it, nothing after an error. -/
def andCalls {α : Type} (x : Checked α) (calls : α → ℕ) : ℕ :=
  match x with
  | some (.ok a) => calls a
  | _ => 0

/-- The calls of a loop, which is left at the first error. -/
def callsMany (skip : Bytes → Checked Bytes) (calls : Bytes → ℕ) : ℕ → Bytes → ℕ
  | 0, _ => 0
  | n + 1, rest => calls rest + andCalls (skip rest) (callsMany skip calls n)

/-- The calls of `skip_value` that a call makes, itself included, with `levels` levels left. -/
def skipCalls (rmp : Rmp) (w : ℕ) : ℕ → Bytes → ℕ
  | 0, _ => 1
  | levels + 1, rest =>
    match rmp.readMarker rest with
    | .error _ => 1
    | .ok (marker, rest) =>
      1 + andCalls (skipSize w marker rest) fun (bytes, values, rest) =>
        andCalls (take rest bytes) fun (_, rest) =>
          callsMany (skipValue rmp w levels) (skipCalls rmp w levels) values rest

section

variable {rmp : Rmp} {w : ℕ}

/-- A bound on the calls: as many as bytes are taken away by calls that succeed, and one more. -/
structure CallsBounded (skip : Bytes → Checked Bytes) (calls : Bytes → ℕ) : Prop where
  ok : ∀ {bytes rest}, skip bytes = pure rest → calls bytes + rest.length ≤ bytes.length
  any : ∀ bytes, calls bytes ≤ bytes.length + 1

@[simp] lemma andCalls_pure {α : Type} (a : α) (calls : α → ℕ) :
    andCalls (pure a) calls = calls a := rfl

/-- A bound on what is made of every answer. -/
lemma andCalls_le {α : Type} {x : Checked α} {calls : α → ℕ} {n : ℕ}
    (h : ∀ a, x = pure a → calls a ≤ n) : andCalls x calls ≤ n := by
  rcases x with _ | (e | a)
  · exact Nat.zero_le n
  · exact Nat.zero_le n
  · exact h a rfl

/-- A loop of bounded calls is bounded. -/
lemma CallsBounded.many {skip : Bytes → Checked Bytes} {calls : Bytes → ℕ}
    (h : CallsBounded skip calls) (n : ℕ) :
    CallsBounded (skipMany skip n) (callsMany skip calls n) := by
  induction n with
  | zero =>
    refine ⟨fun {bytes rest} hskip => ?_, fun bytes => Nat.zero_le _⟩
    obtain rfl := Checked.pure_inj.mp hskip
    exact (Nat.zero_add _).le
  | succ n ih =>
    refine ⟨fun {bytes rest} hskip => ?_, fun bytes => ?_⟩
    · obtain ⟨bytes', hfirst, hmany⟩ := Checked.bind_eq_pure.mp hskip
      have hcalls := h.ok hfirst
      have hrest := ih.ok hmany
      rw [callsMany, hfirst, andCalls_pure]
      omega
    · have hfirst : calls bytes ≤ bytes.length + 1 := h.any bytes
      have hand : andCalls (skip bytes) (callsMany skip calls n) ≤ bytes.length + 1 - calls bytes :=
        andCalls_le fun bytes' hskip => by
          have hcalls := h.ok hskip
          have hrest := ih.any bytes'
          omega
      rw [callsMany]
      omega

/-- What follows a marker takes no bytes back. -/
lemma length_le_of_skipSize {m : MessagePack.Marker} {n values : ℕ} {rest tail : Bytes}
    (hw : 32 ≤ w) (h : skipSize w m rest = pure (n, values, tail)) :
    tail.length ≤ rest.length := by
  cases hm : m.layout with
  | reserved =>
    rw [skipSize_reserved hm] at h
    exact absurd h.symm (Checked.pure_ne_throw _ _)
  | scalar width extra value =>
    obtain ⟨len, hlen, -, -⟩ := skipSize_scalar_inv hw hm h
    obtain ⟨rfl, -⟩ := MessagePack.chunk_eq_some hlen
    rw [List.length_append]
    omega
  | container width base kind =>
    obtain ⟨len, hlen, -, -⟩ := skipSize_container_inv hw hm h
    obtain ⟨rfl, -⟩ := MessagePack.chunk_eq_some hlen
    rw [List.length_append]
    omega

/-- Taking takes no bytes back. -/
lemma length_le_of_take {n : ℕ} {head tail rest : Bytes} (h : take rest n = pure (head, tail)) :
    tail.length ≤ rest.length := by
  obtain ⟨rfl, -⟩ := MessagePack.chunk_eq_some (chunk_of_take h)
  rw [List.length_append]
  omega

/-- The calls behind the first byte. -/
lemma skipCalls_cons (hlaw : rmp.Lawful) (levels : ℕ) (b : UInt8) (bytes : Bytes) :
    skipCalls rmp w (levels + 1) (b :: bytes) =
      1 + andCalls (skipSize w (MessagePack.Marker.ofByte b) bytes) fun (n, values, rest) =>
        andCalls (take rest n) fun (_, rest) =>
          callsMany (skipValue rmp w levels) (skipCalls rmp w levels) values rest := by
  rw [skipCalls, hlaw.readMarker_cons]

/-- The calls of `skip_value` are bounded by the bytes it is given.

**Proof sketch.** Induction on the levels: the marker pays for the call itself, and what follows it
for the calls of the loop. -/
lemma callsBounded_skipCalls (hlaw : rmp.Lawful) (hw : 32 ≤ w) (levels : ℕ) :
    CallsBounded (skipValue rmp w levels) (skipCalls rmp w levels) := by
  induction levels with
  | zero =>
    refine ⟨fun h => absurd h.symm (Checked.pure_ne_throw _ _), fun bytes => ?_⟩
    rw [skipCalls]
    omega
  | succ levels ih =>
    refine ⟨fun {bytes rest} h => ?_, fun bytes => ?_⟩
    · cases bytes with
      | nil => exact absurd (length_lt_of_skipValue hlaw hw h) (Nat.not_lt_zero _)
      | cons b bytes =>
        rw [skipValue_cons hlaw] at h
        obtain ⟨⟨n, values, tail⟩, hsize, htail⟩ := Checked.bind_eq_pure.mp h
        obtain ⟨⟨content, tail'⟩, htake, hmany⟩ := Checked.bind_eq_pure.mp htail
        have hlen := length_le_of_skipSize hw hsize
        have hlen' := length_le_of_take htake
        have hcalls := (ih.many values).ok hmany
        simp only [skipCalls_cons hlaw, hsize, andCalls_pure, htake, List.length_cons]
        omega
    · cases bytes with
      | nil =>
        obtain ⟨error, herror⟩ := hlaw.readMarker_nil
        simp [skipCalls, herror]
      | cons b bytes =>
        rw [skipCalls_cons hlaw, List.length_cons, Nat.add_comm]
        refine Nat.succ_le_succ (andCalls_le ?_)
        rintro ⟨n, values, tail⟩ hsize
        refine andCalls_le ?_
        rintro ⟨content, tail'⟩ htake
        have hlen := length_le_of_skipSize hw hsize
        have hlen' := length_le_of_take htake
        have hcalls := (ih.many values).any tail'
        exact hcalls.trans (by omega)

/-- There are at most as many calls as bytes, and one more. -/
lemma skipCalls_le (hlaw : rmp.Lawful) (hw : 32 ≤ w) (levels : ℕ) (bytes : Bytes) :
    skipCalls rmp w levels bytes ≤ bytes.length + 1 :=
  (callsBounded_skipCalls hlaw hw levels).any bytes

/-! ## One value -/

/-- With words of 64 bits, exactly the values that are nested at most `MAX_DEPTH` deep are skipped,
as the first bytes of any string, and everything else is an error, a value that is cut off among
it. A call that succeeds takes at least one byte away, and there are at most as many calls as bytes,
and one more. -/
theorem skipValueAt_accepts_one_value (hlaw : rmp.Lawful) :
    (∀ bytes rest, skipValueAt rmp 64 0 bytes = pure rest ↔
      ∃ v e, bytes = e ++ rest ∧ Encodes [v] e ∧ v.depth ≤ 512) ∧
    (∀ bytes, (¬ ∃ v e rest, bytes = e ++ rest ∧ Encodes [v] e ∧ v.depth ≤ 512) →
      ∃ error, skipValueAt rmp 64 0 bytes = throw error) ∧
    (∀ v e p, Encodes [v] e → p <+: e → p ≠ e →
      ∃ error, skipValueAt rmp 64 0 p = throw error) ∧
    (∀ bytes, skipCalls rmp 64 (maxDepth + 1) bytes ≤ bytes.length + 1) ∧
    ∀ depth bytes rest, skipValueAt rmp 64 depth bytes = pure rest →
      rest.length < bytes.length := by
  refine ⟨fun bytes rest => skipValueAt_eq_pure_iff hlaw le_rfl, fun bytes hnone => ?_,
    fun v e p he hp hne => exists_error_of_prefix hlaw he hp hne,
    fun bytes => skipCalls_le hlaw (by decide) _ bytes,
    fun depth bytes rest hskip => length_lt_of_skipValue hlaw (by decide) hskip⟩
  refine (exists_skipValueAt_eq hlaw 0 bytes).resolve_left ?_
  rintro ⟨rest, hskip⟩
  obtain ⟨v, e, hbytes, he, hdepth⟩ := (skipValueAt_eq_pure_iff hlaw le_rfl).mp hskip
  exact hnone ⟨v, e, rest, hbytes, he, hdepth⟩

/-- A map of one entry is skipped, and is an error without its last byte. -/
theorem skipValueAt_accepts_one_value_map :
    skipValueAt Rmp.reference 64 0 [0x81, 0xa1, 0x6b, 0xc3, 0x07] = pure [0x07] ∧
      ∃ error, skipValueAt Rmp.reference 64 0 [0x81, 0xa1, 0x6b] = throw error := by
  have htrue : Encodes [.boolean true] [0xc3] :=
    @Encodes.scalar 0xc3 0 0 _ [] [] _ _ rfl rfl rfl .nil
  have hentry : Encodes [.string [0x6b], .boolean true] [0xa1, 0x6b, 0xc3] :=
    @Encodes.scalar 0xa1 0 1 _ [] [0x6b] _ _ rfl rfl rfl htrue
  have hmap : Encodes [.map [(.string [0x6b], .boolean true)]] [0x81, 0xa1, 0x6b, 0xc3] :=
    @Encodes.container 0x81 0 1 .map [] _ _ _ _ rfl rfl rfl hentry .nil
  obtain ⟨haccepts, -, hprefix, -, -⟩ := skipValueAt_accepts_one_value Rmp.reference_lawful
  exact ⟨(haccepts _ _).mpr ⟨_, _, rfl, hmap, by decide⟩,
    hprefix _ _ _ hmap ⟨[0xc3], rfl⟩ (by decide)⟩

end

end Signalrr.Hub.MessagePackProtocol
