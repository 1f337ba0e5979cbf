import Mathlib.Data.List.Basic
import Mathlib.Tactic.Ring
import Mathlib.Tactic.Linarith

set_option relaxedAutoImplicit false
set_option autoImplicit false

/-!
# Consecutively numbered lists

A queue whose entries carry the consecutive numbers `n + 1, n + 2, …` of a counter. Entries
leave at the front and enter at the back, so the numbers stay consecutive and the entries above
a threshold are always a final segment.

## Main definitions

* `Numbering.Numbered` — the entries of a list carry consecutive numbers.

## Main results

* `Numbering.Numbered.concat` — entering at the back.
* `Numbering.Numbered.filter_lt` — the entries above a threshold are a final segment of the
  list, again numbered consecutively.
-/

namespace Numbering

variable {α : Type*} (num : α → ℤ)

/-- The entries of the list carry the numbers `n + 1, n + 2, …` in order. -/
def Numbered : ℤ → List α → Prop
  | _, [] => True
  | n, a :: l => num a = n + 1 ∧ Numbered (n + 1) l

@[simp] lemma numbered_nil (n : ℤ) : Numbered num n [] := trivial

@[simp] lemma numbered_cons (n : ℤ) (a : α) (l : List α) :
    Numbered num n (a :: l) ↔ num a = n + 1 ∧ Numbered num (n + 1) l := Iff.rfl

variable {num}

/-- The entries of a mapped list are numbered by the composition. -/
lemma numbered_map {β : Type*} (f : β → α) (n : ℤ) (l : List β) :
    Numbered num n (l.map f) ↔ Numbered (num ∘ f) n l := by
  induction l generalizing n with
  | nil => simp
  | cons b l ih => simp [ih]

/-- Appending an entry with the next number keeps the numbering. -/
lemma Numbered.concat {n : ℤ} {l : List α} {a : α} (h : Numbered num n l)
    (ha : num a = n + l.length + 1) : Numbered num n (l ++ [a]) := by
  induction l generalizing n with
  | nil => simpa using ha
  | cons b l ih =>
    obtain ⟨hb, hl⟩ := h
    refine ⟨hb, ih hl ?_⟩
    rw [ha]
    push_cast [List.length_cons]
    ring

/-- Every entry of a numbered list is above its base. -/
lemma Numbered.lt_of_mem {n : ℤ} {l : List α} (h : Numbered num n l) {a : α} (ha : a ∈ l) :
    n < num a := by
  induction l generalizing n with
  | nil => simp at ha
  | cons b l ih =>
    obtain ⟨hb, hl⟩ := h
    rcases List.mem_cons.mp ha with rfl | hmem
    · omega
    · have := ih hl hmem
      omega

/-- The entry at a position carries the number of that position. -/
lemma Numbered.getElem? {n : ℤ} {l : List α} (h : Numbered num n l) {k : ℕ} {a : α}
    (ha : l[k]? = some a) : num a = n + k + 1 := by
  induction l generalizing n k with
  | nil => simp at ha
  | cons b l ih =>
    obtain ⟨hb, hl⟩ := h
    cases k with
    | zero =>
      obtain rfl : b = a := by simpa using ha
      rw [hb]
      push_cast
      ring
    | succ k =>
      rw [ih hl (by simpa using ha)]
      push_cast
      ring

/-- Dropping entries at the front raises the base of the numbering. -/
lemma Numbered.drop {n : ℤ} {l : List α} (h : Numbered num n l) :
    ∀ k ≤ l.length, Numbered num (n + k) (l.drop k) := by
  intro k
  induction k generalizing n l with
  | zero => simpa using h
  | succ k ih =>
    intro hk
    cases l with
    | nil => simp at hk
    | cons b l =>
      have := ih h.2 (by simpa using hk)
      simpa [add_assoc, add_comm (1 : ℤ)] using this

/-- The entries above a threshold `m` form the final segment of the list that starts `m - n`
entries in.

**Proof sketch.** Induction on the list. An entry numbered at most `m` is filtered out and
dropped; from the first entry above `m` on, every entry is above it. -/
lemma Numbered.filter_lt {n : ℤ} {l : List α} (h : Numbered num n l) (m : ℤ) :
    l.filter (fun a => m < num a) = l.drop (m - n).toNat := by
  induction l generalizing n with
  | nil => simp
  | cons b l ih =>
    obtain ⟨hb, hl⟩ := h
    by_cases hm : m < num b
    · have hz : (m - n).toNat = 0 := by omega
      have hall : ∀ a ∈ b :: l, m < num a := by
        intro a ha
        rcases List.mem_cons.mp ha with rfl | hmem
        · exact hm
        · have := hl.lt_of_mem hmem
          omega
      rw [hz, List.drop_zero, List.filter_eq_self.mpr]
      simpa using hall
    · obtain ⟨k, hk⟩ : ∃ k : ℕ, (m - n).toNat = k + 1 := ⟨(m - n).toNat - 1, by omega⟩
      have hk' : (m - (n + 1)).toNat = k := by omega
      rw [List.filter_cons_of_neg (by simpa using hm), ih hl, hk, hk', List.drop_succ_cons]

end Numbering
