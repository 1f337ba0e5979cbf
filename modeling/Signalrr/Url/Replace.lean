import Mathlib.Data.List.Infix

set_option relaxedAutoImplicit false
set_option autoImplicit false

/-!
# Replacing the first match

`replacen` of a standard library with a count of one, for lists: the first match of a pattern is
replaced, and a list without a match is left as it is.

## Main definitions

* `Signalrr.replaceFirst` — the list with the first match replaced.

## Main results

* `Signalrr.replaceFirst_eq_self` — a list without a match is not changed.
* `Signalrr.exists_replaceFirst` — where there is a match, one is replaced and nothing else.
* `Signalrr.replaceFirst_append_of_last` — no match begins where the pattern does not fit.
* `Signalrr.replaceFirst_append_cons` — a match does not reach over what the pattern does not
  contain.
* `Signalrr.replaceFirst_eq_self_iff` — a replacement that is shorter than the pattern is seen.
-/

namespace Signalrr

variable {α : Type*}

/-- A pattern without `x` is at the front of a list with an `x` only if it is there before the
`x`. -/
theorem prefix_append_cons {pattern : List α} {x : α} (hx : x ∉ pattern) (xs ys : List α) :
    pattern <+: xs ++ x :: ys ↔ pattern <+: xs := by
  refine ⟨fun h => ?_, fun h => h.trans (List.prefix_append _ _)⟩
  rcases List.prefix_or_prefix_of_prefix h (List.prefix_append xs (x :: ys)) with hxs | hpattern
  · exact hxs
  · obtain ⟨zs, rfl⟩ := hpattern
    have hzs : zs <+: x :: ys := (List.prefix_append_right_inj xs).mp h
    cases zs with
    | nil => simp
    | cons z zs =>
      obtain ⟨rfl, -⟩ := List.cons_prefix_cons.mp hzs
      simp at hx

/-- A part without `x` of a list is on one side of an `x`. -/
theorem infix_append_cons {pattern : List α} {x : α} (hx : x ∉ pattern) {xs ys : List α}
    (h : pattern <:+: xs ++ x :: ys) : pattern <:+: xs ∨ pattern <:+: ys := by
  induction xs with
  | nil =>
    rcases List.infix_cons_iff.mp h with hfront | hrest
    · exact .inl ((prefix_append_cons hx [] ys).mp hfront).isInfix
    · exact .inr hrest
  | cons z zs ih =>
    rcases List.infix_cons_iff.mp h with hfront | hrest
    · exact .inl ((prefix_append_cons hx (z :: zs) ys).mp hfront).isInfix
    · exact (ih hrest).imp_left fun hmatch => hmatch.trans (List.suffix_cons z zs).isInfix

variable [DecidableEq α]

/-- The list with the first match of `pattern` replaced. -/
def replaceFirst (pattern replacement : List α) : List α → List α
  | [] => if pattern = [] then replacement else []
  | x :: xs =>
    if pattern <+: x :: xs then replacement ++ (x :: xs).drop pattern.length
    else x :: replaceFirst pattern replacement xs

section

variable (pattern replacement : List α)

/-- A match at the front is the first one. -/
theorem replaceFirst_front (xs : List α) :
    replaceFirst pattern replacement (pattern ++ xs) = replacement ++ xs := by
  cases h : pattern ++ xs with
  | nil =>
    obtain ⟨rfl, rfl⟩ := List.append_eq_nil_iff.mp h
    simp [replaceFirst]
  | cons y ys =>
    have hbegin : pattern <+: y :: ys := ⟨xs, h⟩
    rw [replaceFirst, if_pos hbegin, ← h, List.drop_left]

/-- Where there is no match at the front, the first element stays. -/
theorem replaceFirst_cons_of_mismatch {x : α} {xs : List α} (h : ¬ pattern <+: x :: xs) :
    replaceFirst pattern replacement (x :: xs) = x :: replaceFirst pattern replacement xs := by
  rw [replaceFirst, if_neg h]

/-- A list without a match is not changed. -/
theorem replaceFirst_eq_self {xs : List α} (h : ¬ pattern <:+: xs) :
    replaceFirst pattern replacement xs = xs := by
  induction xs with
  | nil =>
    have hne : pattern ≠ [] := by
      rintro rfl
      exact h (List.nil_infix)
    rw [replaceFirst, if_neg hne]
  | cons x xs ih =>
    have hfront : ¬ pattern <+: x :: xs := fun hbegin => h hbegin.isInfix
    have hrest : ¬ pattern <:+: xs := fun hmatch => h (hmatch.trans (List.suffix_cons x xs).isInfix)
    rw [replaceFirst_cons_of_mismatch _ _ hfront, ih hrest]

/-- Where there is a match, one is replaced and nothing else. -/
theorem exists_replaceFirst {xs : List α} (h : pattern <:+: xs) :
    ∃ front back, xs = front ++ pattern ++ back ∧
      replaceFirst pattern replacement xs = front ++ replacement ++ back := by
  induction xs with
  | nil =>
    obtain rfl : pattern = [] := List.infix_nil.mp h
    exact ⟨[], [], rfl, by simp [replaceFirst]⟩
  | cons x xs ih =>
    by_cases hfront : pattern <+: x :: xs
    · obtain ⟨back, hback⟩ := hfront
      refine ⟨[], back, hback.symm, ?_⟩
      rw [← hback, replaceFirst_front, List.nil_append]
    · have hrest : pattern <:+: xs := (List.infix_cons_iff.mp h).resolve_left hfront
      obtain ⟨front, back, rfl, hreplaced⟩ := ih hrest
      refine ⟨x :: front, back, rfl, ?_⟩
      rw [replaceFirst_cons_of_mismatch _ _ hfront, hreplaced]
      rfl

/-- A replacement that is shorter than the pattern is seen: the list stays as it is only where there
is no match. -/
theorem replaceFirst_eq_self_iff {xs : List α} (hlength : replacement.length < pattern.length) :
    replaceFirst pattern replacement xs = xs ↔ ¬ pattern <:+: xs := by
  refine ⟨fun heq hmatch => ?_, replaceFirst_eq_self pattern replacement⟩
  obtain ⟨front, back, hxs, hreplaced⟩ := exists_replaceFirst pattern replacement hmatch
  have h := congrArg List.length (hreplaced.symm.trans (heq.trans hxs))
  simp only [List.length_append] at h
  omega

variable {pattern}

/-- No match begins in a part without the first element of the pattern. -/
theorem replaceFirst_append_of_head {x : α} (hhead : pattern.head? = some x) {xs : List α}
    (hx : x ∉ xs) (ys : List α) :
    replaceFirst pattern replacement (xs ++ ys) = xs ++ replaceFirst pattern replacement ys := by
  obtain ⟨rest, rfl⟩ := List.head?_eq_some_iff.mp hhead
  induction xs with
  | nil => rfl
  | cons z zs ih =>
    have hfront : ¬ x :: rest <+: z :: (zs ++ ys) := by
      intro h
      obtain ⟨rfl, -⟩ := List.cons_prefix_cons.mp h
      simp at hx
    rw [List.cons_append, replaceFirst_cons_of_mismatch _ _ hfront,
      ih (List.not_mem_of_not_mem_cons hx)]
    rfl

/-- A match does not reach over an element that the pattern does not contain. -/
theorem replaceFirst_append_cons {x : α} (hx : x ∉ pattern) (hne : pattern ≠ []) (xs : List α)
    {ys : List α} (hys : ¬ pattern <:+: ys) :
    replaceFirst pattern replacement (xs ++ x :: ys) =
      replaceFirst pattern replacement xs ++ x :: ys := by
  induction xs with
  | nil =>
    have hfront : ¬ pattern <+: x :: ys := by
      intro h
      have hnil := (prefix_append_cons hx [] ys).mp h
      exact hne (List.prefix_nil.mp hnil)
    rw [List.nil_append, replaceFirst_cons_of_mismatch _ _ hfront, replaceFirst_eq_self _ _ hys,
      replaceFirst, if_neg hne]
    rfl
  | cons z zs ih =>
    have hiff := prefix_append_cons hx (z :: zs) ys
    by_cases hfront : pattern <+: z :: zs
    · obtain ⟨back, hback⟩ := hfront
      rw [← hback, List.append_assoc, replaceFirst_front, replaceFirst_front, List.append_assoc]
    · have hlong : ¬ pattern <+: z :: (zs ++ x :: ys) := fun h => hfront (hiff.mp h)
      rw [List.cons_append, replaceFirst_cons_of_mismatch _ _ hlong, ih,
        replaceFirst_cons_of_mismatch _ _ hfront]
      rfl

/-- No match begins in a part without `x`, when the pattern has `y` before its first `x` and the
part does not end with `y`. -/
theorem replaceFirst_append_of_last {x y : α} {start rest : List α} (hstart : x ∉ start ++ [y])
    {xs : List α} (hx : x ∉ xs) (hlast : xs.getLast? ≠ some y) (ys : List α) :
    replaceFirst (start ++ [y] ++ x :: rest) replacement (xs ++ x :: ys) =
      xs ++ replaceFirst (start ++ [y] ++ x :: rest) replacement (x :: ys) := by
  induction xs with
  | nil => rfl
  | cons z zs ih =>
    have hfront : ¬ start ++ [y] ++ x :: rest <+: z :: (zs ++ x :: ys) := by
      rintro ⟨back, hback⟩
      rw [← List.cons_append, List.append_assoc, List.cons_append] at hback
      have hle : start ++ [y] <+: z :: zs :=
        (prefix_append_cons hstart _ ys).mp ⟨_, hback⟩
      have hge : z :: zs <+: start ++ [y] :=
        (prefix_append_cons hx _ (rest ++ back)).mp ⟨_, hback.symm⟩
      have heq := hle.eq_of_length_le hge.length_le
      exact hlast (by rw [← heq, List.getLast?_concat])
    have hrest : zs.getLast? ≠ some y := by
      cases zs with
      | nil => simp
      | cons w ws => rwa [List.getLast?_cons_cons] at hlast
    rw [List.cons_append, replaceFirst_cons_of_mismatch _ _ hfront,
      ih (List.not_mem_of_not_mem_cons hx) hrest]
    rfl

end

end Signalrr
