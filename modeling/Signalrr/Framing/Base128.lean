import Mathlib.Data.List.Basic
import Mathlib.Data.Nat.Bitwise
import Mathlib.Tactic.Ring

set_option relaxedAutoImplicit false
set_option autoImplicit false

/-!
# Little-endian base-128 numbers

A number as bytes of seven bits each, lowest first, every byte but the last with its high bit set.

## Main definitions

* `Base128.value` — the number a list of bytes stands for, high bits ignored.
* `Base128.Continues` — the high bit of a byte is set.

## Main results

* `Base128.value_append`, `Base128.value_lt` — further bytes, and how large a number of `k` bytes
  is.
* `Base128.and_127`, `Base128.and_128`, `Base128.or_128`, `Base128.or_shiftLeft` — the masks and
  shifts of the encoding as arithmetic.
-/

namespace Base128

/-- The number a list of bytes stands for, lowest seven bits first. -/
def value : List UInt8 → ℕ
  | [] => 0
  | b :: bs => b.toNat % 128 + 128 * value bs

@[simp] lemma value_nil : value [] = 0 := rfl

@[simp] lemma value_cons (b : UInt8) (bs : List UInt8) :
    value (b :: bs) = b.toNat % 128 + 128 * value bs := rfl

/-- Further bytes stand for the higher bits. -/
lemma value_append (as bs : List UInt8) :
    value (as ++ bs) = value as + 128 ^ as.length * value bs := by
  induction as with
  | nil => simp
  | cons a as ih =>
    simp only [List.cons_append, value_cons, ih, List.length_cons, pow_succ]
    ring

/-- A number of `k` bytes has `7 k` bits. -/
lemma value_lt (bs : List UInt8) : value bs < 128 ^ bs.length := by
  induction bs with
  | nil => simp
  | cons b bs ih =>
    have hb := Nat.mod_lt b.toNat (show 0 < 128 by decide)
    rw [value_cons, List.length_cons, pow_succ]
    omega

/-- The high bit of a byte is set: the number goes on. -/
def Continues (b : UInt8) : Prop := 128 ≤ b.toNat

instance (b : UInt8) : Decidable (Continues b) := inferInstanceAs (Decidable (128 ≤ b.toNat))

/-- The low seven bits. -/
lemma and_127 (b : UInt8) : (b &&& 0x7f).toNat = b.toNat % 128 := by
  rw [UInt8.toNat_and]
  exact Nat.and_two_pow_sub_one_eq_mod b.toNat 7

/-- The high bit. -/
lemma and_128 (b : UInt8) : b &&& 0x80 = 0 ↔ ¬ Continues b := by
  rw [← UInt8.toNat_inj, UInt8.toNat_and]
  have hb : b.toNat < 256 := b.toNat_lt
  have hand : b.toNat &&& (0x80 : UInt8).toNat = (b.toNat.testBit 7).toNat * 2 ^ 7 :=
    Nat.and_two_pow b.toNat 7
  have hbit : b.toNat.testBit 7 = decide (b.toNat / 128 % 2 = 1) :=
    Nat.testBit_eq_decide_div_mod_eq
  rw [hand, hbit]
  unfold Continues
  by_cases h : 128 ≤ b.toNat
  · have hone : b.toNat / 128 % 2 = 1 := by omega
    simp [hone, h]
  · have hzero : b.toNat / 128 % 2 = 0 := by omega
    simp [hzero, h]

/-- Setting the high bit of a seven-bit number. -/
lemma or_128 {n : ℕ} (h : n < 128) : n ||| 0x80 = n + 128 := by
  have := Nat.shiftLeft_add_eq_or_of_lt (show n < 2 ^ 7 from h) 1
  rw [Nat.or_comm]
  simpa [Nat.add_comm] using this.symm

/-- Bits above the ones of a number are added to it. -/
lemma or_shiftLeft {n j : ℕ} (h : n < 128 ^ j) (m : ℕ) :
    n ||| m <<< (7 * j) = n + 128 ^ j * m := by
  have h' : n < 2 ^ (7 * j) := by
    rw [pow_mul]
    exact h
  rw [Nat.or_comm, ← Nat.shiftLeft_add_eq_or_of_lt h', Nat.shiftLeft_eq, pow_mul]
  norm_num
  ring

end Base128
