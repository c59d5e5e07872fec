import Mathlib.Data.Nat.Size
import Mathlib.Order.Bounds.Basic
import Mathlib.Tactic.Ring

/-!
# Compact numbers

A natural number is stored in four bytes: the length of the number in bytes, and
its three leading bytes.  The highest bit of the leading bytes is a sign bit and
must stay clear, so a number whose leading byte would set it is stored with one
more byte of length.

Numbers of at least sixteen bits lose only what stands below their leading bytes.
-/

namespace CompactNumber

open Nat

/-- Number denoted by a compact word with a clear sign bit. -/
def setCompact (compact : Nat) : Nat :=
  let size := compact / 2 ^ 24
  let word := compact % 2 ^ 23
  if size ≤ 3 then word / 256 ^ (3 - size) else word * 256 ^ (size - 3)

/-- Compact word of a number. -/
def getCompact (value : Nat) : Nat :=
  let size := (value.size + 7) / 8
  let word := if size ≤ 3 then value * 256 ^ (3 - size) else value / 256 ^ (size - 3)
  if word < 2 ^ 23 then size * 2 ^ 24 + word else (size + 1) * 2 ^ 24 + word / 256

/-- Number of bytes that a compact word drops. -/
def dropped (value : Nat) : Nat := value.size / 8 - 2

/-- Leading bytes of a number, below the sign bit. -/
def mantissa (value : Nat) : Nat := value / 256 ^ dropped value

theorem pow_256_eq (exponent : Nat) : 256 ^ exponent = 2 ^ (8 * exponent) := by
  rw [Nat.pow_mul]

variable {value : Nat}

theorem sixteen_le_size (large : 2 ^ 15 ≤ value) : 16 ≤ value.size :=
  lt_size.mpr large

theorem mantissa_lt (large : 2 ^ 15 ≤ value) : mantissa value < 2 ^ 23 := by
  have bits := sixteen_le_size large
  rw [mantissa, pow_256_eq, Nat.div_lt_iff_lt_mul (Nat.two_pow_pos _), ← Nat.pow_add]
  calc value < 2 ^ value.size := lt_size_self value
    _ ≤ 2 ^ (23 + 8 * dropped value) := by
      apply Nat.pow_le_pow_right (by omega)
      rw [dropped]
      omega

theorem le_mantissa (large : 2 ^ 15 ≤ value) : 2 ^ 15 ≤ mantissa value := by
  have bits := sixteen_le_size large
  rw [mantissa, pow_256_eq, Nat.le_div_iff_mul_le (Nat.two_pow_pos _), ← Nat.pow_add]
  apply lt_size.mp
  rw [dropped]
  omega

/-- The compact word of a number of at least sixteen bits is its length and its
mantissa. -/
theorem getCompact_eq (large : 2 ^ 15 ≤ value) :
    getCompact value = (dropped value + 3) * 2 ^ 24 + mantissa value := by
  have bits := sixteen_le_size large
  rcases Nat.eq_or_lt_of_le bits with sixteen | more
  · have set : ¬value * 256 ^ 1 < 2 ^ 23 := by omega
    have noneDropped : dropped value = 0 := by rw [dropped, ← sixteen]
    have sizeEq : (value.size + 7) / 8 = 2 := by omega
    simp only [getCompact, mantissa, noneDropped, sizeEq, reduceLeDiff, if_true,
      reduceSub, if_neg set]
    omega
  · have many : 3 ≤ (value.size + 7) / 8 := by omega
    have wordEq : (if (value.size + 7) / 8 ≤ 3 then value * 256 ^ (3 - (value.size + 7) / 8)
        else value / 256 ^ ((value.size + 7) / 8 - 3)) =
        value / 256 ^ ((value.size + 7) / 8 - 3) := by
      split
      next few =>
        have three : (value.size + 7) / 8 = 3 := by omega
        rw [three]
        simp
      next => rfl
    simp only [getCompact, wordEq]
    by_cases whole : value.size % 8 = 0
    · have same : (value.size + 7) / 8 - 3 + 1 = dropped value := by
        rw [dropped]
        omega
      have set : ¬value / 256 ^ ((value.size + 7) / 8 - 3) < 2 ^ 23 := by
        rw [Nat.not_lt, pow_256_eq, Nat.le_div_iff_mul_le (Nat.two_pow_pos _), ← Nat.pow_add]
        apply lt_size.mp
        omega
      have shift : 256 ^ ((value.size + 7) / 8 - 3) * 256 = 256 ^ dropped value := by
        rw [← same, Nat.pow_succ]
      rw [if_neg set, Nat.div_div_eq_div_mul, shift, mantissa]
      congr 2
      omega
    · have same : (value.size + 7) / 8 - 3 = dropped value := by
        rw [dropped]
        omega
      rw [same, ← mantissa, if_pos (mantissa_lt large)]
      congr 2
      omega

theorem setCompact_word {size word : Nat} (wide : 3 ≤ size) (clear : word < 2 ^ 23) :
    setCompact (size * 2 ^ 24 + word) = word * 256 ^ (size - 3) := by
  have sizeEq : (size * 2 ^ 24 + word) / 2 ^ 24 = size := by omega
  have wordEq : (size * 2 ^ 24 + word) % 2 ^ 23 = word := by omega
  simp only [setCompact, sizeEq, wordEq]
  split
  next narrow =>
    have three : size = 3 := by omega
    rw [three]
    simp
  next => rfl

/-- A compact word denotes the number without the bytes that were dropped. -/
theorem setCompact_getCompact (large : 2 ^ 15 ≤ value) :
    setCompact (getCompact value) = mantissa value * 256 ^ dropped value := by
  rw [getCompact_eq large, setCompact_word (by omega) (mantissa_lt large), Nat.add_sub_cancel]

theorem setCompact_getCompact_le (large : 2 ^ 15 ≤ value) :
    setCompact (getCompact value) ≤ value := by
  rw [setCompact_getCompact large]
  exact div_mul_le_self _ _

theorem le_setCompact_getCompact (large : 2 ^ 15 ≤ value) :
    2 ^ 15 ≤ setCompact (getCompact value) := by
  rw [setCompact_getCompact large]
  exact Nat.le_trans (le_mantissa large) (Nat.le_mul_of_pos_right _ (Nat.pow_pos (by omega)))

/-- A number that a clear word and a power of 256 give. -/
def Representable (number : Nat) : Prop :=
  ∃ word exponent, word ≤ 0x7FFFFF ∧ number = word * 256 ^ exponent

/-- A compact word denotes the largest representable number that is not above the number. -/
theorem isGreatest_setCompact_getCompact (large : 2 ^ 15 ≤ value) :
    IsGreatest {number | number ≤ value ∧ Representable number}
      (setCompact (getCompact value)) := by
  have short := mantissa_lt large
  refine ⟨⟨setCompact_getCompact_le large, mantissa value, dropped value, by omega,
    setCompact_getCompact large⟩, ?_⟩
  rintro _ ⟨below, word, exponent, clear, rfl⟩
  rw [setCompact_getCompact large]
  rcases le_or_gt (dropped value) exponent with wide | narrow
  · obtain ⟨more, rfl⟩ := Nat.exists_eq_add_of_le' wide
    rw [Nat.pow_add, ← Nat.mul_assoc] at below ⊢
    exact Nat.mul_le_mul_right _ ((Nat.le_div_iff_mul_le (Nat.pow_pos (by omega))).mpr below)
  · calc word * 256 ^ exponent ≤ 2 ^ 15 * 256 * 256 ^ exponent :=
          Nat.mul_le_mul_right _ (by omega)
      _ = 2 ^ 15 * 256 ^ (exponent + 1) := by ring
      _ ≤ mantissa value * 256 ^ dropped value :=
          Nat.mul_le_mul (le_mantissa large) (Nat.pow_le_pow_right (by omega) narrow)

/-- A compact word with a full mantissa is the compact word of the number it denotes. -/
theorem getCompact_word {size word : Nat} (wide : 3 ≤ size) (full : 2 ^ 15 ≤ word)
    (clear : word < 2 ^ 23) : getCompact (word * 256 ^ (size - 3)) = size * 2 ^ 24 + word := by
  have power : 0 < 256 ^ (size - 3) := Nat.pow_pos (by omega)
  have lower : 15 + 8 * (size - 3) < (word * 256 ^ (size - 3)).size := by
    rw [lt_size, Nat.pow_add, ← pow_256_eq]
    exact Nat.mul_le_mul_right _ full
  have upper : (word * 256 ^ (size - 3)).size ≤ 23 + 8 * (size - 3) := by
    rw [size_le, Nat.pow_add, ← pow_256_eq]
    exact Nat.mul_lt_mul_of_pos_right clear power
  have droppedEq : dropped (word * 256 ^ (size - 3)) = size - 3 := by
    rw [dropped]
    omega
  rw [getCompact_eq (Nat.le_trans full (Nat.le_mul_of_pos_right _ power)), mantissa, droppedEq,
    Nat.mul_div_cancel _ power, Nat.sub_add_cancel wide]

theorem getCompact_lt {bits : Nat} (large : 2 ^ 15 ≤ value) (bounded : value < 2 ^ bits)
    (short : bits < 2 ^ 11 - 8) : getCompact value < 2 ^ 32 := by
  have upper : value.size ≤ bits := size_le.mpr bounded
  have word := mantissa_lt large
  rw [getCompact_eq large, dropped]
  omega

end CompactNumber
