import Mathlib.Data.Nat.Bitwise

/-!
# Bit maps in byte arrays

Bit `index` of a byte array is bit `index % 8` of byte `index / 8`.  Setting bits one
after the other marks exactly the given positions, and the marks determine the array.
-/

namespace Bitmap

open UInt8 Nat Vector

variable {size : Nat}

/-- Whether a bit is set; positions outside the array are not. -/
def marked (map : Vector UInt8 size) (index : Nat) : Bool :=
  (map[index / 8]?.getD 0).toNat.testBit (index % 8)

/-- Set a bit. -/
def mark (map : Vector UInt8 size) (index : Nat) (inside : index / 8 < size) :
    Vector UInt8 size :=
  map.set (index / 8) (map[index / 8] ||| (1 <<< UInt8.ofNat (index % 8)))

theorem toNat_one_shiftLeft {shift : Nat} (small : shift < 8) :
    ((1 : UInt8) <<< ofNat shift).toNat = 2 ^ shift := by
  have bound : 2 ^ shift < 2 ^ 8 := Nat.pow_lt_pow_right (by decide) small
  rw [UInt8.toNat_shiftLeft, toNat_ofNat', toNat_one, shiftLeft_eq, Nat.one_mul,
    mod_eq_of_lt (a := shift) (by omega), mod_eq_of_lt small, mod_eq_of_lt bound]

@[simp] theorem marked_replicate_zero (index : Nat) : marked (replicate size 0) index = false := by
  unfold marked
  by_cases inside : index / 8 < size
  · simp [inside]
  · simp [inside]

theorem marked_mark (map : Vector UInt8 size) (index : Nat) (inside : index / 8 < size)
    (other : Nat) :
    marked (mark map index inside) other = (decide (index = other) || marked map other) := by
  unfold marked mark
  by_cases sameByte : index / 8 = other / 8
  · rw [← sameByte, getElem?_set_self, getElem?_eq_getElem inside, Option.getD_some,
      Option.getD_some, UInt8.toNat_or, testBit_or, toNat_one_shiftLeft (by omega),
      testBit_two_pow, Bool.or_comm]
    congr 1
    apply decide_eq_decide.mpr
    omega
  · have different : index ≠ other := by
      rintro rfl
      exact sameByte rfl
    rw [getElem?_set_ne inside sameByte]
    simp [different]

theorem byte_ext {left right : UInt8}
    (bits : ∀ shift < 8, left.toNat.testBit shift = right.toNat.testBit shift) : left = right := by
  apply UInt8.toNat_inj.mp
  apply eq_of_testBit_eq
  intro shift
  by_cases small : shift < 8
  · exact bits shift small
  · have bound : 2 ^ 8 ≤ 2 ^ shift := Nat.pow_le_pow_right (by decide) (by omega)
    rw [testBit_lt_two_pow (Nat.lt_of_lt_of_le left.toNat_lt bound),
      testBit_lt_two_pow (Nat.lt_of_lt_of_le right.toNat_lt bound)]

/-- The marks determine the array. -/
theorem ext {left right : Vector UInt8 size}
    (marks : ∀ index, marked left index = marked right index) : left = right := by
  apply Vector.ext
  intro byte inside
  apply byte_ext
  intro shift small
  have bit := marks (8 * byte + shift)
  rw [marked, marked, show (8 * byte + shift) / 8 = byte by omega,
    show (8 * byte + shift) % 8 = shift by omega, getElem?_eq_getElem inside,
    getElem?_eq_getElem inside] at bit
  exact bit

end Bitmap
