import Clementine.Lib.SelfDelimiting
import Mathlib.Data.Nat.Digits.Lemmas
import Mathlib.Tactic.Ring

/-!
# Byte strings as numerals

A byte string is a numeral in base 256, read from its first byte (`beNat`) or
from its last byte (`leNat`).  Fixed-width strings and the numbers below
`256 ^ n` determine each other, single bytes are digits of the number, and the
byte-by-byte comparison of two strings of one length is the comparison of the
numbers.
-/

namespace ByteNumeral

open Nat UInt8 Vector

/-- Value of a byte string whose first byte is the least significant one. -/
def leNat (bytes : List UInt8) : Nat :=
  Nat.ofDigits 256 (bytes.map UInt8.toNat)

/-- Value of a byte string whose first byte is the most significant one. -/
def beNat (bytes : List UInt8) : Nat :=
  leNat bytes.reverse

@[simp] theorem beNat_nil : beNat [] = 0 := rfl

theorem leNat_append (left right : List UInt8) :
    leNat (left ++ right) = leNat left + 256 ^ left.length * leNat right := by
  simp [leNat, ofDigits_append]

theorem beNat_append (left right : List UInt8) :
    beNat (left ++ right) = beNat left * 256 ^ right.length + beNat right := by
  simp only [beNat, List.reverse_append, leNat_append, List.length_reverse]
  ring

theorem beNat_singleton (byte : UInt8) : beNat [byte] = byte.toNat := by
  simp [beNat, leNat]

theorem beNat_cons (byte : UInt8) (bytes : List UInt8) :
    beNat (byte :: bytes) = byte.toNat * 256 ^ bytes.length + beNat bytes := by
  rw [← List.singleton_append, beNat_append, beNat_singleton]

theorem leNat_lt (bytes : List UInt8) : leNat bytes < 256 ^ bytes.length := by
  have digits : ∀ digit ∈ bytes.map toNat, digit < 256 := by
    intro digit member
    obtain ⟨byte, -, rfl⟩ := List.mem_map.mp member
    exact byte.toNat_lt
  simpa [leNat] using ofDigits_lt_base_pow_length (by omega) digits

theorem beNat_lt (bytes : List UInt8) : beNat bytes < 256 ^ bytes.length := by
  simpa [beNat] using leNat_lt bytes.reverse

/-- A string is read off digit by digit: the leading byte is the quotient and the
remaining string the remainder by the weight of the leading byte. -/
theorem beNat_cons_div (byte : UInt8) (bytes : List UInt8) :
    beNat (byte :: bytes) / 256 ^ bytes.length = byte.toNat := by
  rw [beNat_cons, Nat.mul_comm, mul_add_div (Nat.pow_pos (by omega)),
    div_eq_of_lt (beNat_lt bytes), Nat.add_zero]

/-- The byte at `index` is the digit of weight `256 ^ (length - 1 - index)`. -/
theorem getElem_eq_digit (bytes : List UInt8) (index : Nat) (inBounds : index < bytes.length) :
    bytes[index].toNat = beNat bytes / 256 ^ (bytes.length - 1 - index) % 256 := by
  induction bytes generalizing index with
  | nil => simp at inBounds
  | cons byte bytes ih =>
    cases index with
    | zero =>
      simp only [List.getElem_cons_zero, List.length_cons, Nat.add_sub_cancel,
        Nat.sub_zero, beNat_cons_div]
      exact (mod_eq_of_lt byte.toNat_lt).symm
    | succ index =>
      simp only [List.length_cons, Nat.add_lt_add_iff_right] at inBounds
      have weight : bytes.length + 1 - 1 - (index + 1) = bytes.length - 1 - index := by
        omega
      have split : 256 ^ bytes.length = 256 ^ (bytes.length - 1 - index) * (256 * 256 ^ index) := by
        rw [← Nat.pow_succ', ← Nat.pow_add]
        congr 1
        omega
      rw [List.getElem_cons_succ, List.length_cons, weight, ih index inBounds, beNat_cons, split]
      rw [show byte.toNat * (256 ^ (bytes.length - 1 - index) * (256 * 256 ^ index)) =
        256 ^ (bytes.length - 1 - index) * (256 * (byte.toNat * 256 ^ index)) by ring]
      rw [mul_add_div (Nat.pow_pos (by omega)), mul_add_mod]

/-! ## Comparison -/

variable {lefts rights : List UInt8}

theorem beNat_cons_lt_of_lt {left right : UInt8} (sameLength : lefts.length = rights.length)
    (less : left < right) :
    beNat (left :: lefts) < beNat (right :: rights) := by
  have bound := beNat_lt lefts
  have digits : left.toNat + 1 ≤ right.toNat := lt_iff_toNat_lt.mp less
  rw [beNat_cons, beNat_cons, sameLength]
  rw [sameLength] at bound
  calc left.toNat * 256 ^ rights.length + beNat lefts
      < left.toNat * 256 ^ rights.length + 256 ^ rights.length := by omega
    _ = (left.toNat + 1) * 256 ^ rights.length := by ring
    _ ≤ right.toNat * 256 ^ rights.length := Nat.mul_le_mul_right _ digits
    _ ≤ right.toNat * 256 ^ rights.length + beNat rights := Nat.le_add_right _ _

theorem beNat_cons_le_cons_iff {byte : UInt8} (sameLength : lefts.length = rights.length) :
    beNat (byte :: lefts) ≤ beNat (byte :: rights) ↔ beNat lefts ≤ beNat rights := by
  rw [beNat_cons, beNat_cons, sameLength]
  omega

variable {left right : List UInt8}

/-- The lexicographic order of strings of one length is the order of the numbers. -/
theorem lt_iff_beNat_lt (sameLength : left.length = right.length) :
    left < right ↔ beNat left < beNat right := by
  induction left generalizing right with
  | nil =>
    rw [List.length_nil, eq_comm, List.length_eq_zero_iff] at sameLength
    simp [sameLength]
  | cons byte left ih =>
    cases right with
    | nil => simp at sameLength
    | cons other right =>
      simp only [List.length_cons, Nat.add_right_cancel_iff] at sameLength
      rw [List.cons_lt_cons_iff]
      rcases Nat.lt_trichotomy byte.toNat other.toNat with less | same | greater
      · have less := lt_iff_toNat_lt.mpr less
        simp [less, beNat_cons_lt_of_lt sameLength less]
      · obtain rfl := UInt8.toNat_inj.mp same
        rw [ih sameLength, ← Nat.not_le, ← Nat.not_le, beNat_cons_le_cons_iff sameLength.symm]
        simp
      · have reversed := beNat_cons_lt_of_lt sameLength.symm (lt_iff_toNat_lt.mpr greater)
        have notLess : ¬byte < other := by
          rw [lt_iff_toNat_lt]
          omega
        have different : byte ≠ other := by
          rintro rfl
          omega
        simp [notLess, different, Nat.le_of_lt reversed]

/-- Two strings of one length with one value are equal. -/
theorem beNat_injective (sameLength : left.length = right.length) (equal : beNat left = beNat right)
    :
    left = right := by
  apply List.ext_getElem sameLength
  intro index leftBound rightBound
  apply UInt8.toNat_inj.mp
  rw [getElem_eq_digit left index leftBound, getElem_eq_digit right index rightBound,
    equal, sameLength]

/-! ## Fixed-width strings -/

/-- The `n`-byte string of `value`, most significant byte first; the part of
`value` above `256 ^ n` is lost. -/
def beBytes (n value : Nat) : Vector UInt8 n :=
  Vector.ofFn fun index => UInt8.ofNat (value / 256 ^ (n - 1 - index.val))

theorem beNat_beBytes (n value : Nat) : beNat (beBytes n value).toList = value % 256 ^ n := by
  induction n with
  | zero =>
    have empty : (beBytes 0 value).toList = [] :=
      List.eq_nil_of_length_eq_zero length_toList
    rw [empty, beNat_nil, Nat.pow_zero, mod_one]
  | succ n ih =>
    have unfolded : (beBytes (n + 1) value).toList =
        ofNat (value / 256 ^ n) :: (beBytes n value).toList := by
      apply List.ext_getElem (by simp)
      intro index leftBound rightBound
      cases index with
      | zero => simp [beBytes]
      | succ index =>
        simp only [List.length_cons, length_toList] at rightBound
        have weight : n - (index + 1) = n - 1 - index := by omega
        simp [beBytes, weight]
    rw [unfolded, beNat_cons, ih, length_toList, Nat.pow_succ, mod_mul, toNat_ofNat']
    ring

/-! ## Strings of fixed width -/

/-- A concatenation of encodings of one positive width determines what was encoded. -/
theorem flatMap_injective {α : Type} {encode : α → List UInt8} {width : Nat}
    (positive : 0 < width) (fixed : ∀ value, (encode value).length = width)
    (injective : Function.Injective encode) {left right : List α}
    (equal : left.flatMap encode = right.flatMap encode) : left = right := by
  have delimited : SelfDelimiting encode Set.univ :=
    .of_width (fun value _ => fixed value) injective.injOn
  refine delimited.flatMap_injective (fun value _ empty => ?_) (by simp) (by simp) equal
  have width := fixed value
  rw [empty, List.length_nil] at width
  omega

end ByteNumeral
