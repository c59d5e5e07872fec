import Clementine.Lib.ByteNumeral
import Mathlib.Data.Nat.Size

/-!
# Machine values shared by the circuits

The circuits are Rust programs built in release mode: fixed-width arithmetic
wraps, and a failed assertion, an out-of-bounds index or an `unwrap` of `None`
stops the program.  Computations that may stop return `Except Panic`.  The programs around
them also return errors; their computations return `Except (Failure ε)`.

SHA-256 is a parameter throughout.  Where a result needs it to be free of
collisions this is stated for the byte strings that are hashed: a function into
32 bytes is injective on no larger domain.
-/

namespace Clementine

/-- Ways in which the Rust code stops. -/
inductive Panic where
  | message (text : String)
  | unwrapNone
  | indexOutOfBounds
  deriving Repr, DecidableEq

/-- Rust indexing of a vector or slice. -/
def vecIndex {α : Type} (values : List α) (position : Nat) : Except Panic α :=
  match values[position]? with
  | some value => .ok value
  | none => .error .indexOutOfBounds

theorem vecIndex_eq_ok {α : Type} {values : List α} {position : Nat} {value : α} :
    vecIndex values position = .ok value ↔ values[position]? = some value := by
  unfold vecIndex
  cases values[position]? <;> simp

/-- `expect` on a `Result`. -/
def expectOk {ε α : Type} (text : String) : Except ε α → Except Panic α
  | .ok value => .ok value
  | .error _ => .error (.message text)

/-- `expect` on an `Option`. -/
def expectSome {α : Type} (text : String) : Option α → Except Panic α
  | some value => .ok value
  | none => .error (.message text)

@[simp] theorem expectOk_eq_ok {ε α : Type} {text : String} {result : Except ε α} {value : α} :
    expectOk text result = .ok value ↔ result = .ok value := by
  cases result <;> simp [expectOk]

@[simp] theorem expectSome_eq_ok {α : Type} {text : String} {option : Option α} {value : α} :
    expectSome text option = .ok value ↔ option = some value := by
  cases option <;> simp [expectSome]

/-- A branch that panics. -/
def panicIf (condition : Prop) [Decidable condition] (text : String) : Except Panic Unit :=
  if condition then .error (.message text) else .ok ()

@[simp] theorem panicIf_eq_ok {condition : Prop} [Decidable condition] {text : String} :
    panicIf condition text = .ok () ↔ ¬condition := by
  unfold panicIf
  split_ifs with holds <;> simp [holds]

/-- Subtraction of `usize` values. -/
def usizeSub (left right : Nat) : Nat := (2 ^ 64 + left - right) % 2 ^ 64

/-- A 32-byte array, the type of block hashes, targets and work. -/
abbrev Bytes32 := Vector UInt8 32

/-- The all-zero array `[0u8; 32]`. -/
def zeroBytes : Bytes32 := Vector.replicate 32 0

/-- 256-bit unsigned integers with wrapping arithmetic. -/
abbrev U256 := BitVec 256

namespace U256

open ByteNumeral

/-- `U256::to_be_bytes`. -/
@[irreducible] def toBeBytes (value : U256) : Bytes32 := beBytes 32 value.toNat

/-- `U256::from_be_bytes`, and `U256::from_be_slice` on 32 bytes. -/
def fromBeBytes (bytes : Bytes32) : U256 := BitVec.ofNat 256 (beNat bytes.toList)

/-- `U256::from` on a `u32`. -/
def fromU32 (value : UInt32) : U256 := BitVec.ofNat 256 value.toNat

/-- `U256::bits`, the position of the highest set bit. -/
def bits (value : U256) : Nat := value.toNat.size

@[simp] theorem toNat_fromU32 (value : UInt32) : (fromU32 value).toNat = value.toNat := by
  have bound := value.toNat_lt
  rw [fromU32, BitVec.toNat_ofNat]
  exact Nat.mod_eq_of_lt (by omega)

@[simp] theorem toNat_fromBeBytes (bytes : Bytes32) :
    (fromBeBytes bytes).toNat = beNat bytes.toList := by
  have bound := beNat_lt bytes.toList
  rw [Vector.length_toList] at bound
  rw [fromBeBytes, BitVec.toNat_ofNat]
  exact Nat.mod_eq_of_lt bound

@[simp] theorem beNat_toBeBytes (value : U256) : beNat value.toBeBytes.toList = value.toNat := by
  rw [toBeBytes, beNat_beBytes]
  exact Nat.mod_eq_of_lt value.isLt

@[simp] theorem fromBeBytes_toBeBytes (value : U256) : fromBeBytes value.toBeBytes = value := by
  apply BitVec.eq_of_toNat_eq
  rw [toNat_fromBeBytes, beNat_toBeBytes]

theorem toBeBytes_inj {left right : U256} : left.toBeBytes = right.toBeBytes ↔ left = right :=
  ⟨fun equal => by rw [← fromBeBytes_toBeBytes left, equal, fromBeBytes_toBeBytes],
    congrArg toBeBytes⟩

end U256

/-- SHA-256 of a byte string. -/
abbrev Sha256 := List UInt8 → Bytes32

/-- `hash_pair`: SHA-256 of the concatenation of two nodes. -/
def hashPair (sha256 : Sha256) (left right : Bytes32) : Bytes32 :=
  sha256 (left.toList ++ right.toList)

/-- `calculate_sha256`. -/
def calculateSha256 (sha256 : Sha256) (input : List UInt8) : Bytes32 := sha256 input

/-- `calculate_double_sha256`. -/
def calculateDoubleSha256 (sha256 : Sha256) (input : List UInt8) : Bytes32 :=
  sha256 (sha256 input).toList

/-- `u32::from_be_bytes`. -/
def u32FromBeBytes (bytes : Vector UInt8 4) : UInt32 :=
  UInt32.ofNat (ByteNumeral.beNat bytes.toList)

/-- `u32::to_le_bytes`. -/
def u32LeBytes (value : UInt32) : List UInt8 :=
  (ByteNumeral.beBytes 4 value.toNat).toList.reverse

theorem u32LeBytes_injective {left right : UInt32}
    (equal : u32LeBytes left = u32LeBytes right) : left = right := by
  have bytes := congrArg ByteNumeral.beNat (List.reverse_injective equal)
  rw [ByteNumeral.beNat_beBytes, ByteNumeral.beNat_beBytes] at bytes
  have leftBound := left.toNat_lt
  have rightBound := right.toNat_lt
  apply UInt32.toNat_inj.mp
  omega

@[simp] theorem length_u32LeBytes (value : UInt32) : (u32LeBytes value).length = 4 := by
  simp [u32LeBytes]

/-! ## Failures of the host -/

/-- The host stops with a panic or returns an error. -/
inductive Failure (ε : Type) where
  | panic (panic : Panic)
  | error (error : ε)
  deriving DecidableEq

section Failure

variable {ε ε' α : Type}

/-- A computation that may panic. -/
def liftPanic : Except Panic α → Except (Failure ε) α
  | .ok value => .ok value
  | .error panic => .error (.panic panic)

/-- `ok_or` on an `Option`. -/
def okOr (error : ε) : Option α → Except (Failure ε) α
  | some value => .ok value
  | none => .error (.error error)

/-- A branch that returns an error. -/
def errorIf (condition : Prop) [Decidable condition] (error : ε) : Except (Failure ε) Unit :=
  if condition then .error (.error error) else .ok ()

/-- `map_err` to a fixed error. -/
def mapErr (error : ε') : Except (Failure ε) α → Except (Failure ε') α
  | .ok value => .ok value
  | .error (.panic panic) => .error (.panic panic)
  | .error (.error _) => .error (.error error)

@[simp] theorem liftPanic_eq_ok {result : Except Panic α} {value : α} :
    (liftPanic result : Except (Failure ε) α) = .ok value ↔ result = .ok value := by
  cases result <;> simp [liftPanic]

@[simp] theorem okOr_eq_ok {error : ε} {option : Option α} {value : α} :
    okOr error option = .ok value ↔ option = some value := by
  cases option <;> simp [okOr]

@[simp] theorem errorIf_eq_ok {condition : Prop} [Decidable condition] {error : ε}
    {value : Unit} : errorIf condition error = .ok value ↔ ¬condition := by
  unfold errorIf
  split_ifs with holds <;> simp [holds]

end Failure

/-- `checked_sub` on `usize`. -/
def checkedSub (left right : Nat) : Option Nat :=
  if right ≤ left then some (left - right) else none

theorem checkedSub_eq_some {left right difference : Nat} :
    checkedSub left right = some difference ↔ right + difference = left := by
  unfold checkedSub
  split_ifs with fits
  · rw [Option.some.injEq]
    omega
  · simp only [false_iff]
    omega

/-! ## Positions in a path -/

theorem toNat_half (index : UInt32) : (index / 2).toNat = index.toNat / 2 := by
  rw [UInt32.toNat_div]
  rfl

theorem mod_two_eq_zero_iff (index : UInt32) : index % 2 = 0 ↔ index.toNat % 2 = 0 := by
  rw [← UInt32.toNat_inj, UInt32.toNat_mod]
  rfl

theorem mod_two_eq_one_iff (index : UInt32) : index % 2 = 1 ↔ index.toNat % 2 = 1 := by
  rw [← UInt32.toNat_inj, UInt32.toNat_mod]
  rfl

end Clementine
