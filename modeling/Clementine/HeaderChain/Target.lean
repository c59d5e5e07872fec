import Clementine.Common.Basic
import Clementine.Lib.CompactNumber
import Clementine.Lib.ExceptRun

/-!
# Targets, compact bits and work

The network is chosen when the circuit is compiled.  It fixes the largest target
and the expected timespan of an epoch of 2016 blocks.  A target is a 256-bit
number kept as 32 big-endian bytes, or as compact bits in a block header.
-/

namespace Clementine

open ByteNumeral CompactNumber BitVec Vector

/-! ## Networks -/

/-- The values of `BITCOIN_NETWORK`; an unset variable selects `mainnet`. -/
inductive Network where
  | mainnet
  | testnet4
  | signet
  | regtest
  deriving Repr, DecidableEq

/-- `NetworkConstants`: one target in three representations. -/
structure NetworkConstants where
  maxBits : UInt32
  maxTarget : U256
  maxTargetBytes : Bytes32

namespace Network

/-- `NETWORK_CONSTANTS`. -/
def constants : Network → NetworkConstants
  | .mainnet | .testnet4 => {
      maxBits := 0x1D00FFFF
      maxTarget := 0x00000000FFFF0000000000000000000000000000000000000000000000000000
      maxTargetBytes := #v[
        0, 0, 0, 0, 255, 255, 0, 0, 0, 0, 0, 0, 0, 0, 0, 0, 0, 0, 0, 0, 0, 0, 0, 0, 0, 0,
        0, 0, 0, 0, 0, 0] }
  | .signet => {
      maxBits := 0x1E0377AE
      maxTarget := 0x00000377AE000000000000000000000000000000000000000000000000000000
      maxTargetBytes := #v[
        0, 0, 3, 119, 174, 0, 0, 0, 0, 0, 0, 0, 0, 0, 0, 0, 0, 0, 0, 0, 0, 0, 0, 0, 0, 0,
        0, 0, 0, 0, 0, 0] }
  | .regtest => {
      maxBits := 0x207FFFFF
      maxTarget := 0x7FFFFF0000000000000000000000000000000000000000000000000000000000
      maxTargetBytes := #v[
        127, 255, 255, 0, 0, 0, 0, 0, 0, 0, 0, 0, 0, 0, 0, 0, 0, 0, 0, 0, 0, 0, 0, 0, 0, 0,
        0, 0, 0, 0, 0, 0] }

/-- `EXPECTED_EPOCH_TIMESPAN`, in seconds. -/
def expectedEpochTimespan : Network → UInt32
  | .signet => 60 * 24 * 14
  | _ => 60 * 60 * 24 * 14

end Network

/-- `BLOCKS_PER_EPOCH`. -/
def blocksPerEpoch : UInt32 := 2016

/-- `MINIMUM_WORK_TESTNET`. -/
def minimumWorkTestnet : U256 :=
  0x0000000000000000000000000000000000000000000000000000000100010001

/-! ## The functions of the source -/

/-- `bits_to_target`. -/
def bitsToTarget (bits : UInt32) : Bytes32 :=
  let size := (bits >>> 24).toNat
  let mantissa := bits &&& 0x00ffffff
  if mantissa > 0x7FFFFF then
    zeroBytes
  else
    let target :=
      if size ≤ 3 then
        U256.fromU32 (mantissa >>> UInt32.ofNat (8 * (3 - size)))
      else
        U256.fromU32 mantissa <<< (8 * (size - 3))
    target.toBeBytes

/-- `target_to_bits`. -/
def targetToBits (target : Bytes32) : Except Panic UInt32 := do
  let targetBits := (U256.fromBeBytes target).bits
  let size := (263 - targetBits) / 8
  let first ← vecIndex target.toList (usizeSub size 1)
  let second ← vecIndex target.toList size
  let third ← vecIndex target.toList (size + 1)
  return u32FromBeBytes #v[33 - UInt8.ofNat size, first, second, third]

/-- The timespan of `calculate_new_difficulty`, forced into the allowed range. -/
def clampTimespan (network : Network) (epochStartTime lastTimestamp : UInt32) : UInt32 :=
  let actualTimespan := lastTimestamp - epochStartTime
  if actualTimespan < network.expectedEpochTimespan / 4 then
    network.expectedEpochTimespan / 4
  else if actualTimespan > network.expectedEpochTimespan * 4 then
    network.expectedEpochTimespan * 4
  else
    actualTimespan

/-- `calculate_new_difficulty`. -/
def calculateNewDifficulty (network : Network)
    (epochStartTime lastTimestamp currentTarget : UInt32) : Bytes32 :=
  let actualTimespan := clampTimespan network epochStartTime lastTimestamp
  let currentTargetBytes := bitsToTarget currentTarget
  let newTarget := U256.fromBeBytes currentTargetBytes * U256.fromU32 actualTimespan /
    U256.fromU32 network.expectedEpochTimespan
  if newTarget > network.constants.maxTarget then
    network.constants.maxTarget.toBeBytes
  else
    newTarget.toBeBytes

/-- The loop of `check_hash_valid` over pairs of a hash byte and a target byte. -/
def compareBytes : List (UInt8 × UInt8) → Except Panic Unit
  | [] => .ok ()
  | (hashByte, targetByte) :: rest =>
    match compare hashByte targetByte with
    | .lt => .ok ()
    | .gt => .error (.message "Hash is not valid")
    | .eq => compareBytes rest

/-- `check_hash_valid`: the hash is read from its last byte on. -/
def checkHashValid (hash targetBytes : Bytes32) : Except Panic Unit :=
  compareBytes (hash.toList.reverse.zip targetBytes.toList)

/-- `calculate_work`. -/
def calculateWork (targetBytes : Bytes32) : U256 :=
  let target := U256.fromBeBytes targetBytes
  if target = 0 then
    BitVec.allOnes 256
  else if target = 1 then
    BitVec.allOnes 256
  else if target = BitVec.allOnes 256 then
    1
  else
    ~~~target / (target + 1) + 1

/-! ## Hash checks and work -/

theorem compareBytes_ok_iff {hashBytes targetBytes : List UInt8}
    (sameLength : hashBytes.length = targetBytes.length) :
    compareBytes (hashBytes.zip targetBytes) = .ok () ↔ beNat hashBytes ≤ beNat targetBytes := by
  induction hashBytes generalizing targetBytes with
  | nil =>
    rw [List.eq_nil_of_length_eq_zero sameLength.symm]
    simp [compareBytes]
  | cons hashByte hashBytes ih =>
    cases targetBytes with
    | nil => simp at sameLength
    | cons targetByte targetBytes =>
      have restLength : hashBytes.length = targetBytes.length := by simpa using sameLength
      rw [List.zip_cons_cons, compareBytes]
      cases order : compare hashByte targetByte with
      | lt =>
        have less := beNat_cons_lt_of_lt restLength (Std.compare_eq_lt.mp order)
        simpa using Nat.le_of_lt less
      | gt =>
        have less := beNat_cons_lt_of_lt restLength.symm (Std.compare_eq_gt.mp order)
        simpa using less
      | eq =>
        rw [Std.LawfulEqOrd.eq_of_compare order, beNat_cons_le_cons_iff restLength]
        exact ih restLength

/-- The check accepts exactly the hashes that are at most the target, both read as
256-bit numbers. -/
theorem checkHashValid_ok_iff {hash targetBytes : Bytes32} :
    checkHashValid hash targetBytes = .ok () ↔ leNat hash.toList ≤ beNat targetBytes.toList := by
  rw [checkHashValid, compareBytes_ok_iff (by simp), beNat, List.reverse_reverse]

/-- Work of a target as a number, with the values that `calculate_work` fixes for the
targets 0, 1 and 2^256 - 1. -/
def workOf (target : Nat) : Nat :=
  if target = 0 ∨ target = 1 then
    2 ^ 256 - 1
  else if target = 2 ^ 256 - 1 then
    1
  else
    2 ^ 256 / (target + 1)

/-- The identity behind `calculate_work`: `~x / (x + 1) + 1` is `2^256 / (x + 1)`. -/
theorem toNat_complement_div {target : U256} (positive : target ≠ 0)
    (notLargest : target ≠ allOnes 256) :
    (~~~target / (target + 1) + 1).toNat = 2 ^ 256 / (target.toNat + 1) := by
  have bound := target.isLt
  have nonzero : target.toNat ≠ 0 := fun equal => positive (eq_of_toNat_eq equal)
  have below : target.toNat ≠ 2 ^ 256 - 1 := fun equal =>
    notLargest (eq_of_toNat_eq (by rw [equal, toNat_allOnes]))
  have successor : (target + 1).toNat = target.toNat + 1 := by
    rw [toNat_add]
    exact Nat.mod_eq_of_lt (by change target.toNat + 1 < 2 ^ 256; omega)
  have quotient : (2 ^ 256 - 1 - target.toNat) / (target.toNat + 1) + 1 =
      2 ^ 256 / (target.toNat + 1) := by
    rw [← Nat.add_div_right _ (by omega)]
    congr 1
    omega
  have small : 2 ^ 256 / (target.toNat + 1) < 2 ^ 256 :=
    Nat.div_lt_self (by omega) (by omega)
  rw [toNat_add, toNat_udiv, toNat_not, successor]
  change ((2 ^ 256 - 1 - target.toNat) / (target.toNat + 1) + 1) % 2 ^ 256 = _
  rw [quotient, Nat.mod_eq_of_lt small]

theorem toNat_calculateWork (targetBytes : Bytes32) :
    (calculateWork targetBytes).toNat = workOf (beNat targetBytes.toList) := by
  rw [← U256.toNat_fromBeBytes]
  generalize targetEq : U256.fromBeBytes targetBytes = target
  simp only [calculateWork, workOf, targetEq]
  by_cases zero : target = 0
  · simp [zero]
  · have nonzero : target.toNat ≠ 0 := fun equal => zero (eq_of_toNat_eq equal)
    by_cases one : target = 1
    · simp [one]
    · have notOne : target.toNat ≠ 1 := fun equal => one (eq_of_toNat_eq equal)
      rw [if_neg zero, if_neg one, if_neg (not_or.mpr ⟨nonzero, notOne⟩)]
      by_cases largest : target = allOnes 256
      · rw [if_pos largest, if_pos (by rw [largest, toNat_allOnes])]
        rfl
      · have notLargest : target.toNat ≠ 2 ^ 256 - 1 := fun equal =>
          largest (eq_of_toNat_eq (by rw [equal, toNat_allOnes]))
        rw [if_neg largest, if_neg notLargest, toNat_complement_div zero largest]

/-- A larger target is less work. -/
theorem workOf_le_workOf {low high : Nat} (positive : 2 ≤ low) (ordered : low ≤ high)
    (bounded : high < 2 ^ 256) : workOf high ≤ workOf low := by
  have highOrdinary : ¬(high = 0 ∨ high = 1) := by omega
  have lowOrdinary : ¬(low = 0 ∨ low = 1) := by omega
  rw [workOf, workOf, if_neg highOrdinary, if_neg lowOrdinary]
  by_cases lowLargest : low = 2 ^ 256 - 1
  · rw [if_pos lowLargest, if_pos (show high = 2 ^ 256 - 1 by omega)]
  · rw [if_neg lowLargest]
    split
    next =>
      rw [Nat.le_div_iff_mul_le (by omega)]
      omega
    next => exact Nat.div_le_div_left (by omega) (by omega)

theorem workOf_le {target : Nat} (large : 2 ^ 15 ≤ target) (bounded : target < 2 ^ 256 - 1) :
    workOf target ≤ 2 ^ 241 := by
  have ordinary : ¬(target = 0 ∨ target = 1) := by omega
  have notLargest : target ≠ 2 ^ 256 - 1 := by omega
  rw [workOf, if_neg ordinary, if_neg notLargest]
  calc 2 ^ 256 / (target + 1) ≤ 2 ^ 256 / 2 ^ 15 := Nat.div_le_div_left (by omega) (by omega)
    _ = 2 ^ 241 := by norm_num

/-! ## Compact bits -/

theorem toNat_shiftRight_24 (bits : UInt32) : (bits >>> 24).toNat = bits.toNat / 2 ^ 24 := by
  rw [UInt32.toNat_shiftRight, Nat.shiftRight_eq_div_pow]
  rfl

theorem toNat_and_mantissa (bits : UInt32) : (bits &&& 0x00ffffff).toNat = bits.toNat % 2 ^ 24 := by
  rw [UInt32.toNat_and]
  exact Nat.and_two_pow_sub_one_eq_mod bits.toNat 24

/-- A set sign bit denotes the target zero; otherwise the bits are expanded and cut off
at 256 bits. -/
theorem beNat_bitsToTarget (bits : UInt32) : beNat (bitsToTarget bits).toList =
      if bits.toNat % 2 ^ 24 < 2 ^ 23 then setCompact bits.toNat % 2 ^ 256 else 0 := by
  have signIff : bits &&& 0x00ffffff > 0x7FFFFF ↔ ¬bits.toNat % 2 ^ 24 < 2 ^ 23 := by
    rw [gt_iff_lt, UInt32.lt_iff_toNat_lt, toNat_and_mantissa]
    change 0x7FFFFF < _ ↔ _
    omega
  by_cases clear : bits.toNat % 2 ^ 24 < 2 ^ 23
  · have word : bits.toNat % 2 ^ 24 = bits.toNat % 2 ^ 23 := by omega
    simp only [bitsToTarget, if_neg (mt signIff.mp (not_not.mpr clear)), if_pos clear,
      U256.beNat_toBeBytes, toNat_shiftRight_24, setCompact, ← word]
    split
    next narrow =>
      have shift : (UInt32.ofNat (8 * (3 - bits.toNat / 2 ^ 24))).toNat % 32 =
          8 * (3 - bits.toNat / 2 ^ 24) := by
        rw [UInt32.toNat_ofNat']
        omega
      rw [U256.toNat_fromU32, UInt32.toNat_shiftRight, shift, toNat_and_mantissa,
        Nat.shiftRight_eq_div_pow, ← pow_256_eq]
      exact (Nat.mod_eq_of_lt (Nat.lt_of_le_of_lt (Nat.div_le_self _ _) (by omega))).symm
    next wide =>
      rw [toNat_shiftLeft, U256.toNat_fromU32, toNat_and_mantissa, Nat.shiftLeft_eq, ← pow_256_eq]
  · simp only [bitsToTarget, if_pos (signIff.mpr clear), if_neg clear]
    decide +kernel

theorem getElem?_target (target : Bytes32) {position exponent : Nat}
    (place : position + exponent = 31) :
    ∃ byte, target.toList[position]? = some byte ∧
      byte.toNat = beNat target.toList / 256 ^ exponent % 256 := by
  have bound : position < target.toList.length := by
    rw [length_toList]
    omega
  refine ⟨_, List.getElem?_eq_getElem bound, ?_⟩
  rw [getElem_eq_digit, length_toList, show 32 - 1 - position = exponent by omega]

theorem dropped_le {value : Nat} (large : 2 ^ 15 ≤ value) (bounded : value < 2 ^ 255) :
    (263 - value.size) / 8 = 30 - dropped value ∧ dropped value ≤ 29 := by
  have bits := sixteen_le_size large
  have upper : value.size ≤ 255 := Nat.size_le.mpr bounded
  rw [dropped]
  omega

/-- The bytes that `target_to_bits` picks form the compact word. -/
theorem toNat_pickedBytes {value : Nat} {first second third : UInt8} (large : 2 ^ 15 ≤ value)
    (bounded : value < 2 ^ 255)
    (firstEq : first.toNat = value / 256 ^ (dropped value + 2) % 256)
    (secondEq : second.toNat = value / 256 ^ (dropped value + 1) % 256)
    (thirdEq : third.toNat = value / 256 ^ dropped value % 256) :
    (u32FromBeBytes #v[33 - UInt8.ofNat (30 - dropped value), first, second, third]).toNat =
      getCompact value := by
  have few := (dropped_le large bounded).2
  have small := getCompact_lt large bounded (by omega)
  have word := mantissa_lt large
  have leading : (33 - UInt8.ofNat (30 - dropped value)).toNat = dropped value + 3 := by
    rw [UInt8.toNat_sub, UInt8.toNat_ofNat']
    change (2 ^ 8 - (30 - dropped value) % 2 ^ 8 + 33) % 2 ^ 8 = _
    omega
  rw [← mantissa] at thirdEq
  rw [Nat.pow_succ, ← Nat.div_div_eq_div_mul, ← mantissa] at secondEq
  rw [Nat.pow_succ, Nat.pow_succ, ← Nat.div_div_eq_div_mul, ← Nat.div_div_eq_div_mul,
    ← mantissa] at firstEq
  have digits : beNat [33 - UInt8.ofNat (30 - dropped value), first, second, third] =
      (dropped value + 3) * 2 ^ 24 + mantissa value := by
    simp only [beNat_cons, beNat_nil, List.length_cons, List.length_nil, leading, firstEq,
      secondEq, thirdEq]
    omega
  rw [u32FromBeBytes, UInt32.toNat_ofNat']
  change beNat [33 - UInt8.ofNat (30 - dropped value), first, second, third] % 2 ^ 32 = _
  rw [digits, ← getCompact_eq large]
  exact Nat.mod_eq_of_lt small

theorem bits_fromBeBytes (target : Bytes32) :
    (U256.fromBeBytes target).bits = (beNat target.toList).size := by
  rw [U256.bits, U256.toNat_fromBeBytes]

variable {target : Bytes32}

theorem targetToBits_eq_ok (large : 2 ^ 15 ≤ beNat target.toList)
    (bounded : beNat target.toList < 2 ^ 255) :
    ∃ bits, targetToBits target = .ok bits ∧ bits.toNat = getCompact (beNat target.toList) := by
  obtain ⟨position, few⟩ := dropped_le large bounded
  generalize droppedEq : dropped (beNat target.toList) = count at position few
  have before : usizeSub (30 - count) 1 = 29 - count := by
    rw [usizeSub]
    omega
  obtain ⟨first, firstAt, firstEq⟩ := getElem?_target target
    (show 29 - count + (count + 2) = 31 by omega)
  obtain ⟨second, secondAt, secondEq⟩ := getElem?_target target
    (show 30 - count + (count + 1) = 31 by omega)
  obtain ⟨third, thirdAt, thirdEq⟩ := getElem?_target target
    (show 30 - count + 1 + count = 31 by omega)
  subst droppedEq
  refine ⟨_, ?_, toNat_pickedBytes large bounded firstEq secondEq thirdEq⟩
  simp only [targetToBits, bits_fromBeBytes, position, before, vecIndex_eq_ok.mpr firstAt,
    vecIndex_eq_ok.mpr secondAt, vecIndex_eq_ok.mpr thirdAt, bind, Except.bind]
  rfl

variable {bits : UInt32}

theorem targetToBits_bounds (picked : targetToBits target = .ok bits) :
    2 ^ 15 ≤ beNat target.toList ∧ beNat target.toList < 2 ^ 255 := by
  simp only [targetToBits, bits_fromBeBytes, ExceptRun.bind_ok_iff] at picked
  obtain ⟨first, firstAt, second, -, third, thirdAt, -⟩ := picked
  have firstInside := (List.getElem?_eq_some_iff.mp (vecIndex_eq_ok.mp firstAt)).1
  have thirdInside := (List.getElem?_eq_some_iff.mp (vecIndex_eq_ok.mp thirdAt)).1
  rw [length_toList, usizeSub] at firstInside
  rw [length_toList] at thirdInside
  exact ⟨Nat.lt_size.mp (by omega), Nat.size_le.mp (by omega)⟩

/-- `target_to_bits` indexes out of bounds on targets of fewer than 16 or of 256 bits,
and computes the compact form of every other target. -/
theorem targetToBits_ok_iff : targetToBits target = .ok bits ↔
      2 ^ 15 ≤ beNat target.toList ∧ beNat target.toList < 2 ^ 255 ∧
        bits.toNat = getCompact (beNat target.toList) := by
  constructor
  · intro picked
    obtain ⟨large, bounded⟩ := targetToBits_bounds picked
    obtain ⟨bits', picked', compactEq⟩ := targetToBits_eq_ok large bounded
    rw [picked, Except.ok.injEq] at picked'
    exact ⟨large, bounded, picked' ▸ compactEq⟩
  · rintro ⟨large, bounded, compactEq⟩
    obtain ⟨bits', picked', compactEq'⟩ := targetToBits_eq_ok large bounded
    rw [picked', UInt32.toNat_inj.mp (compactEq'.trans compactEq.symm)]

/-- Writing a target as bits and expanding them again drops its low bytes. -/
theorem beNat_bitsToTarget_of_targetToBits (picked : targetToBits target = .ok bits) :
    beNat (bitsToTarget bits).toList = setCompact (getCompact (beNat target.toList)) := by
  obtain ⟨large, bounded, compactEq⟩ := targetToBits_ok_iff.mp picked
  have word := mantissa_lt large
  have clear : bits.toNat % 2 ^ 24 < 2 ^ 23 := by
    rw [compactEq, getCompact_eq large]
    omega
  rw [beNat_bitsToTarget, if_pos clear, compactEq, Nat.mod_eq_of_lt]
  exact Nat.lt_of_le_of_lt (setCompact_getCompact_le large) (by omega)

theorem bitsToTarget_le_of_targetToBits (picked : targetToBits target = .ok bits) :
    beNat (bitsToTarget bits).toList ≤ beNat target.toList := by
  rw [beNat_bitsToTarget_of_targetToBits picked]
  exact setCompact_getCompact_le (targetToBits_ok_iff.mp picked).1

theorem le_bitsToTarget_of_targetToBits (picked : targetToBits target = .ok bits) :
    2 ^ 15 ≤ beNat (bitsToTarget bits).toList := by
  rw [beNat_bitsToTarget_of_targetToBits picked]
  exact le_setCompact_getCompact (targetToBits_ok_iff.mp picked).1

/-- Compact bits in canonical form: a mantissa without a leading zero byte and with a clear
sign bit, a length of 3 to 32 bytes, and a number of at most 255 bits. -/
structure CanonicalBits (bits : UInt32) : Prop where
  full : 0x008000 ≤ bits.toNat % 2 ^ 24
  clear : bits.toNat % 2 ^ 24 ≤ 0x7FFFFF
  wide : 3 ≤ bits.toNat / 2 ^ 24
  narrow : bits.toNat / 2 ^ 24 ≤ 32
  bounded : bits.toNat % 2 ^ 24 * 256 ^ (bits.toNat / 2 ^ 24 - 3) < 2 ^ 255

/-- Canonical bits are the compact form of the target that they denote. -/
theorem CanonicalBits.targetToBits_bitsToTarget (canonical : CanonicalBits bits) :
    targetToBits (bitsToTarget bits) = .ok bits := by
  obtain ⟨full, clear, wide, -, bounded⟩ := canonical
  have split : bits.toNat = bits.toNat / 2 ^ 24 * 2 ^ 24 + bits.toNat % 2 ^ 24 := by omega
  have value : beNat (bitsToTarget bits).toList =
      bits.toNat % 2 ^ 24 * 256 ^ (bits.toNat / 2 ^ 24 - 3) := by
    rw [beNat_bitsToTarget, if_pos (by omega), split, setCompact_word wide (by omega), ← split]
    exact Nat.mod_eq_of_lt (by omega)
  rw [targetToBits_ok_iff, value, getCompact_word wide full (by omega)]
  exact ⟨Nat.le_trans full (Nat.le_mul_of_pos_right _ (Nat.pow_pos (by omega))), bounded, split⟩

/-- Compact bits keep the largest representable number not above a target of 16 to 255 bits,
and canonical bits are read back. -/
theorem compact_codec : (∀ target : Bytes32, 16 ≤ (U256.fromBeBytes target).bits →
      (U256.fromBeBytes target).bits ≤ 255 →
      ∃ bits, targetToBits target = .ok bits ∧
        IsGreatest {number | number ≤ beNat target.toList ∧ Representable number}
          (beNat (bitsToTarget bits).toList) ∧
        (bitsToTarget bits = target ↔ Representable (beNat target.toList))) ∧
      ∀ bits, CanonicalBits bits → targetToBits (bitsToTarget bits) = .ok bits := by
  refine ⟨fun target lower upper => ?_, fun bits => CanonicalBits.targetToBits_bitsToTarget⟩
  rw [bits_fromBeBytes] at lower upper
  have large : 2 ^ 15 ≤ beNat target.toList := Nat.lt_size.mp lower
  obtain ⟨bits, picked, -⟩ := targetToBits_eq_ok large (Nat.size_le.mp upper)
  have greatest := isGreatest_setCompact_getCompact large
  rw [← beNat_bitsToTarget_of_targetToBits picked] at greatest
  refine ⟨bits, picked, greatest, ?_, ?_⟩
  · rintro rfl
    exact greatest.1.2
  · intro representable
    have same := Nat.le_antisymm greatest.1.1 (greatest.2 ⟨Nat.le_refl _, representable⟩)
    exact Vector.toList_inj.mp (beNat_injective (by simp) same)

/-- The bits 0x1B0404CB are canonical, and so is the shortest target. -/
theorem compact_codec_1B0404CB : targetToBits (bitsToTarget 0x1B0404CB) = .ok 0x1B0404CB ∧
      ∃ bits, targetToBits (bitsToTarget 0x03008000) = .ok bits ∧
        (bitsToTarget bits = bitsToTarget 0x03008000 ↔
          Representable (beNat (bitsToTarget 0x03008000).toList)) := by
  refine ⟨compact_codec.2 _ ⟨by decide, by decide, by decide, by decide, by decide⟩, ?_⟩
  obtain ⟨bits, picked, -, exact⟩ := compact_codec.1 (bitsToTarget 0x03008000) (by decide +kernel)
    (by decide +kernel)
  exact ⟨bits, picked, exact⟩

/-! ## Constants -/

/-- The three representations of the largest target agree. -/
theorem bitsToTarget_maxBits (network : Network) :
    bitsToTarget network.constants.maxBits = network.constants.maxTargetBytes ∧
      network.constants.maxTarget.toBeBytes = network.constants.maxTargetBytes := by
  cases network <;> decide +kernel

/-- The fixed work of `testnet4` blocks at the largest target is its computed work. -/
theorem calculateWork_maxTarget_testnet4 :
    calculateWork Network.testnet4.constants.maxTargetBytes = minimumWorkTestnet := by
  decide +kernel

end Clementine
