import Clementine.HeaderChain.History

/-!
# The difficulty schedule

Bitcoin fixes the bits of an epoch of 2016 blocks from the bits of the epoch before
and from the times of that epoch's first and last header.  The chain state keeps
only the current bits and the start time of the current epoch, and replaces the
bits after the last header of an epoch.

On `testnet4` a header that comes more than twenty minutes after its parent carries
the bits of the largest target instead, unless it is the first of its epoch.
-/

namespace Clementine

open ByteNumeral CompactNumber LoopState List UInt32 BitVec Nat

variable (network : Network) (hashing : BlockHashing)

/-! ## The schedule -/

/-- Time of the header at a height. -/
def headerTime (blockHeaders : List CircuitBlockHeader) (height : Nat) : Nat :=
  (blockHeaders[height]?.map (·.time.toNat)).getD 0

/-- Duration of an epoch as the adjustment counts it: at least a quarter and at most four
times the expected timespan. -/
def allowedTimespan (elapsed : Nat) : Nat :=
  max (network.expectedEpochTimespan.toNat / 4)
    (min elapsed (4 * network.expectedEpochTimespan.toNat))

/-- Bits of the epoch after one with the given bits, whose first and last headers have the
given times. -/
def nextBits (bits first last : Nat) : Nat :=
  getCompact (min network.constants.maxTarget.toNat
    (setCompact bits * allowedTimespan network (last - first) /
      network.expectedEpochTimespan.toNat))

/-- Bits of every epoch of a list of headers. -/
def epochBits (blockHeaders : List CircuitBlockHeader) : Nat → Nat
  | 0 => network.constants.maxBits.toNat
  | epoch + 1 => nextBits network (epochBits blockHeaders epoch)
      (headerTime blockHeaders (2016 * epoch)) (headerTime blockHeaders (2016 * epoch + 2015))

/-- A `testnet4` header inside an epoch that comes more than twenty minutes after its
parent. -/
def MinimumDifficulty (blockHeaders : List CircuitBlockHeader) (height : Nat)
    (blockHeader : CircuitBlockHeader) : Prop :=
  network = .testnet4 ∧ height % 2016 ≠ 0 ∧
    headerTime blockHeaders (height - 1) + 1200 < blockHeader.time.toNat

/-- Times that do not wrap: they leave room for twenty minutes, and no epoch ends before it
starts. -/
structure TimesFit (blockHeaders : List CircuitBlockHeader) : Prop where
  bounded : ∀ blockHeader ∈ blockHeaders, blockHeader.time.toNat < 2 ^ 32 - 1200
  ordered : ∀ epoch, 2016 * epoch + 2015 < blockHeaders.length →
    headerTime blockHeaders (2016 * epoch) ≤ headerTime blockHeaders (2016 * epoch + 2015)

/-! ## Adjustment as arithmetic -/

theorem expectedEpochTimespan_bounds :
    (network.expectedEpochTimespan / 4).toNat = network.expectedEpochTimespan.toNat / 4 ∧
      (network.expectedEpochTimespan * 4).toNat = 4 * network.expectedEpochTimespan.toNat ∧
      0 < network.expectedEpochTimespan.toNat := by
  cases network <;> decide

theorem toNat_clampTimespan (epochStartTime lastTimestamp : UInt32) :
    (clampTimespan network epochStartTime lastTimestamp).toNat =
      allowedTimespan network (lastTimestamp - epochStartTime).toNat := by
  obtain ⟨quarter, fourfold, -⟩ := expectedEpochTimespan_bounds network
  simp only [clampTimespan, allowedTimespan, gt_iff_lt, lt_iff_toNat_lt, quarter, fourfold]
  split
  · rw [quarter]
    omega
  · split
    · rw [fourfold]
      omega
    · omega

theorem toNat_sub_times {epochStartTime lastTimestamp : UInt32}
    (ordered : epochStartTime.toNat ≤ lastTimestamp.toNat) :
    (lastTimestamp - epochStartTime).toNat = lastTimestamp.toNat - epochStartTime.toNat :=
  UInt32.toNat_sub_of_le _ _ (le_iff_toNat_le.mpr ordered)

/-- `calculate_new_difficulty` as arithmetic: the timespan wraps at 32 bits and the product at
256 bits. -/
theorem beNat_calculateNewDifficulty (epochStartTime lastTimestamp bits : UInt32) :
    beNat (calculateNewDifficulty network epochStartTime lastTimestamp bits).toList =
      min network.constants.maxTarget.toNat (beNat (bitsToTarget bits).toList *
          allowedTimespan network (lastTimestamp - epochStartTime).toNat % 2 ^ 256 /
          network.expectedEpochTimespan.toNat) := by
  have quotient : (U256.fromBeBytes (bitsToTarget bits) *
      U256.fromU32 (clampTimespan network epochStartTime lastTimestamp) /
      U256.fromU32 network.expectedEpochTimespan).toNat =
      beNat (bitsToTarget bits).toList *
        allowedTimespan network (lastTimestamp - epochStartTime).toNat % 2 ^ 256 /
        network.expectedEpochTimespan.toNat := by
    rw [toNat_udiv, toNat_mul, U256.toNat_fromBeBytes, U256.toNat_fromU32,
      U256.toNat_fromU32, toNat_clampTimespan]
  simp only [calculateNewDifficulty, gt_iff_lt, lt_def, quotient]
  split
  · rw [U256.beNat_toBeBytes]
    omega
  · rw [U256.beNat_toBeBytes, quotient]
    omega

/-- Bits that denote a target of the network. -/
structure ValidBits (bits : UInt32) : Prop where
  clear : bits.toNat % 2 ^ 24 < 2 ^ 23
  bounded : setCompact bits.toNat ≤ network.constants.maxTarget.toNat

theorem validBits_maxBits : ValidBits network network.constants.maxBits := by
  constructor <;> cases network <;> decide +kernel

theorem allowedTimespan_le (elapsed : Nat) :
    allowedTimespan network elapsed ≤ 4 * network.expectedEpochTimespan.toNat := by
  rw [allowedTimespan]
  omega

theorem maxTarget_mul_lt (other : network ≠ .regtest) :
    network.constants.maxTarget.toNat * (4 * network.expectedEpochTimespan.toNat) < 2 ^ 256 := by
  cases network with
  | regtest => exact absurd rfl other
  | mainnet | testnet4 | signet => decide +kernel

variable {network}

theorem ValidBits.beNat_bitsToTarget {bits : UInt32} (valid : ValidBits network bits) :
    beNat (bitsToTarget bits).toList = setCompact bits.toNat := by
  rw [Clementine.beNat_bitsToTarget, if_pos valid.clear, mod_eq_of_lt]
  exact Nat.lt_of_le_of_lt valid.bounded network.constants.maxTarget.isLt

theorem validBits_of_targetToBits {target : Bytes32} {bits : UInt32}
    (bounded : beNat target.toList ≤ network.constants.maxTarget.toNat)
    (picked : targetToBits target = .ok bits) : ValidBits network bits := by
  obtain ⟨large, -, compactEq⟩ := targetToBits_ok_iff.mp picked
  have word := mantissa_lt large
  constructor
  · rw [compactEq, getCompact_eq large]
    omega
  · rw [compactEq]
    exact Nat.le_trans (setCompact_getCompact_le large) bounded

/-- The adjusted target, without overflow. -/
theorem ValidBits.beNat_calculateNewDifficulty {bits epochStartTime lastTimestamp : UInt32}
    (valid : ValidBits network bits) (other : network ≠ .regtest)
    (ordered : epochStartTime.toNat ≤ lastTimestamp.toNat) :
    beNat (calculateNewDifficulty network epochStartTime lastTimestamp bits).toList =
      min network.constants.maxTarget.toNat (setCompact bits.toNat *
          allowedTimespan network (lastTimestamp.toNat - epochStartTime.toNat) /
          network.expectedEpochTimespan.toNat) := by
  have fits : setCompact bits.toNat *
      allowedTimespan network (lastTimestamp.toNat - epochStartTime.toNat) < 2 ^ 256 :=
    Nat.lt_of_le_of_lt (Nat.mul_le_mul valid.bounded (allowedTimespan_le network _))
      (maxTarget_mul_lt network other)
  rw [Clementine.beNat_calculateNewDifficulty, valid.beNat_bitsToTarget, toNat_sub_times ordered,
    mod_eq_of_lt fits]

/-- The target after an epoch by Bitcoin's rule: the duration is a difference of integers, and a
negative one counts as a quarter of the expected timespan. -/
def signedRetarget (network : Network) (epochStartTime lastTimestamp bits : UInt32) : Nat :=
  let expected := network.expectedEpochTimespan.toNat
  let elapsed : Int := lastTimestamp.toNat - epochStartTime.toNat
  let timespan := max (expected / 4 : Int) (min elapsed (4 * expected))
  min network.constants.maxTarget.toNat
    (beNat (bitsToTarget bits).toList * timespan.toNat / expected)

theorem signedRetarget_eq (epochStartTime lastTimestamp bits : UInt32) :
    signedRetarget network epochStartTime lastTimestamp bits =
      min network.constants.maxTarget.toNat (beNat (bitsToTarget bits).toList *
        allowedTimespan network (lastTimestamp.toNat - epochStartTime.toNat) /
        network.expectedEpochTimespan.toNat) := by
  have timespan : (max (network.expectedEpochTimespan.toNat / 4 : Int)
      (min (lastTimestamp.toNat - epochStartTime.toNat)
        (4 * network.expectedEpochTimespan.toNat))).toNat =
      allowedTimespan network (lastTimestamp.toNat - epochStartTime.toNat) := by
    rw [allowedTimespan]
    omega
  simp only [signedRetarget, timespan]

/-- A product that does not fit into 256 bits, as on `regtest`, gives a smaller target. -/
theorem wrapped_lt_of_overflow {target elapsed : Nat}
    (bounded : target ≤ network.constants.maxTarget.toNat)
    (overflow : 2 ^ 256 ≤ target * allowedTimespan network elapsed) :
    target * allowedTimespan network elapsed % 2 ^ 256 / network.expectedEpochTimespan.toNat <
      min network.constants.maxTarget.toNat (target * allowedTimespan network elapsed /
        network.expectedEpochTimespan.toNat) := by
  obtain ⟨-, -, positive⟩ := expectedEpochTimespan_bounds network
  have regtest : network = .regtest := by
    by_contra other
    have fits := Nat.lt_of_le_of_lt (Nat.mul_le_mul bounded (allowedTimespan_le network elapsed))
      (maxTarget_mul_lt network other)
    omega
  generalize target * allowedTimespan network elapsed = product at overflow ⊢
  rw [lt_min_iff]
  constructor
  · calc product % 2 ^ 256 / network.expectedEpochTimespan.toNat
        ≤ 2 ^ 256 / network.expectedEpochTimespan.toNat :=
          Nat.div_le_div_right (Nat.le_of_lt (mod_lt _ (by omega)))
      _ < network.constants.maxTarget.toNat := by
          subst regtest
          decide +kernel
  · have := network.expectedEpochTimespan.toNat_lt
    calc product % 2 ^ 256 / network.expectedEpochTimespan.toNat
        < (product % 2 ^ 256 + network.expectedEpochTimespan.toNat) /
            network.expectedEpochTimespan.toNat := by
          rw [add_div_right _ positive]
          omega
      _ ≤ product / network.expectedEpochTimespan.toNat := Nat.div_le_div_right (by omega)

/-- Without overflow a longer timespan gives the same quarter of a target only by rounding. -/
theorem div_eq_quarter_iff {target quarter timespan : Nat} (positive : 0 < quarter)
    (longer : quarter ≤ timespan) :
    target * timespan / (4 * quarter) = target * quarter / (4 * quarter) ↔
      target * (timespan - quarter) < (4 - target % 4) * quarter := by
  have quotient : target * quarter / (4 * quarter) = target / 4 :=
    Nat.mul_div_mul_right _ _ positive
  have product : target * timespan = target * quarter + target * (timespan - quarter) := by
    rw [← Nat.mul_add, Nat.add_sub_cancel' longer]
  have parts : target * quarter = target / 4 * (4 * quarter) + target % 4 * quarter := by
    rw [← Nat.mul_assoc, ← Nat.add_mul, div_add_mod']
  have rest : (4 - target % 4) * quarter + target % 4 * quarter = 4 * quarter := by
    rw [← Nat.add_mul, Nat.sub_add_cancel (mod_lt _ (by omega)).le]
  rw [quotient, Nat.div_eq_iff (by omega), product]
  generalize target / 4 * (4 * quarter) = whole at *
  omega

/-- Multiples of a number with the same quotient by a smaller one are equal. -/
theorem eq_of_div_eq {step divisor first second : Nat} (positive : 0 < divisor)
    (smaller : divisor ≤ step) (left : step ∣ first) (right : step ∣ second)
    (same : first / divisor = second / divisor) : first = second := by
  have close : ∀ {low high : Nat}, low / divisor = high / divisor → high < low + step := by
    intro low high equal
    have above := Nat.lt_mul_div_succ high positive
    have below := Nat.mul_div_le low divisor
    rw [← equal, Nat.mul_succ] at above
    omega
  obtain ⟨first, rfl⟩ := left
  obtain ⟨second, rfl⟩ := right
  have upper := close same
  have lower := close same.symm
  rw [← Nat.mul_succ] at upper lower
  have := Nat.lt_of_mul_lt_mul_left upper
  have := Nat.lt_of_mul_lt_mul_left lower
  rw [show first = second by omega]

/-- A target whose product with a timespan overflows is a multiple of a large power of two. -/
theorem dvd_bitsToTarget {bits : UInt32} (large : 2 ^ 233 ≤ beNat (bitsToTarget bits).toList) :
    2 ^ 216 ∣ beNat (bitsToTarget bits).toList := by
  rw [beNat_bitsToTarget] at large ⊢
  split_ifs at large ⊢ with clear
  · have word : bits.toNat % 2 ^ 23 < 2 ^ 23 := mod_lt _ (by omega)
    unfold setCompact at large ⊢
    dsimp only at large ⊢
    have bound := large.trans (mod_le _ _)
    split_ifs at large bound ⊢ with narrow
    · have := Nat.div_le_self (bits.toNat % 2 ^ 23) (256 ^ (3 - bits.toNat / 2 ^ 24))
      omega
    · have wide : 27 ≤ bits.toNat / 2 ^ 24 - 3 := by
        by_contra short
        have := Nat.mul_le_mul word.le (Nat.pow_le_pow_right (by decide : 0 < 256)
          (by omega : bits.toNat / 2 ^ 24 - 3 ≤ 26))
        omega
      refine (Nat.dvd_mod_iff (by decide +kernel)).mpr (Dvd.dvd.mul_left ?_ _)
      exact Nat.pow_dvd_pow 256 wide
  · exact dvd_zero _

/-- A timespan that is counted instead of a quarter of the expected one makes no difference to the
target: the surplus is lost in rounding, or, if the product does not fit into 256 bits, all of it is
cut off with the high bits. -/
def SurplusLost (target timespan quarter : Nat) : Prop :=
  if target * timespan < 2 ^ 256 then target * (timespan - quarter) < (4 - target % 4) * quarter
  else target * quarter < 2 ^ 256 ∧ 2 ^ 256 ∣ target * (timespan - quarter)

theorem wrapped_eq_quarter_iff {target quarter timespan : Nat} (positive : 0 < quarter)
    (small : 4 * quarter ≤ 2 ^ 216) (longer : quarter ≤ timespan)
    (coarse : 2 ^ 256 ≤ target * timespan → 2 ^ 216 ∣ target) :
    target * timespan % 2 ^ 256 / (4 * quarter) = target * quarter / (4 * quarter) ↔
      SurplusLost target timespan quarter := by
  unfold SurplusLost
  split_ifs with fits
  · rw [mod_eq_of_lt fits, div_eq_quarter_iff positive longer]
  · have multiple := coarse (Nat.le_of_not_lt fits)
    have wrapped : 2 ^ 216 ∣ target * timespan % 2 ^ 256 :=
      (Nat.dvd_mod_iff (by decide +kernel)).mpr (multiple.mul_right _)
    have product : target * timespan = target * quarter + target * (timespan - quarter) := by
      rw [← Nat.mul_add, Nat.add_sub_cancel' longer]
    constructor
    · intro same
      have equal := eq_of_div_eq (by omega) small wrapped (multiple.mul_right quarter) same
      rw [product] at equal
      omega
    · rintro ⟨least, lost⟩
      rw [product, show (target * quarter + target * (timespan - quarter)) % 2 ^ 256 =
        target * quarter by omega]

/-- The code computes Bitcoin's target exactly when the epoch does not end before it starts and
the product fits into 256 bits, or when it does and the wrapped timespan, forced into the allowed
range, has no surplus over a quarter of the expected one that matters. -/
theorem calculateNewDifficulty_eq_signedRetarget_iff {epochStartTime lastTimestamp bits : UInt32}
    (bounded : beNat (bitsToTarget bits).toList ≤ network.constants.maxTarget.toNat) :
    beNat (calculateNewDifficulty network epochStartTime lastTimestamp bits).toList =
        signedRetarget network epochStartTime lastTimestamp bits ↔
      (epochStartTime ≤ lastTimestamp ∧ beNat (bitsToTarget bits).toList *
          allowedTimespan network (lastTimestamp - epochStartTime).toNat < 2 ^ 256) ∨
        (lastTimestamp < epochStartTime ∧ SurplusLost (beNat (bitsToTarget bits).toList)
          (allowedTimespan network (lastTimestamp - epochStartTime).toNat)
          (network.expectedEpochTimespan.toNat / 4)) := by
  obtain ⟨quarter, size, whole⟩ : ∃ quarter, (0 < quarter ∧ 4 * quarter < 2 ^ 21) ∧
      network.expectedEpochTimespan.toNat = 4 * quarter :=
    ⟨network.expectedEpochTimespan.toNat / 4, by cases network <;> decide⟩
  rw [Clementine.beNat_calculateNewDifficulty, signedRetarget_eq, UInt32.le_iff_toNat_le,
    UInt32.lt_iff_toNat_lt]
  rcases Nat.lt_or_ge lastTimestamp.toNat epochStartTime.toNat with backwards | ordered
  · -- a quarter of the target is below the cap, so only the quotients matter
    have counted : allowedTimespan network (lastTimestamp.toNat - epochStartTime.toNat) =
        quarter := by
      rw [allowedTimespan]
      omega
    have below : beNat (bitsToTarget bits).toList * quarter / (4 * quarter) <
        network.constants.maxTarget.toNat := by
      rw [Nat.div_lt_iff_lt_mul (by omega)]
      exact Nat.mul_lt_mul_of_le_of_lt bounded (by omega) (by cases network <;> decide +kernel)
    have range : quarter ≤ allowedTimespan network (lastTimestamp - epochStartTime).toNat ∧
        allowedTimespan network (lastTimestamp - epochStartTime).toNat ≤ 2 ^ 23 := by
      rw [allowedTimespan]
      omega
    have coarse : 2 ^ 256 ≤ beNat (bitsToTarget bits).toList *
        allowedTimespan network (lastTimestamp - epochStartTime).toNat →
          2 ^ 216 ∣ beNat (bitsToTarget bits).toList := by
      intro overflow
      apply dvd_bitsToTarget
      by_contra small
      have := Nat.mul_le_mul (Nat.le_sub_one_of_lt (Nat.lt_of_not_le small)) range.2
      omega
    have lost := wrapped_eq_quarter_iff size.1 (by omega) range.1 coarse
    rw [counted, whole, Nat.mul_div_cancel_left _ (by decide : 0 < 4), ← lost]
    omega
  · rw [toNat_sub_times ordered]
    constructor
    · intro same
      refine .inl ⟨ordered, Nat.lt_of_not_le fun overflow => ?_⟩
      have smaller := wrapped_lt_of_overflow bounded overflow
      omega
    · rintro (⟨-, fits⟩ | ⟨backwards, -⟩)
      · rw [Nat.mod_eq_of_lt fits]
      · omega

/-- An epoch that seems to end one second before it starts makes mining four times easier
instead of harder. -/
theorem calculateNewDifficulty_backwards :
    beNat (bitsToTarget 0x1B0404CB).toList ≤ Network.mainnet.constants.maxTarget.toNat ∧
      beNat (calculateNewDifficulty .mainnet 1300000000 1299999999 0x1B0404CB).toList =
        4 * beNat (bitsToTarget 0x1B0404CB).toList ∧
      signedRetarget .mainnet 1300000000 1299999999 0x1B0404CB =
        beNat (bitsToTarget 0x1B0404CB).toList / 4 ∧
      beNat (calculateNewDifficulty .mainnet 1300000000 1299999999 0x1B0404CB).toList ≠
        signedRetarget .mainnet 1300000000 1299999999 0x1B0404CB := by
  decide +kernel

theorem calculateNewDifficulty_fortnight :
    beNat (calculateNewDifficulty .mainnet 1300000000 1301209600 0x1B0404CB).toList =
      signedRetarget .mainnet 1300000000 1301209600 0x1B0404CB :=
  (calculateNewDifficulty_eq_signedRetarget_iff (by decide +kernel)).mpr (.inl (by decide +kernel))

/-- One adjustment follows the schedule. -/
theorem ValidBits.adjust {bits adjusted epochStartTime lastTimestamp : UInt32}
    (valid : ValidBits network bits) (other : network ≠ .regtest)
    (ordered : epochStartTime.toNat ≤ lastTimestamp.toNat)
    (picked : targetToBits (calculateNewDifficulty network epochStartTime lastTimestamp bits) =
      .ok adjusted) :
    ValidBits network adjusted ∧ adjusted.toNat =
        nextBits network bits.toNat epochStartTime.toNat lastTimestamp.toNat := by
  have value := valid.beNat_calculateNewDifficulty other ordered
  refine ⟨validBits_of_targetToBits ?_ picked, ?_⟩
  · rw [value]
    exact Nat.min_le_left _ _
  · rw [(targetToBits_ok_iff.mp picked).2.2, value, nextBits]

variable (network) {blockHeader : CircuitBlockHeader} {seen : List CircuitBlockHeader}

/-! ## Appending a header -/

section Append

variable {height : Nat}

theorem headerTime_of_getElem? {blockHeaders : List CircuitBlockHeader}
    (foundAt : blockHeaders[height]? = some blockHeader) :
    headerTime blockHeaders height = blockHeader.time.toNat := by
  rw [headerTime, foundAt]
  rfl

theorem headerTime_append (inside : height < seen.length) :
    headerTime (seen ++ [blockHeader]) height = headerTime seen height := by
  rw [headerTime, headerTime, getElem?_append_left inside]

theorem headerTime_append_last :
    headerTime (seen ++ [blockHeader]) seen.length = blockHeader.time.toNat :=
  headerTime_of_getElem? getElem?_concat_length

theorem epochBits_append {epoch : Nat} (complete : 2016 * epoch ≤ seen.length) :
    epochBits network (seen ++ [blockHeader]) epoch = epochBits network seen epoch := by
  induction epoch with
  | zero => rfl
  | succ epoch ih =>
    rw [epochBits, epochBits, ih (by omega), headerTime_append (by omega),
      headerTime_append (by omega)]

theorem minimumDifficulty_append (inside : height < seen.length) (found : CircuitBlockHeader) :
    MinimumDifficulty network (seen ++ [blockHeader]) height found ↔
      MinimumDifficulty network seen height found := by
  rw [MinimumDifficulty, MinimumDifficulty, headerTime_append (by omega)]

theorem TimesFit.of_append (fit : TimesFit (seen ++ [blockHeader])) : TimesFit seen := by
  constructor
  · intro found member
    exact fit.bounded found (mem_append_left _ member)
  · intro epoch inside
    have ordered := fit.ordered epoch (by rw [length_append]; omega)
    rwa [headerTime_append (by omega), headerTime_append inside] at ordered

end Append

/-! ## Rounds and runs -/

/-- A loop state that is on the schedule of the headers seen so far. -/
structure OnSchedule (blockHeaders : List CircuitBlockHeader) (state : LoopState) : Prop where
  history : History network hashing blockHeaders state.chainState
  timeStored : state.TimeStored network
  lastBlockTime : network = .testnet4 → 1 ≤ blockHeaders.length →
    state.lastBlockTime.toNat = headerTime blockHeaders (blockHeaders.length - 1)
  valid : ValidBits network state.chainState.currentTargetBits
  currentBits : state.chainState.currentTargetBits.toNat =
    epochBits network blockHeaders (blockHeaders.length / 2016)
  headerBits : ∀ height blockHeader, blockHeaders[height]? = some blockHeader →
    (MinimumDifficulty network blockHeaders height blockHeader →
      blockHeader.bits = network.constants.maxBits) ∧
    (¬MinimumDifficulty network blockHeaders height blockHeader →
      blockHeader.bits.toNat = epochBits network blockHeaders (height / 2016))

namespace OnSchedule

variable {network hashing} {state : LoopState}

theorem genesis :
    OnSchedule network hashing [] (start network (ChainState.genesisState network)) where
  history := History.genesis network hashing
  timeStored := timeStored_start network _
  lastBlockTime := by simp
  valid := validBits_maxBits network
  currentBits := rfl
  headerBits := by simp

/-- The loop lets a header use the largest target exactly when the schedule does. -/
theorem usesMaxTarget_iff (onSchedule : OnSchedule network hashing seen state)
    (small : seen.length < 2 ^ 32) (fit : TimesFit seen) (blockHeader : CircuitBlockHeader) :
    UsesMaxTarget network state.nextHeight state.lastBlockTime blockHeader.time ↔
      MinimumDifficulty network (seen ++ [blockHeader]) seen.length blockHeader := by
  rw [UsesMaxTarget, MinimumDifficulty, Ne,
    onSchedule.history.startsEpoch_iff network hashing small]
  by_cases testnet : network = .testnet4
  · by_cases first : seen.length % 2016 = 0
    · simp [first]
    · have nonempty : 1 ≤ seen.length := by omega
      have time := onSchedule.lastBlockTime testnet nonempty
      have bound := fit.bounded _ (getElem_mem (show seen.length - 1 < seen.length by omega))
      rw [← headerTime_of_getElem? (getElem?_eq_getElem _), ← time] at bound
      have later : (state.lastBlockTime + 1200).toNat = state.lastBlockTime.toNat + 1200 := by
        rw [UInt32.toNat_add]
        change (_ + 1200) % 2 ^ 32 = _
        omega
      rw [headerTime_append (by omega), ← time, gt_iff_lt, lt_iff_toNat_lt, later]
      exact and_congr_right fun _ => and_comm
  · simp [testnet]

/-- The bits after a header. -/
theorem round_bits {next : LoopState} (onSchedule : OnSchedule network hashing seen state)
    (small : seen.length < 2 ^ 32) (other : network ≠ .regtest)
    (fit : TimesFit (seen ++ [blockHeader]))
    (applied : applyBlockHeader network hashing state blockHeader = .ok next) :
    ValidBits network next.chainState.currentTargetBits ∧
      next.chainState.currentTargetBits.toNat =
        epochBits network (seen ++ [blockHeader]) ((seen.length + 1) / 2016) := by
  obtain ⟨-, mmr, difficulty, -, adjusted, rfl⟩ :=
    (applyBlockHeader_ok_iff network hashing).mp applied
  have endsIff := onSchedule.history.endsEpoch_iff network hashing small
  rw [adjustDifficulty_ok_iff] at adjusted
  split at adjusted
  next ends =>
    obtain ⟨epoch, epochEq⟩ : ∃ epoch, seen.length = 2016 * epoch + 2015 :=
      ⟨seen.length / 2016, by have last := endsIff.mp ends.2; omega⟩
    obtain ⟨first, firstAt⟩ : ∃ first, seen[2016 * epoch]? = some first :=
      ⟨_, getElem?_eq_getElem (by omega)⟩
    have position : 2016 * (seen.length / 2016) = 2016 * epoch := by omega
    have startTime := onSchedule.history.nextEpochStartTime_eq network hashing small other
      (by omega) (by rw [position]; exact firstAt) blockHeader
    have firstTime : headerTime (seen ++ [blockHeader]) (2016 * epoch) = first.time.toNat := by
      rw [headerTime_append (by omega), headerTime_of_getElem? firstAt]
    have lastTime : headerTime (seen ++ [blockHeader]) (2016 * epoch + 2015) =
        blockHeader.time.toNat := by
      rw [← epochEq, headerTime_append_last]
    have ordered := fit.ordered epoch (by rw [length_append, length_singleton]; omega)
    rw [firstTime, lastTime] at ordered
    rw [startTime] at adjusted
    obtain ⟨targetEq, picked⟩ := adjusted
    rw [targetEq] at picked
    obtain ⟨valid, bitsEq⟩ := onSchedule.valid.adjust other ordered picked
    refine ⟨valid, ?_⟩
    rw [show (seen.length + 1) / 2016 = epoch + 1 by omega, epochBits, firstTime, lastTime,
      epochBits_append network (by omega), show epoch = seen.length / 2016 by omega,
      ← onSchedule.currentBits]
    exact bitsEq
  next continues =>
    subst adjusted
    refine ⟨onSchedule.valid, ?_⟩
    have inside : seen.length % 2016 ≠ 2015 := fun last => continues ⟨other, endsIff.mpr last⟩
    rw [show (seen.length + 1) / 2016 = seen.length / 2016 by omega,
      epochBits_append network (by omega)]
    exact onSchedule.currentBits

/-- One round stays on the schedule. -/
theorem round {next : LoopState} (onSchedule : OnSchedule network hashing seen state)
    (small : seen.length < 2 ^ 32) (other : network ≠ .regtest)
    (fit : TimesFit (seen ++ [blockHeader]))
    (applied : applyBlockHeader network hashing state blockHeader = .ok next) :
    OnSchedule network hashing (seen ++ [blockHeader]) next := by
  have bits := onSchedule.round_bits small other fit applied
  have maxIff := onSchedule.usesMaxTarget_iff small fit.of_append blockHeader
  refine ⟨onSchedule.history.round network hashing small applied,
    applyBlockHeader_timeStored network hashing onSchedule.timeStored applied, ?_, bits.1, ?_, ?_⟩
  · intro testnet _
    obtain ⟨-, mmr, difficulty, -, -, rfl⟩ := (applyBlockHeader_ok_iff network hashing).mp applied
    rw [length_append, length_singleton, Nat.add_sub_cancel, headerTime_append_last]
    simp only [advance, if_pos testnet]
  · rw [length_append, length_singleton]
    exact bits.2
  · intro height found foundAt
    rcases getElem?_append_singleton_eq_some foundAt with ⟨inside, foundAt⟩ | ⟨rfl, rfl⟩
    · rw [minimumDifficulty_append network inside, epochBits_append network (by omega)]
      exact onSchedule.headerBits height found foundAt
    · obtain ⟨accepts, -⟩ := (applyBlockHeader_ok_iff network hashing).mp applied
      have expected := accepts.bits
      rw [← maxIff, epochBits_append network (by omega), ← onSchedule.currentBits]
      rw [expectedBits] at expected
      constructor
      · intro late
        rw [expected, if_pos (.inr late)]
      · intro early
        rw [expected, if_neg (not_or.mpr ⟨other, early⟩)]

theorem restart (onSchedule : OnSchedule network hashing seen state)
    (small : seen.length < 2 ^ 32) :
    OnSchedule network hashing seen (start network state.finish) := by
  have sameBits : (start network state.finish).chainState.currentTargetBits =
      state.chainState.currentTargetBits := by
    rw [start_chainState, finish_currentTargetBits]
  refine ⟨onSchedule.history.restart network hashing, timeStored_start network _, ?_,
    sameBits ▸ onSchedule.valid, sameBits ▸ onSchedule.currentBits, onSchedule.headerBits⟩
  intro testnet nonempty
  have stored := onSchedule.timeStored
  rw [LoopState.TimeStored, if_pos testnet] at stored
  have notStart : state.chainState.blockHeight ≠ 0xFFFFFFFF := by
    intro start
    have height := onSchedule.history.toNat_nextHeight network hashing small
    rw [nextHeight, start] at height
    change 0 = seen.length at height
    omega
  rw [← onSchedule.lastBlockTime testnet nonempty, stored notStart]
  simp [start, finish, testnet, notStart]

end OnSchedule

/-- Every run from the genesis state follows Bitcoin's difficulty schedule, in any number of
calls. -/
theorem applyBatches_genesis_schedule (other : network ≠ .regtest)
    (blockHeaders : List CircuitBlockHeader) (batches : List (List CircuitBlockHeader))
    (final : ChainState) (split : batches.flatten = blockHeaders)
    (small : blockHeaders.length < 2 ^ 32) (fit : TimesFit blockHeaders)
    (run : (ChainState.genesisState network).applyBatches network hashing batches = .ok final) :
    final.currentTargetBits.toNat = epochBits network blockHeaders (blockHeaders.length / 2016) ∧
    ∀ height blockHeader, blockHeaders[height]? = some blockHeader →
      (MinimumDifficulty network blockHeaders height blockHeader →
        blockHeader.bits = network.constants.maxBits) ∧
      (¬MinimumDifficulty network blockHeaders height blockHeader →
        blockHeader.bits.toNat = epochBits network blockHeaders (height / 2016)) := by
  subst split
  have onSchedule : ∀ _ : batches.flatten.length < 2 ^ 32, TimesFit batches.flatten →
      OnSchedule network hashing batches.flatten (start network final) := by
    refine applyBatches_history network hashing
      (fun seen state => seen.length < 2 ^ 32 → TimesFit seen →
        OnSchedule network hashing seen state) ?_ ?_ ?_ run
    · intro _ _
      exact OnSchedule.genesis
    · intro seen state blockHeader next onSchedule applied small fit
      rw [length_append, length_singleton] at small
      exact (onSchedule (by omega) fit.of_append).round (by omega) other fit applied
    · intro seen state onSchedule small fit
      exact (onSchedule small fit).restart small
  have reached := onSchedule small fit
  exact ⟨reached.currentBits, reached.headerBits⟩

/-- The first two blocks of `mainnet`, in two calls. -/
theorem applyBatches_genesis_schedule_mainnet :
    ∃ final, (ChainState.genesisState .mainnet).applyBatches .mainnet (.ofSha256 Sha2.sha256)
        [[mainnetBlock0], [mainnetBlock1]] = .ok final ∧
      final.currentTargetBits.toNat = 0x1D00FFFF := by
  obtain ⟨-, final, -, -, run⟩ := mainnet_accepted
  have fit : TimesFit [mainnetBlock0, mainnetBlock1] :=
    ⟨by decide, fun epoch inside => by simp at inside⟩
  exact ⟨final, run, (applyBatches_genesis_schedule .mainnet (.ofSha256 Sha2.sha256) (by decide)
    [mainnetBlock0, mainnetBlock1] _ final rfl (by decide) fit run).1⟩

end Clementine
