import Clementine.HeaderChain.ChainState

/-!
# Tracking the target of a call

The target that a header is checked against depends on the chain state at the
start of the call and on the times of the headers before it.  `TargetTracker`
computes it from these alone, with the adjusted target in full precision.
-/

namespace Clementine

open ByteNumeral

variable (network : Network) (hashing : BlockHashing)

/-! ## Tracking the target -/

/-- The part of the loop state that the target of the next header depends on. -/
structure TargetTracker where
  blockHeight : UInt32
  lastBlockTime : UInt32
  epochStartTime : UInt32
  currentTargetBits : UInt32
  currentTargetBytes : Bytes32
  deriving DecidableEq

/-- The tracked part of a loop state. -/
def LoopState.tracker (state : LoopState) : TargetTracker where
  blockHeight := state.chainState.blockHeight
  lastBlockTime := state.lastBlockTime
  epochStartTime := state.chainState.epochStartTime
  currentTargetBits := state.chainState.currentTargetBits
  currentTargetBytes := state.currentTargetBytes

namespace TargetTracker

/-- Target of the next header. -/
def targetToUse (tracker : TargetTracker) (blockHeader : CircuitBlockHeader) : Bytes32 :=
  if UsesMaxTarget network (tracker.blockHeight + 1) tracker.lastBlockTime blockHeader.time then
    network.constants.maxTargetBytes
  else
    tracker.currentTargetBytes

/-- The tracker after a header. -/
def step (tracker : TargetTracker) (blockHeader : CircuitBlockHeader) : TargetTracker :=
  let blockHeight := tracker.blockHeight + 1
  let lastBlockTime := if network = .testnet4 then blockHeader.time else tracker.lastBlockTime
  let epochStartTime :=
    if network ≠ .regtest ∧ blockHeight % blocksPerEpoch = 0 then
      blockHeader.time
    else
      tracker.epochStartTime
  if network ≠ .regtest ∧ blockHeight % blocksPerEpoch = blocksPerEpoch - 1 then
    let newTarget := calculateNewDifficulty network epochStartTime blockHeader.time
      tracker.currentTargetBits
    { blockHeight, lastBlockTime, epochStartTime
      currentTargetBits := (targetToBits newTarget).toOption.getD 0
      currentTargetBytes := newTarget }
  else
    { tracker with blockHeight, lastBlockTime, epochStartTime }

/-- The tracker of a call on `self` after some headers. -/
def ofCall (self : ChainState) (blockHeaders : List CircuitBlockHeader) : TargetTracker :=
  blockHeaders.foldl (step network) (LoopState.start network self).tracker

/-- The tracker of a second call that starts where the first one stopped. -/
def restart (tracker : TargetTracker) : TargetTracker :=
  { tracker with
    lastBlockTime :=
      if network = .testnet4 ∧ tracker.blockHeight ≠ 0xFFFFFFFF then
        tracker.lastBlockTime
      else
        0
    currentTargetBytes :=
      if network = .regtest then
        network.constants.maxTarget.toBeBytes
      else
        bitsToTarget tracker.currentTargetBits }

end TargetTracker

theorem applyBlockHeader_tracker {state next : LoopState} {blockHeader : CircuitBlockHeader}
    (applied : applyBlockHeader network hashing state blockHeader = .ok next) :
    next.tracker = state.tracker.step network blockHeader := by
  obtain ⟨-, mmr, difficulty, -, adjusted, rfl⟩ :=
    (applyBlockHeader_ok_iff network hashing).mp applied
  rw [adjustDifficulty_ok_iff] at adjusted
  change _ = if network ≠ .regtest ∧ state.nextHeight % blocksPerEpoch = blocksPerEpoch - 1 then
    _ else _
  split at adjusted
  next ends =>
    obtain ⟨target, bits⟩ := difficulty
    obtain ⟨rfl, picked⟩ := adjusted
    rw [if_pos ends]
    change TargetTracker.mk _ _ _ bits _ =
      TargetTracker.mk _ _ _ ((targetToBits (calculateNewDifficulty network
        (state.nextEpochStartTime network blockHeader) blockHeader.time
        state.chainState.currentTargetBits)).toOption.getD 0) _
    rw [picked]
    rfl
  next continues =>
    rw [if_neg continues, adjusted]
    rfl

theorem run_tracker {state final : LoopState} {blockHeaders : List CircuitBlockHeader}
    (run : blockHeaders.foldlM (applyBlockHeader network hashing) state = .ok final) :
    final.tracker = blockHeaders.foldl (TargetTracker.step network) state.tracker := by
  have tracked := ExceptRun.run_history
    (fun seen reached => reached.tracker = seen.foldl (TargetTracker.step network) state.tracker)
    [] rfl
    (fun seen before blockHeader next equal applied => by
      rw [List.foldl_append, ← equal]
      exact applyBlockHeader_tracker network hashing applied)
    run
  exact tracked

/-! ## Work -/

/-- Every header adds the work of the target that it is checked against. -/
theorem LoopState.workToAdd_eq (state : LoopState) (blockHeader : CircuitBlockHeader) :
    state.workToAdd network blockHeader =
      calculateWork (state.targetToUse network blockHeader) := by
  rw [workToAdd, targetToUse]
  split
  next late =>
    rw [late.1]
    exact calculateWork_maxTarget_testnet4.symm
  next => rfl

/-- A header that is checked against two targets meets the second one and counts for the
same work. -/
def Interchangeable (target target' : Bytes32) (blockHeader : CircuitBlockHeader) : Prop :=
  target ≠ target' → leNat (hashing.computeBlockHash blockHeader).toList ≤ beNat target'.toList ∧
      calculateWork target = calculateWork target'

namespace Interchangeable

variable {hashing} {target target' : Bytes32} {blockHeader : CircuitBlockHeader}

theorem work (agrees : Interchangeable hashing target target' blockHeader) :
    calculateWork target = calculateWork target' := by
  by_cases equal : target = target'
  · rw [equal]
  · exact (agrees equal).2

theorem proofOfWork (agrees : Interchangeable hashing target target' blockHeader)
    (valid : leNat (hashing.computeBlockHash blockHeader).toList ≤ beNat target.toList) :
    leNat (hashing.computeBlockHash blockHeader).toList ≤ beNat target'.toList := by
  by_cases equal : target = target'
  · rw [← equal]
    exact valid
  · exact (agrees equal).1

end Interchangeable

/-! ## Sample headers -/

/-- A `mainnet` state one block before the end of the first epoch. -/
def beforeAdjustment : ChainState :=
  { ChainState.new .mainnet with blockHeight := 2014, epochStartTime := 1000 }

/-- The last header of the first epoch, one second earlier than expected. -/
def lastOfEpoch : CircuitBlockHeader := ⟨1, zeroBytes, zeroBytes, 1210599, 0x1D00FFFF, 0⟩

/-- The first header of the second epoch. -/
def firstOfEpoch : CircuitBlockHeader := ⟨1, zeroBytes, zeroBytes, 1210600, 0x1D00FFFE, 0⟩

end Clementine
