import Clementine.HeaderChain.Target
import Clementine.HeaderChain.MMR.Model
import Clementine.Lib.Sha2
import Mathlib.Data.List.Sort

/-!
# The chain state and its loop over block headers

`apply_block_headers` checks a list of headers against a `ChainState` and updates
it.  Three values live in local variables of the call: the expanded target, the
accumulated work and the time of the previous block.  They are set up from the
chain state when a call starts, and only the work is written back at its end.

Block hashing is a parameter: nothing in the loop depends on how a header is
hashed.
-/

namespace Clementine

open ByteNumeral ExceptRun

/-! ## Block headers -/

/-- `CircuitBlockHeader`. -/
structure CircuitBlockHeader where
  version : Int32
  prevBlockHash : Bytes32
  merkleRoot : Bytes32
  time : UInt32
  bits : UInt32
  nonce : UInt32
  deriving DecidableEq

/-- `CircuitBlockHeader::compute_block_hash`. -/
def CircuitBlockHeader.computeBlockHash (sha256 : Sha256) (self : CircuitBlockHeader) :
    Bytes32 :=
  calculateDoubleSha256 sha256
    (u32LeBytes self.version.toUInt32 ++ self.prevBlockHash.toList ++ self.merkleRoot.toList ++
      u32LeBytes self.time ++ u32LeBytes self.bits ++ u32LeBytes self.nonce)

/-- The hash functions that the loop calls. -/
structure BlockHashing where
  computeBlockHash : CircuitBlockHeader → Bytes32
  hashPair : Bytes32 → Bytes32 → Bytes32

/-- The hash functions of the source. -/
def BlockHashing.ofSha256 (sha256 : Sha256) : BlockHashing where
  computeBlockHash := CircuitBlockHeader.computeBlockHash sha256
  hashPair := Clementine.hashPair sha256

/-- Hashes for sample runs: every header meets every target. -/
def zeroHashing : BlockHashing where
  computeBlockHash _ := zeroBytes
  hashPair _ _ := zeroBytes

/-- The first block of `mainnet`. -/
def mainnetBlock0 : CircuitBlockHeader where
  version := 1
  prevBlockHash := zeroBytes
  merkleRoot := beBytes 32 0x3BA3EDFD7A7B12B27AC72C3E67768F617FC81BC3888A51323A9FB8AA4B1E5E4A
  time := 0x495FAB29
  bits := 0x1D00FFFF
  nonce := 0x7C2BAC1D

/-- The second block of `mainnet`. -/
def mainnetBlock1 : CircuitBlockHeader where
  version := 1
  prevBlockHash := beBytes 32 0x6FE28C0AB6F1B372C1A6A246AE63F74F931E8365E15A089C68D6190000000000
  merkleRoot := beBytes 32 0x982051FD1E4BA744BBBE680E1FEE14677BA1A3C3540BF7B1CDB606E857233E0E
  time := 0x4966BC61
  bits := 0x1D00FFFF
  nonce := 0x9962E301

/-! ## Chain states -/

/-- `ChainState`. -/
structure ChainState where
  blockHeight : UInt32
  totalWork : Bytes32
  bestBlockHash : Bytes32
  currentTargetBits : UInt32
  epochStartTime : UInt32
  prev11Timestamps : Vector UInt32 11
  blockHashesMmr : MMRGuest Bytes32
  deriving DecidableEq

variable (network : Network) (hashing : BlockHashing)

/-- `ChainState::new`. -/
def ChainState.new : ChainState where
  blockHeight := 0xFFFFFFFF
  totalWork := zeroBytes
  bestBlockHash := zeroBytes
  currentTargetBits := network.constants.maxBits
  epochStartTime := 0
  prev11Timestamps := Vector.replicate 11 0
  blockHashesMmr := MMRGuest.new

/-- `ChainState::genesis_state`. -/
def ChainState.genesisState : ChainState := ChainState.new network

/-! ## Timestamps -/

/-- `median`. -/
def median (arr : Vector UInt32 11) : UInt32 :=
  (arr.toList.insertionSort (· ≤ ·))[5]?.getD 0

/-- `validate_timestamp`. -/
def validateTimestamp (blockTime : UInt32) (prev11Timestamps : Vector UInt32 11) : Bool :=
  blockTime > median prev11Timestamps

/-! ## The loop -/

/-- The chain state and the local variables of `apply_block_headers`. -/
structure LoopState where
  chainState : ChainState
  currentTargetBytes : Bytes32
  currentWork : U256
  lastBlockTime : UInt32
  deriving DecidableEq

/-- The start of `apply_block_headers`. -/
def LoopState.start (self : ChainState) : LoopState where
  chainState := self
  currentTargetBytes :=
    if network = .regtest then
      network.constants.maxTarget.toBeBytes
    else
      bitsToTarget self.currentTargetBits
  currentWork := U256.fromBeBytes self.totalWork
  lastBlockTime :=
    if network = .testnet4 then
      if self.blockHeight = 0xFFFFFFFF then
        0
      else
        self.prev11Timestamps[self.blockHeight.toNat % 11]
    else
      0

@[simp] theorem LoopState.start_chainState (self : ChainState) :
    (LoopState.start network self).chainState = self := rfl

/-- The end of `apply_block_headers`. -/
def LoopState.finish (state : LoopState) : ChainState :=
  { state.chainState with totalWork := state.currentWork.toBeBytes }

@[simp] theorem LoopState.finish_currentTargetBits (state : LoopState) :
    state.finish.currentTargetBits = state.chainState.currentTargetBits := rfl

/-- Height of the next header; it wraps from `u32::MAX` to zero. -/
def LoopState.nextHeight (state : LoopState) : UInt32 := state.chainState.blockHeight + 1

/-- Target, bits and work that the loop selects for a header. -/
def selectTarget (state : LoopState) (blockHeight time : UInt32) : Bytes32 × UInt32 × U256 :=
  let realTarget := (state.currentTargetBytes, state.chainState.currentTargetBits,
    calculateWork state.currentTargetBytes)
  if network = .testnet4 then
    if time > state.lastBlockTime + 1200 then
      if blockHeight % blocksPerEpoch = 0 then
        realTarget
      else
        (network.constants.maxTargetBytes, network.constants.maxBits, minimumWorkTestnet)
    else
      realTarget
  else
    realTarget

/-- `assert_eq!` with a message. -/
def assertEq {α : Type} [DecidableEq α] (left right : α) (text : String) : Except Panic Unit :=
  if left = right then .ok () else .error (.message text)

/-- Message of the assertion on the previous hash. -/
def previousHashText (expected got : List UInt8) : String :=
  s!"Previous block hash does not match the best block hash. Expected: {expected}, got: {got}"

/-- Message of the assertion on the bits of a `regtest` header. -/
def regtestBitsText (expected got : UInt32) : String :=
  s!"Bits for regtest must be equal to the maximum bits: {expected}. Got: {got}"

/-- Message of the assertion on the bits of a header. -/
def bitsText (expected got : UInt32) : String :=
  s!"Bits for the block header must match the expected bits: {expected}. Got: {got}"

/-- The assertion on the bits of a header. -/
def checkBits (expectedBits bits : UInt32) : Except Panic Unit :=
  if network = .regtest then
    assertEq bits network.constants.maxBits (regtestBitsText network.constants.maxBits bits)
  else
    assertEq bits expectedBits (bitsText expectedBits bits)

/-- The check on the time of a header. -/
def checkTimestamp (time : UInt32) (prev11Timestamps : Vector UInt32 11) : Except Panic Unit :=
  if validateTimestamp time prev11Timestamps then
    .ok ()
  else
    .error (.message
      "Timestamp is not valid, it must be greater than the median of the last 11 timestamps")

/-- The target and the bits after a header: recomputed at the last height of an epoch. -/
def adjustDifficulty (state : LoopState) (blockHeight epochStartTime time : UInt32) :
    Except Panic (Bytes32 × UInt32) :=
  if network ≠ .regtest ∧ blockHeight % blocksPerEpoch = blocksPerEpoch - 1 then do
    let currentTargetBytes := calculateNewDifficulty network epochStartTime time
      state.chainState.currentTargetBits
    let currentTargetBits ← targetToBits currentTargetBytes
    return (currentTargetBytes, currentTargetBits)
  else
    .ok (state.currentTargetBytes, state.chainState.currentTargetBits)

/-- One round of the loop of `apply_block_headers`. -/
def applyBlockHeader (state : LoopState) (blockHeader : CircuitBlockHeader) :
    Except Panic LoopState := do
  let self := state.chainState
  let blockHeight := state.nextHeight
  let (targetToUse, expectedBits, workToAdd) :=
    selectTarget network state blockHeight blockHeader.time
  let newBlockHash := hashing.computeBlockHash blockHeader
  assertEq blockHeader.prevBlockHash self.bestBlockHash
    (previousHashText self.bestBlockHash.toList blockHeader.prevBlockHash.toList)
  checkBits network expectedBits blockHeader.bits
  checkHashValid newBlockHash targetToUse
  checkTimestamp blockHeader.time self.prev11Timestamps
  let blockHashesMmr ← self.blockHashesMmr.append hashing.hashPair newBlockHash
  let epochStartTime :=
    if network ≠ .regtest ∧ blockHeight % blocksPerEpoch = 0 then
      blockHeader.time
    else
      self.epochStartTime
  let (currentTargetBytes, currentTargetBits) ←
    adjustDifficulty network state blockHeight epochStartTime blockHeader.time
  return {
    chainState := {
      blockHeight
      totalWork := self.totalWork
      bestBlockHash := newBlockHash
      currentTargetBits
      epochStartTime
      prev11Timestamps :=
        self.prev11Timestamps.set (blockHeight.toNat % 11) blockHeader.time
      blockHashesMmr }
    currentTargetBytes
    currentWork := state.currentWork + workToAdd
    lastBlockTime := if network = .testnet4 then blockHeader.time else state.lastBlockTime }

/-- `ChainState::apply_block_headers`. -/
def ChainState.applyBlockHeaders (self : ChainState) (blockHeaders : List CircuitBlockHeader) :
    Except Panic ChainState := do
  let state ← blockHeaders.foldlM (applyBlockHeader network hashing) (LoopState.start network self)
  return state.finish

/-! ## One round of the loop -/

/-- A `testnet4` header that comes late enough to use the largest target. -/
def UsesMaxTarget (blockHeight lastBlockTime time : UInt32) : Prop :=
  network = .testnet4 ∧ time > lastBlockTime + 1200 ∧ blockHeight % blocksPerEpoch ≠ 0

instance (blockHeight lastBlockTime time : UInt32) :
    Decidable (UsesMaxTarget network blockHeight lastBlockTime time) :=
  inferInstanceAs (Decidable (_ ∧ _ ∧ _))

theorem selectTarget_eq (state : LoopState) (blockHeight time : UInt32) :
    selectTarget network state blockHeight time =
      if UsesMaxTarget network blockHeight state.lastBlockTime time then
        (network.constants.maxTargetBytes, network.constants.maxBits, minimumWorkTestnet)
      else
        (state.currentTargetBytes, state.chainState.currentTargetBits,
          calculateWork state.currentTargetBytes) := by
  by_cases testnet : network = .testnet4
  · by_cases late : time > state.lastBlockTime + 1200
    · by_cases first : blockHeight % blocksPerEpoch = 0 <;>
        simp [selectTarget, UsesMaxTarget, testnet, late, first]
    · simp [selectTarget, UsesMaxTarget, testnet, late]
  · simp [selectTarget, UsesMaxTarget, testnet]

namespace LoopState

variable (state : LoopState) (blockHeader : CircuitBlockHeader)

/-- Target that the next header's hash is compared with. -/
def targetToUse : Bytes32 :=
  if UsesMaxTarget network state.nextHeight state.lastBlockTime blockHeader.time then
    network.constants.maxTargetBytes
  else
    state.currentTargetBytes

/-- Bits that the next header must carry. -/
def expectedBits : UInt32 :=
  if network = .regtest ∨
      UsesMaxTarget network state.nextHeight state.lastBlockTime blockHeader.time then
    network.constants.maxBits
  else
    state.chainState.currentTargetBits

/-- Work that the next header adds. -/
def workToAdd : U256 :=
  if UsesMaxTarget network state.nextHeight state.lastBlockTime blockHeader.time then
    minimumWorkTestnet
  else
    calculateWork state.currentTargetBytes

/-- Start time of the epoch that contains the next header. -/
def nextEpochStartTime : UInt32 :=
  if network ≠ .regtest ∧ state.nextHeight % blocksPerEpoch = 0 then
    blockHeader.time
  else
    state.chainState.epochStartTime

/-- The checks that the next header has to pass. -/
structure Accepts : Prop where
  connected : blockHeader.prevBlockHash = state.chainState.bestBlockHash
  bits : blockHeader.bits = state.expectedBits network blockHeader
  proofOfWork : leNat (hashing.computeBlockHash blockHeader).toList ≤
    beNat (state.targetToUse network blockHeader).toList
  timestamp : median state.chainState.prev11Timestamps < blockHeader.time

/-- The state after the next header, given the appended range and the adjusted
difficulty. -/
def advance (blockHashesMmr : MMRGuest Bytes32) (difficulty : Bytes32 × UInt32) : LoopState where
  chainState := {
    blockHeight := state.nextHeight
    totalWork := state.chainState.totalWork
    bestBlockHash := hashing.computeBlockHash blockHeader
    currentTargetBits := difficulty.2
    epochStartTime := state.nextEpochStartTime network blockHeader
    prev11Timestamps :=
      state.chainState.prev11Timestamps.set (state.nextHeight.toNat % 11) blockHeader.time
    blockHashesMmr }
  currentTargetBytes := difficulty.1
  currentWork := state.currentWork + state.workToAdd network blockHeader
  lastBlockTime := if network = .testnet4 then blockHeader.time else state.lastBlockTime

end LoopState

theorem startsEpoch_iff (blockHeight : UInt32) :
    blockHeight % blocksPerEpoch = 0 ↔ blockHeight.toNat % 2016 = 0 := by
  rw [← UInt32.toNat_inj, UInt32.toNat_mod]
  rfl

theorem endsEpoch_iff (blockHeight : UInt32) :
    blockHeight % blocksPerEpoch = blocksPerEpoch - 1 ↔ blockHeight.toNat % 2016 = 2015 := by
  rw [← UInt32.toNat_inj, UInt32.toNat_mod]
  rfl

theorem LoopState.toNat_nextHeight (state : LoopState) :
    state.nextHeight.toNat = (state.chainState.blockHeight.toNat + 1) % 2 ^ 32 := by
  rw [nextHeight, UInt32.toNat_add]
  rfl

theorem selectTarget_targetToUse (state : LoopState) (blockHeader : CircuitBlockHeader) :
    (selectTarget network state state.nextHeight blockHeader.time).1 =
      state.targetToUse network blockHeader := by
  rw [selectTarget_eq, LoopState.targetToUse]
  split <;> rfl

theorem selectTarget_expectedBits (state : LoopState) (blockHeader : CircuitBlockHeader) :
    (if network = .regtest then network.constants.maxBits
      else (selectTarget network state state.nextHeight blockHeader.time).2.1) =
      state.expectedBits network blockHeader := by
  rw [selectTarget_eq, LoopState.expectedBits]
  by_cases regtest : network = .regtest
  · simp [regtest]
  · by_cases late : UsesMaxTarget network state.nextHeight state.lastBlockTime blockHeader.time <;>
      simp [regtest, late]

theorem selectTarget_workToAdd (state : LoopState) (blockHeader : CircuitBlockHeader) :
    (selectTarget network state state.nextHeight blockHeader.time).2.2 =
      state.workToAdd network blockHeader := by
  rw [selectTarget_eq, LoopState.workToAdd]
  split <;> rfl

theorem assertEq_ok_iff {α : Type} [DecidableEq α] {left right : α} {text : String} :
    assertEq left right text = .ok () ↔ left = right := by
  rw [assertEq]
  split <;> simp_all

theorem checkBits_ok_iff {expectedBits bits : UInt32} :
    checkBits network expectedBits bits = .ok () ↔
      bits = if network = .regtest then network.constants.maxBits else expectedBits := by
  rw [checkBits]
  split <;> exact assertEq_ok_iff

theorem checkTimestamp_ok_iff {time : UInt32} {prev11Timestamps : Vector UInt32 11} :
    checkTimestamp time prev11Timestamps = .ok () ↔ median prev11Timestamps < time := by
  by_cases later : median prev11Timestamps < time <;>
    simp [checkTimestamp, validateTimestamp, later]

theorem adjustDifficulty_ok_iff {state : LoopState} {blockHeight epochStartTime time : UInt32}
    {difficulty : Bytes32 × UInt32} :
    adjustDifficulty network state blockHeight epochStartTime time = .ok difficulty ↔
      if network ≠ .regtest ∧ blockHeight % blocksPerEpoch = blocksPerEpoch - 1 then
        difficulty.1 = calculateNewDifficulty network epochStartTime time
          state.chainState.currentTargetBits ∧ targetToBits difficulty.1 = .ok difficulty.2
      else
        difficulty = (state.currentTargetBytes, state.chainState.currentTargetBits) := by
  rw [adjustDifficulty]
  split
  · rw [bind_ok_iff]
    constructor
    · rintro ⟨bits, picked, equal⟩
      cases equal
      exact ⟨rfl, picked⟩
    · rintro ⟨targetEq, picked⟩
      exact ⟨difficulty.2, targetEq ▸ picked, by rw [← targetEq]; rfl⟩
  · rw [Except.ok.injEq, eq_comm]

variable {blockHeader : CircuitBlockHeader} {state next : LoopState}

/-- A round succeeds exactly when the header passes its checks and neither the range nor
the difficulty adjustment stops the program. -/
theorem applyBlockHeader_ok_iff : applyBlockHeader network hashing state blockHeader = .ok next ↔
      state.Accepts network hashing blockHeader ∧
      ∃ blockHashesMmr difficulty, state.chainState.blockHashesMmr.append hashing.hashPair
          (hashing.computeBlockHash blockHeader) = .ok blockHashesMmr ∧
        adjustDifficulty network state state.nextHeight
          (state.nextEpochStartTime network blockHeader) blockHeader.time = .ok difficulty ∧
        next = state.advance network hashing blockHeader blockHashesMmr difficulty := by
  unfold applyBlockHeader
  simp only [bind_ok_iff, selectTarget_targetToUse, selectTarget_workToAdd]
  constructor
  · rintro ⟨⟨⟩, connected, ⟨⟩, bits, ⟨⟩, proofOfWork, ⟨⟩, timestamp, mmr, appended, difficulty,
      adjusted, nextEq⟩
    refine ⟨⟨assertEq_ok_iff.mp connected, ?_, checkHashValid_ok_iff.mp proofOfWork,
      checkTimestamp_ok_iff.mp timestamp⟩, mmr, difficulty, appended, adjusted, ?_⟩
    · rw [← selectTarget_expectedBits]
      exact (checkBits_ok_iff network).mp bits
    · cases nextEq
      rfl
  · rintro ⟨⟨connected, bits, proofOfWork, timestamp⟩, mmr, difficulty, appended, adjusted, rfl⟩
    rw [← selectTarget_expectedBits] at bits
    exact ⟨(), assertEq_ok_iff.mpr connected, (), (checkBits_ok_iff network).mpr bits, (),
      checkHashValid_ok_iff.mpr proofOfWork, (), checkTimestamp_ok_iff.mpr timestamp, mmr,
      appended, difficulty, adjusted, rfl⟩

variable {blockHeaders : List CircuitBlockHeader} {self final : ChainState}

/-- A call succeeds when all its rounds do; its result is the final loop state with the
accumulated work. -/
theorem applyBlockHeaders_ok_iff : self.applyBlockHeaders network hashing blockHeaders = .ok final ↔
      ∃ state, blockHeaders.foldlM (applyBlockHeader network hashing)
        (LoopState.start network self) = .ok state ∧ final = state.finish := by
  rw [ChainState.applyBlockHeaders, bind_ok_iff]
  simp only [pure, Except.pure, Except.ok.injEq, eq_comm]

/-! ## The time of the previous block -/

/-- The time that a call keeps in a local variable can be read back from the stored
timestamps. -/
def LoopState.TimeStored (state : LoopState) : Prop :=
  if network = .testnet4 then
    state.chainState.blockHeight ≠ 0xFFFFFFFF → state.lastBlockTime =
        state.chainState.prev11Timestamps[state.chainState.blockHeight.toNat % 11]
  else
    state.lastBlockTime = 0

theorem LoopState.timeStored_start (self : ChainState) :
    (LoopState.start network self).TimeStored network := by
  by_cases testnet : network = .testnet4
  · simp only [TimeStored, start, if_pos testnet]
    exact fun later => if_neg later
  · simp only [TimeStored, start, if_neg testnet]

theorem applyBlockHeader_timeStored (stored : state.TimeStored network)
    (applied : applyBlockHeader network hashing state blockHeader = .ok next) :
    next.TimeStored network := by
  obtain ⟨-, mmr, difficulty, -, -, rfl⟩ := (applyBlockHeader_ok_iff network hashing).mp applied
  by_cases testnet : network = .testnet4
  · simp only [LoopState.TimeStored, LoopState.advance, if_pos testnet]
    intro _
    rw [Vector.getElem_set_self]
  · simp only [LoopState.TimeStored, LoopState.advance, if_neg testnet] at stored ⊢
    exact stored

theorem run_timeStored {final : LoopState}
    (run : blockHeaders.foldlM (applyBlockHeader network hashing) (LoopState.start network self) =
      .ok final) : final.TimeStored network :=
  run_history (fun _ state => state.TimeStored network) [] (LoopState.timeStored_start network self)
    (fun _ _ _ _ stored applied => applyBlockHeader_timeStored network hashing stored applied) run

/-! ## Several calls -/

/-- Calls of `apply_block_headers` one after the other. -/
def ChainState.applyBatches (self : ChainState) (batches : List (List CircuitBlockHeader)) :
    Except Panic ChainState :=
  batches.foldlM (ChainState.applyBlockHeaders network hashing) self

/-- Invariant rule for several calls: a relation between the headers seen so far and the loop
state has to be kept by every round and by the start of a new call. -/
theorem applyBatches_history (holds : List CircuitBlockHeader → LoopState → Prop)
    {batches : List (List CircuitBlockHeader)} (initial : holds [] (LoopState.start network self))
    (preserved : ∀ seen state blockHeader next, holds seen state →
      applyBlockHeader network hashing state blockHeader = .ok next →
      holds (seen ++ [blockHeader]) next)
    (restarts : ∀ seen state, holds seen state → holds seen (LoopState.start network state.finish))
    (run : self.applyBatches network hashing batches = .ok final) :
    holds batches.flatten (LoopState.start network final) := by
  have history := run_history
    (fun seen reached => holds (List.flatten seen) (LoopState.start network reached)) [] initial
    (fun seen before batch next held applied => by
      obtain ⟨state, batchRun, rfl⟩ := (applyBlockHeaders_ok_iff network hashing).mp applied
      rw [List.flatten_append, List.flatten_singleton]
      exact restarts _ _ (run_history holds _ held preserved batchRun))
    run
  exact history

/-- The circuit accepts the first two blocks of `mainnet` in two calls. -/
theorem mainnet_accepted : ∃ first second : ChainState,
      (ChainState.genesisState .mainnet).applyBlockHeaders .mainnet
        (.ofSha256 Sha2.sha256) [mainnetBlock0] = .ok first ∧
      first.applyBlockHeaders .mainnet (.ofSha256 Sha2.sha256) [mainnetBlock1] = .ok second ∧
      (ChainState.genesisState .mainnet).applyBatches .mainnet (.ofSha256 Sha2.sha256)
        [[mainnetBlock0], [mainnetBlock1]] = .ok second := by
  obtain ⟨second, run⟩ := exists_eq_ok_of_isOk
    (show ((ChainState.genesisState .mainnet).applyBatches .mainnet (.ofSha256 Sha2.sha256)
      [[mainnetBlock0], [mainnetBlock1]]).isOk = true by decide +kernel)
  obtain ⟨first, firstRun, rest⟩ := run_cons_iff.mp run
  obtain ⟨reached, secondRun, ended⟩ := run_cons_iff.mp rest
  cases ended
  exact ⟨first, second, firstRun, secondRun, run⟩

end Clementine
