import Clementine.HeaderChain.EpochBits

/-!
# The chain state that the host starts from

The prover does not run the circuit over the whole chain before its first block.
`get_chain_state_from_height` asks a Bitcoin node for the headers around a height and
rebuilds the chain state from them.  The rebuilt state has a fresh range of block
hashes and takes the total work from the node; the other five fields are meant to be
those of the circuit.
-/

namespace Clementine

open ByteNumeral RingBuffer MMRGuest LoopState UInt64 Vector Nat

/-! ## The node -/

/-- The requests that are made through `ExtendedBitcoinRpc`.  Of the block information only
`chainwork` is read. -/
structure ExtendedBitcoinRpc where
  getBlockHash : UInt64 → Except String Bytes32
  getBlockHeader : Bytes32 → Except String CircuitBlockHeader
  getBlockInfo : Bytes32 → Except String (List UInt8)

/-- Ways in which the host function ends without a chain state: an error of the node under a
message of its own, or a panic. -/
inductive ProverFailure where
  | report (context cause : String)
  | panic (cause : Panic)
  deriving DecidableEq

/-- `wrap_err`. -/
def wrapErr {Value : Type} (answer : Except String Value) (context : String) :
    Except ProverFailure Value :=
  answer.mapError (.report context)

/-- A computation that may panic. -/
def orPanic {Value : Type} (result : Except Panic Value) : Except ProverFailure Value :=
  result.mapError .panic

/-- The text of a `BlockHash`: hexadecimal, last byte first. -/
def displayHash (hash : Bytes32) : String :=
  String.ofList (hash.toList.reverse.flatMap fun byte =>
    [Nat.digitChar (byte.toNat / 16), Nat.digitChar (byte.toNat % 16)])

/-- Message for a failed request of a block hash. -/
def blockHashText (height : UInt64) : String :=
  s!"Failed to get block hash at height {height}"

/-- Message for a failed request of a block header. -/
def blockHeaderText (blockHash : Bytes32) : String :=
  s!"Failed to get block header with block hash {displayHash blockHash}"

/-- Message for a failed request of the block information. -/
def blockInfoText (blockHash : Bytes32) : String :=
  s!"Failed to get block info with block hash {displayHash blockHash}"

/-! ## Rebuilding a chain state -/

section Host

variable (rpc : ExtendedBitcoinRpc) (network : Network) (hashing : BlockHashing)

theorem toNat_mod_eleven_lt (height : UInt64) : height.toNat % 11 < 11 :=
  mod_lt _ (by decide)

/-- The loop over the last eleven blocks, with the given number of rounds left.  It goes from
a block to its predecessor and stops at a block that points to the zero hash. -/
def collectTimestamps (last11BlockTimestamps : Vector UInt32 11) (lastBlockHash : Bytes32)
    (lastBlockHeight : UInt64) : Nat → Except ProverFailure (Vector UInt32 11)
  | 0 => .ok last11BlockTimestamps
  | rounds + 1 => do
      let blockHeader ←
        wrapErr (rpc.getBlockHeader lastBlockHash) (blockHeaderText lastBlockHash)
      let timestamps :=
        last11BlockTimestamps.set (lastBlockHeight.toNat % 11) blockHeader.time
          (toNat_mod_eleven_lt lastBlockHeight)
      if blockHeader.prevBlockHash = zeroBytes then
        .ok timestamps
      else
        collectTimestamps timestamps blockHeader.prevBlockHash (lastBlockHeight - 1) rounds

/-- The start time of the epoch and the bits of the rebuilt state. -/
def epochStartAndBits (height : UInt64) (blockHeader : CircuitBlockHeader) :
    Except ProverFailure (UInt32 × UInt32) :=
  let epochStartBlockHeight := height / 2016 * 2016
  if network = .regtest then
    .ok (0, blockHeader.bits)
  else do
    let epochStartBlockHash ←
      wrapErr (rpc.getBlockHash epochStartBlockHeight) (blockHashText epochStartBlockHeight)
    let epochStartBlockHeader ←
      wrapErr (rpc.getBlockHeader epochStartBlockHash) (blockHeaderText epochStartBlockHash)
    let bits := if network = .testnet4 then epochStartBlockHeader.bits else blockHeader.bits
    return (epochStartBlockHeader.time, bits)

/-- The conversion of `chainwork` to an array. -/
def totalWorkOf (chainwork : List UInt8) : Except Panic Bytes32 :=
  if size : chainwork.length = 32 then
    .ok ⟨chainwork.toArray, size⟩
  else
    .error (.message s!"Total work is 32 bytes: {chainwork}")

/-- `HeaderChainProver::get_chain_state_from_height`. -/
def getChainStateFromHeight (height : UInt64) : Except ProverFailure ChainState := do
  let blockHash ← wrapErr (rpc.getBlockHash height) (blockHashText height)
  let blockHeader ← wrapErr (rpc.getBlockHeader blockHash) (blockHeaderText blockHash)
  let last11BlockTimestamps ←
    collectTimestamps rpc (Vector.replicate 11 0) blockHash height 11
  let (epochStartTimestamp, expectedBits) ← epochStartAndBits rpc network height blockHeader
  let chainwork ← wrapErr (rpc.getBlockInfo blockHash) (blockInfoText blockHash)
  let totalWork ← orPanic (totalWorkOf chainwork)
  let blockHashesMmr ← orPanic (new.append hashing.hashPair blockHash)
  return {
    blockHeight := height.toUInt32
    totalWork
    bestBlockHash := blockHash
    currentTargetBits := expectedBits
    epochStartTime := epochStartTimestamp
    prev11Timestamps := last11BlockTimestamps
    blockHashesMmr }

end Host

/-! ## A node that serves a list of headers -/

variable (network : Network) (hashing : BlockHashing)

/-- The node answers with the headers of a list, and with 32 bytes of work. -/
structure AnswersWith (rpc : ExtendedBitcoinRpc) (blockHeaders : List CircuitBlockHeader) :
    Prop where
  blockHash : ∀ height blockHeader, blockHeaders[height]? = some blockHeader →
    rpc.getBlockHash (UInt64.ofNat height) = .ok (hashing.computeBlockHash blockHeader)
  blockHeader : ∀ blockHeader ∈ blockHeaders,
    rpc.getBlockHeader (hashing.computeBlockHash blockHeader) = .ok blockHeader
  chainwork : ∀ blockHeader ∈ blockHeaders, ∃ work : Bytes32,
    rpc.getBlockInfo (hashing.computeBlockHash blockHeader) = .ok work.toList

@[simp] theorem wrapErr_ok {Value : Type} (value : Value) (context : String) :
    wrapErr (.ok value) context = .ok value := rfl

@[simp] theorem orPanic_ok {Value : Type} (value : Value) : orPanic (.ok value) = .ok value := rfl

/-! ## The timestamps of the host -/

variable {blockHeader : CircuitBlockHeader} {rpc : ExtendedBitcoinRpc}
  {blockHeaders : List CircuitBlockHeader}

section Timestamps

variable {network hashing}

/-- The loop over the timestamps reaches a position from `top` in the given number of rounds:
no header on the way has the zero hash. -/
def Reaches (hashing : BlockHashing) (blockHeaders : List CircuitBlockHeader)
    (top rounds position : Nat) : Prop :=
  position ≤ top ∧ top < position + rounds ∧
    ∀ between blockHeader, position ≤ between → between < top →
      blockHeaders[between]? = some blockHeader → hashing.computeBlockHash blockHeader ≠ zeroBytes

variable {top rounds position : Nat}

/-- A header that points to the zero hash is the only one its round reaches. -/
theorem reaches_of_zero (inside : top < blockHeaders.length)
    (zero : previousHash hashing blockHeaders top = zeroBytes)
    (reaches : Reaches hashing blockHeaders top rounds position) : position = top := by
  obtain ⟨below, -, nonzero⟩ := reaches
  by_contra other
  refine nonzero (top - 1) blockHeaders[top - 1] (by omega) (by omega)
    (List.getElem?_eq_getElem _) ?_
  rw [previousHash_pos hashing (by omega), List.getElem?_eq_getElem (by omega)] at zero
  exact zero

theorem reaches_succ (inside : top + 1 < blockHeaders.length)
    (nonzero : previousHash hashing blockHeaders (top + 1) ≠ zeroBytes) :
    Reaches hashing blockHeaders (top + 1) (rounds + 1) position ↔
      position = top + 1 ∨ Reaches hashing blockHeaders top rounds position := by
  constructor
  · rintro ⟨below, close, clear⟩
    rcases Nat.lt_or_eq_of_le below with below | same
    · exact .inr ⟨by omega, by omega, fun between blockHeader low high =>
        clear between blockHeader low (by omega)⟩
    · exact .inl same
  · rintro (rfl | ⟨below, close, clear⟩)
    · exact ⟨by omega, by omega, fun between _ low high => absurd high (by omega)⟩
    · refine ⟨by omega, by omega, fun between blockHeader low high headerAt => ?_⟩
      rcases Nat.lt_or_eq_of_le (le_of_lt_succ high) with high | rfl
      · exact clear between blockHeader low high headerAt
      · rw [previousHash, headerAt] at nonzero
        exact nonzero

/-- The times of the reached positions are stored, and the other slots are left alone. -/
structure Collects (hashing : BlockHashing) (blockHeaders : List CircuitBlockHeader)
    (top rounds : Nat) (before after : Vector UInt32 11) : Prop where
  reached : ∀ position found, Reaches hashing blockHeaders top rounds position →
    blockHeaders[position]? = some found →
      ∀ inside : position % 11 < 11, after[position % 11] = found.time
  untouched : ∀ slot (inside : slot < 11),
    (∀ position, Reaches hashing blockHeaders top rounds position → position % 11 ≠ slot) →
      after[slot] = before[slot]

variable {top rounds : Nat}

theorem reaches_self : Reaches hashing blockHeaders top (rounds + 1) top :=
  ⟨Nat.le_refl _, by omega, fun _ _ low high => absurd high (by omega)⟩

theorem Collects.zero (top : Nat) (timestamps : Vector UInt32 11) :
    Collects hashing blockHeaders top 0 timestamps timestamps where
  reached position found reaches := by
    obtain ⟨below, close, -⟩ := reaches
    omega
  untouched _ _ _ := rfl

/-- The round at a header that points to the zero hash. -/
theorem Collects.stop (headerAt : blockHeaders[top]? = some blockHeader)
    (zero : previousHash hashing blockHeaders top = zeroBytes) (timestamps : Vector UInt32 11)
    (slotInside : top % 11 < 11) :
    Collects hashing blockHeaders top (rounds + 1) timestamps
      (timestamps.set (top % 11) blockHeader.time) where
  reached position found reaches foundAt _ := by
    have same := reaches_of_zero (List.getElem?_eq_some_iff.mp headerAt).1 zero reaches
    rw [same, headerAt, Option.some.injEq] at foundAt
    rw [getElem_set, if_pos (by rw [same]), foundAt]
  untouched slot _ missed := by
    rw [getElem_set, if_neg (missed top reaches_self)]

/-- The round at a header that points to its predecessor, followed by the remaining rounds. -/
theorem Collects.step (few : rounds < 11) (headerAt : blockHeaders[top + 1]? = some blockHeader)
    (nonzero : previousHash hashing blockHeaders (top + 1) ≠ zeroBytes)
    {timestamps collected : Vector UInt32 11} {slotInside : (top + 1) % 11 < 11}
    (rest : Collects hashing blockHeaders top rounds
      (timestamps.set ((top + 1) % 11) blockHeader.time) collected) :
    Collects hashing blockHeaders (top + 1) (rounds + 1) timestamps collected where
  reached position found reaches foundAt inside := by
    rcases (reaches_succ (List.getElem?_eq_some_iff.mp headerAt).1 nonzero).mp reaches with
      rfl | reaches
    · -- the remaining rounds are too close to return to this slot
      rw [headerAt, Option.some.injEq] at foundAt
      rw [rest.untouched _ inside, getElem_set_self, foundAt]
      rintro position ⟨below, close, -⟩
      exact (mod_ne_mod (lt_succ_of_le below) (by omega)).symm
    · exact rest.reached position found reaches foundAt inside
  untouched slot inside missed := by
    have missedRest (position : Nat) (reaches : Reaches hashing blockHeaders top rounds position) :
        position % 11 ≠ slot :=
      missed position ((reaches_succ (List.getElem?_eq_some_iff.mp headerAt).1 nonzero).mpr
        (.inr reaches))
    rw [rest.untouched slot inside missedRest, getElem_set, if_neg (missed _ reaches_self)]

/-- The loop succeeds and collects the times of the positions it reaches. -/
theorem collectTimestamps_spec (answers : AnswersWith hashing rpc blockHeaders)
    (linked : ∀ height blockHeader, blockHeaders[height]? = some blockHeader →
      blockHeader.prevBlockHash = previousHash hashing blockHeaders height) (few : rounds ≤ 11)
    (timestamps : Vector UInt32 11) (small : top < 2 ^ 64)
    (headerAt : blockHeaders[top]? = some blockHeader) :
    ∃ collected, collectTimestamps rpc timestamps (hashing.computeBlockHash blockHeader)
        (ofNat top) rounds = .ok collected ∧
      Collects hashing blockHeaders top rounds timestamps collected := by
  induction rounds generalizing timestamps top blockHeader with
  | zero => exact ⟨timestamps, rfl, .zero top timestamps⟩
  | succ rounds ih =>
    have inside := (List.getElem?_eq_some_iff.mp headerAt).1
    have points := linked top blockHeader headerAt
    rw [collectTimestamps, answers.blockHeader blockHeader (List.mem_of_getElem? headerAt),
      wrapErr_ok]
    simp only [bind, Except.bind, toNat_ofNat_of_lt' small]
    by_cases stops : blockHeader.prevBlockHash = zeroBytes
    · rw [if_pos stops]
      rw [points] at stops
      exact ⟨_, rfl, .stop headerAt stops timestamps _⟩
    · rw [if_neg stops]
      rw [points] at stops ⊢
      cases top with
      | zero => exact absurd rfl stops
      | succ top =>
        obtain ⟨previous, previousAt⟩ : ∃ previous, blockHeaders[top]? = some previous :=
          ⟨_, List.getElem?_eq_getElem (by omega)⟩
        have previousEq : previousHash hashing blockHeaders (top + 1) =
            hashing.computeBlockHash previous := by
          rw [previousHash, previousAt]
          rfl
        have lower : ofNat (top + 1) - 1 = ofNat top := by
          rw [ofNat_add]
          exact UInt64.add_sub_cancel _ _
        obtain ⟨collected, run, rest⟩ := ih (by omega)
          (timestamps.set ((top + 1) % 11) blockHeader.time) (by omega) previousAt
        rw [previousEq, lower]
        exact ⟨collected, run, rest.step (by omega) headerAt stops⟩

end Timestamps

/-! ## Host and circuit -/

/-- The bits do not change at the end of the epoch that contains a height. -/
def KeepsBits (blockHeaders : List CircuitBlockHeader) (height : Nat) : Prop :=
  ∀ first last, blockHeaders[epochStart height]? = some first → blockHeaders[height]? = some last →
      targetToBits (calculateNewDifficulty network first.time last.time first.bits) = .ok first.bits

/-- None of the ten headers below a height has the zero hash. -/
def NonzeroBelow (blockHeaders : List CircuitBlockHeader) (height : Nat) : Prop :=
  ∀ position blockHeader, position < height → height < position + 11 →
    blockHeaders[position]? = some blockHeader → hashing.computeBlockHash blockHeader ≠ zeroBytes

/-- The fields of the circuit's chain state that the host rebuilds. -/
structure SameTip (host circuit : ChainState) : Prop where
  blockHeight : host.blockHeight = circuit.blockHeight
  bestBlockHash : host.bestBlockHash = circuit.bestBlockHash
  currentTargetBits : host.currentTargetBits = circuit.currentTargetBits
  epochStartTime : host.epochStartTime = circuit.epochStartTime
  prev11Timestamps : host.prev11Timestamps = circuit.prev11Timestamps

section Rebuild

variable {network hashing} {seen : List CircuitBlockHeader} {height : Nat}
  {last : CircuitBlockHeader} {chain : ChainState}

/-- The host collects the timestamps of the circuit unless a zero hash stops it early. -/
theorem collectTimestamps_iff (answers : AnswersWith hashing rpc seen)
    (history : History network hashing seen chain) (length : seen.length = height + 1)
    (small : height < 2 ^ 32) (lastAt : seen[height]? = some last) :
    ∃ collected, collectTimestamps rpc (replicate 11 0) (hashing.computeBlockHash last)
        (ofNat height) 11 = .ok collected ∧
      (collected = chain.prev11Timestamps ↔ NonzeroBelow hashing seen height) := by
  obtain ⟨collected, run, reached, untouched⟩ := collectTimestamps_spec answers history.linked
    (Nat.le_refl 11) (replicate 11 0) (by omega) lastAt
  refine ⟨collected, run, ?_, ?_⟩
  · intro equal position blockHeader below close headerAt zero
    have slotInside : position % 11 < 11 := mod_lt _ (by decide)
    have stored := history.prev11Timestamps (position % 11) slotInside
    rw [latest_of_recent (by rw [List.length_map]; omega) (by rw [List.length_map]; omega),
      List.getElem?_map, headerAt, ← equal, untouched _ slotInside] at stored
    · have positive := history.positive blockHeader (List.mem_of_getElem? headerAt)
      simp only [getElem_replicate, Option.map_some, Option.getD_some] at stored
      rw [← stored] at positive
      exact absurd positive (by decide)
    · -- the loop does not get past the zero hash
      rintro other ⟨otherBelow, otherClose, clear⟩
      refine mod_ne_mod ?_ (by omega)
      by_contra passed
      exact clear position blockHeader (by omega) below headerAt zero
  · intro nonzero
    apply Vector.ext
    intro slot slotInside
    rw [history.prev11Timestamps slot slotInside]
    rcases latest_eq_none_or_recent slotInside (seen.map (·.time)) with
      none | ⟨position, inside, recent, rfl⟩
    · rw [none, untouched slot slotInside, getElem_replicate, Option.getD_none]
      rintro position ⟨below, close, -⟩ rfl
      rw [latest_of_recent (by rw [List.length_map]; omega) (by rw [List.length_map]; omega),
        List.getElem?_map, List.getElem?_eq_getElem (by omega)] at none
      cases none
    · rw [latest_of_recent recent inside, List.getElem?_map]
      rw [List.length_map] at inside recent
      have reaches : Reaches hashing seen height 11 position :=
        ⟨by omega, by omega, fun between blockHeader low high =>
          nonzero between blockHeader high (by omega)⟩
      rw [List.getElem?_eq_getElem inside]
      exact reached position _ reaches (List.getElem?_eq_getElem inside) slotInside

theorem ofNat_epochStart (small : height < 2 ^ 64) :
    ofNat height / 2016 * 2016 = ofNat (epochStart height) := by
  apply UInt64.toNat_inj.mp
  rw [UInt64.toNat_mul, UInt64.toNat_div, toNat_ofNat_of_lt' small, toNat_ofNat',
    epochStart, Nat.mul_comm]
  rfl

theorem keepsBits_iff {first : CircuitBlockHeader} (firstAt : seen[epochStart height]? = some first)
    (lastAt : seen[height]? = some last) :
    KeepsBits network seen height ↔
      targetToBits (calculateNewDifficulty network first.time last.time first.bits) =
        .ok first.bits := by
  constructor
  · intro keeps
    exact keeps first last firstAt lastAt
  · intro keeps first' last' firstAt' lastAt'
    rw [firstAt, Option.some.injEq] at firstAt'
    rw [lastAt, Option.some.injEq] at lastAt'
    rw [← firstAt', ← lastAt']
    exact keeps

/-- The host finds the start time of the circuit, and its bits unless they change at the end
of the epoch. -/
theorem epochStartAndBits_iff (answers : AnswersWith hashing rpc seen)
    (history : History network hashing seen chain) (stored : BitsHistory network seen chain)
    (length : seen.length = height + 1) (small : height < 2 ^ 32)
    (lastAt : seen[height]? = some last) :
    ∃ bits, epochStartAndBits rpc network (ofNat height) last = .ok (chain.epochStartTime, bits) ∧
      (bits = chain.currentTargetBits ↔
        network = .regtest ∨ height % 2016 ≠ 2015 ∨ KeepsBits network seen height) := by
  have lengthEq : seen.length - 1 = height := by omega
  by_cases regtest : network = .regtest
  · obtain ⟨startTime, bitsEq, carried⟩ := stored.regtest regtest
    refine ⟨last.bits, by rw [epochStartAndBits, if_pos regtest, startTime], ?_⟩
    rw [bitsEq, carried last (List.mem_of_getElem? lastAt)]
    simp [regtest]
  · have startInside : epochStart height < seen.length := by
      rw [epochStart]
      omega
    obtain ⟨first, firstAt⟩ : ∃ first, seen[epochStart height]? = some first :=
      ⟨_, List.getElem?_eq_getElem startInside⟩
    have startTime : chain.epochStartTime = first.time :=
      history.epochStartTime regtest first (by rw [lengthEq]; exact firstAt)
    have startHeight := ofNat_epochStart (show height < 2 ^ 64 by omega)
    refine ⟨first.bits, ?_, ?_⟩
    · rw [epochStartAndBits, if_neg regtest, startHeight, answers.blockHash _ _ firstAt, wrapErr_ok]
      simp only [bind, Except.bind, pure, Except.pure]
      rw [answers.blockHeader first (List.mem_of_getElem? firstAt), wrapErr_ok]
      simp only [startTime]
      by_cases testnet : network = .testnet4
      · rw [if_pos testnet]
      · rw [if_neg testnet, stored.headers regtest testnet height last first lastAt firstAt]
    · by_cases ends : height % 2016 = 2015
      · have adjusted := stored.adjusted regtest (by rw [lengthEq]; exact ends) first last
          (by rw [lengthEq]; exact firstAt) (by rw [lengthEq]; exact lastAt)
        rw [keepsBits_iff firstAt lastAt, adjusted, Except.ok.injEq]
        simp only [regtest, ends, ne_eq, not_true_eq_false, false_or, eq_comm]
      · have inside := stored.inside regtest (by rw [lengthEq]; exact ends) first
          (by rw [lengthEq]; exact firstAt)
        simp [inside, ends]

end Rebuild

section Acceptance

variable {network hashing} {host circuit self : ChainState}

/-- A call with one header succeeds when the header passes its checks and the difficulty can be
adjusted, for a range that is built from leaves. -/
theorem applyBlockHeaders_singleton_ok_iff {leaves : List Bytes32}
    (built : ofLeaves hashing.hashPair leaves = .ok self.blockHashesMmr) :
    (∃ final, self.applyBlockHeaders network hashing [blockHeader] = .ok final) ↔
      (start network self).Accepts network hashing blockHeader ∧
      ∃ difficulty, adjustDifficulty network (start network self) (start network self).nextHeight
        ((start network self).nextEpochStartTime network blockHeader)
        blockHeader.time = .ok difficulty := by
  obtain ⟨mmr, appended⟩ :=
    append_ok hashing.hashPair built (hashing.computeBlockHash blockHeader)
  constructor
  · rintro ⟨final, applied⟩
    obtain ⟨state, run, -⟩ := (applyBlockHeaders_ok_iff network hashing).mp applied
    obtain ⟨next, stepped, -⟩ := ExceptRun.run_cons_iff.mp run
    obtain ⟨accepts, -, difficulty, -, adjusted, -⟩ :=
      (applyBlockHeader_ok_iff network hashing).mp stepped
    exact ⟨accepts, difficulty, adjusted⟩
  · rintro ⟨accepts, difficulty, adjusted⟩
    have stepped := (applyBlockHeader_ok_iff network hashing).mpr
      ⟨accepts, mmr, difficulty, appended, adjusted, rfl⟩
    exact ⟨_, (applyBlockHeaders_ok_iff network hashing).mpr
      ⟨_, ExceptRun.run_cons_iff.mpr ⟨_, stepped, rfl⟩, rfl⟩⟩

/-- The next header is judged by the five fields alone. -/
theorem SameTip.applyBlockHeaders_iff (same : SameTip host circuit)
    {hostLeaves leaves : List Bytes32}
    (hostBuilt : ofLeaves hashing.hashPair hostLeaves = .ok host.blockHashesMmr)
    (built : ofLeaves hashing.hashPair leaves = .ok circuit.blockHashesMmr) :
    (∃ final, host.applyBlockHeaders network hashing [blockHeader] = .ok final) ↔
      ∃ final, circuit.applyBlockHeaders network hashing [blockHeader] = .ok final := by
  rw [applyBlockHeaders_singleton_ok_iff hostBuilt, applyBlockHeaders_singleton_ok_iff built]
  cases host
  cases circuit
  obtain ⟨rfl, rfl, rfl, rfl, rfl⟩ := same
  exact and_congr ⟨fun ⟨connected, bits, proofOfWork, timestamp⟩ =>
      ⟨connected, bits, proofOfWork, timestamp⟩,
    fun ⟨connected, bits, proofOfWork, timestamp⟩ =>
      ⟨connected, bits, proofOfWork, timestamp⟩⟩ Iff.rfl

end Acceptance

theorem AnswersWith.take (answers : AnswersWith hashing rpc blockHeaders) (count : Nat) :
    AnswersWith hashing rpc (blockHeaders.take count) where
  blockHash height blockHeader headerAt := by
    rw [List.getElem?_take] at headerAt
    split at headerAt
    next => exact answers.blockHash height blockHeader headerAt
    next => cases headerAt
  blockHeader blockHeader member := answers.blockHeader blockHeader (List.mem_of_mem_take member)
  chainwork blockHeader member := answers.chainwork blockHeader (List.mem_of_mem_take member)

theorem keepsBits_take (blockHeaders : List CircuitBlockHeader) (height : Nat) :
    KeepsBits network (blockHeaders.take (height + 1)) height ↔
      KeepsBits network blockHeaders height := by
  have start : epochStart height < height + 1 := by
    rw [epochStart]
    omega
  rw [KeepsBits, KeepsBits, List.getElem?_take_of_lt start,
    List.getElem?_take_of_lt (lt_succ_self height)]

theorem nonzeroBelow_take (blockHeaders : List CircuitBlockHeader) (height : Nat) :
    NonzeroBelow hashing (blockHeaders.take (height + 1)) height ↔
      NonzeroBelow hashing blockHeaders height := by
  refine forall₃_congr fun position blockHeader below => ?_
  rw [List.getElem?_take_of_lt (lt_succ_of_lt below)]

/-- An initial part of an accepted list of headers is accepted. -/
theorem applyBlockHeaders_take_ok {self final : ChainState}
    (accepted : self.applyBlockHeaders network hashing blockHeaders = .ok final) (count : Nat) :
    ∃ middle, self.applyBlockHeaders network hashing (blockHeaders.take count) = .ok middle := by
  obtain ⟨state, run, -⟩ := (applyBlockHeaders_ok_iff network hashing).mp accepted
  rw [← List.take_append_drop count blockHeaders] at run
  obtain ⟨middle, firstRun, -⟩ := ExceptRun.run_append_iff.mp run
  exact ⟨_, (applyBlockHeaders_ok_iff network hashing).mpr ⟨middle, firstRun, rfl⟩⟩

/-- The host returns a chain state for the last of some headers.  Its five fields are those of
the circuit exactly when the bits do not change after that header and no zero hash stops the
collection of the timestamps. -/
theorem getChainStateFromHeight_last {seen : List CircuitBlockHeader} {height : Nat}
    {circuit : ChainState} (answers : AnswersWith hashing rpc seen)
    (history : History network hashing seen circuit) (stored : BitsHistory network seen circuit)
    (length : seen.length = height + 1) (small : height < 2 ^ 32) :
    ∃ (host : ChainState) (leaves : List Bytes32),
      getChainStateFromHeight rpc network hashing (ofNat height) = .ok host ∧
      ofLeaves hashing.hashPair leaves = .ok host.blockHashesMmr ∧
      (SameTip host circuit ↔
        (network = .regtest ∨ height % 2016 ≠ 2015 ∨ KeepsBits network seen height) ∧
          NonzeroBelow hashing seen height) := by
  obtain ⟨last, lastAt⟩ : ∃ last, seen[height]? = some last :=
    ⟨_, List.getElem?_eq_getElem (by omega)⟩
  have member := List.mem_of_getElem? lastAt
  obtain ⟨collected, collects, collectedIff⟩ :=
    collectTimestamps_iff answers history length small lastAt
  obtain ⟨bits, finds, bitsIff⟩ :=
    epochStartAndBits_iff answers history stored length small lastAt
  obtain ⟨work, works⟩ := answers.chainwork last member
  have totalWork : totalWorkOf work.toList = .ok work := by
    rw [totalWorkOf, dif_pos length_toList]
    cases work
    simp
  have appended : new.append hashing.hashPair (hashing.computeBlockHash last) =
      .ok ⟨[hashing.computeBlockHash last], 1⟩ := rfl
  refine ⟨⟨(ofNat height).toUInt32, work, hashing.computeBlockHash last, bits,
    circuit.epochStartTime, collected, ⟨[hashing.computeBlockHash last], 1⟩⟩,
    [hashing.computeBlockHash last], ?_, rfl, ?_⟩
  · simp only [getChainStateFromHeight, answers.blockHash height last lastAt,
      answers.blockHeader last member, collects, finds, works, totalWork, appended, wrapErr_ok,
      orPanic_ok, bind, Except.bind, pure, Except.pure]
  · have blockHeight : (ofNat height).toUInt32 = circuit.blockHeight := by
      have next := history.blockHeight
      rw [length, UInt32.ofNat_add] at next
      rw [toUInt32_ofNat']
      exact ((UInt32.add_left_inj 1).mp next).symm
    have bestBlockHash : hashing.computeBlockHash last = circuit.bestBlockHash := by
      rw [history.bestBlockHash, length, previousHash, lastAt]
      rfl
    rw [← bitsIff, ← collectedIff]
    constructor
    · intro same
      exact ⟨same.currentTargetBits, same.prev11Timestamps⟩
    · rintro ⟨sameBits, sameTimestamps⟩
      exact ⟨blockHeight, bestBlockHash, sameBits, rfl, sameTimestamps⟩

/-- For headers that the circuit accepts from the genesis state, the host returns a chain state
at every height.  It agrees with the circuit's own state there, and accepts the same next
headers, exactly when the height does not end an epoch that changes the bits and none of the ten
headers below it has the zero hash. -/
theorem getChainStateFromHeight_agrees_iff (rpc : ExtendedBitcoinRpc)
    (blockHeaders : List CircuitBlockHeader) (final : ChainState) (height : Nat)
    (answers : AnswersWith hashing rpc blockHeaders)
    (accepted : (ChainState.genesisState network).applyBlockHeaders network hashing blockHeaders =
      .ok final)
    (inside : height < blockHeaders.length) (small : height < 2 ^ 32) :
    ∃ host circuit : ChainState,
      getChainStateFromHeight rpc network hashing (UInt64.ofNat height) = .ok host ∧
      (ChainState.genesisState network).applyBlockHeaders network hashing
        (blockHeaders.take (height + 1)) = .ok circuit ∧
      ((SameTip host circuit ∧ ∀ next : CircuitBlockHeader,
          (∃ reached, host.applyBlockHeaders network hashing [next] = .ok reached) ↔
            ∃ reached, circuit.applyBlockHeaders network hashing [next] = .ok reached) ↔
        (network = .regtest ∨ height % 2016 ≠ 2015 ∨ KeepsBits network blockHeaders height) ∧
          NonzeroBelow hashing blockHeaders height) := by
  obtain ⟨circuit, applied⟩ := applyBlockHeaders_take_ok network hashing accepted (height + 1)
  have length : (blockHeaders.take (height + 1)).length = height + 1 := by
    rw [List.length_take]
    omega
  have run : (ChainState.genesisState network).applyBatches network hashing
      [blockHeaders.take (height + 1)] = .ok circuit :=
    ExceptRun.run_cons_iff.mpr ⟨circuit, applied, rfl⟩
  have flat : [blockHeaders.take (height + 1)].flatten = blockHeaders.take (height + 1) :=
    List.flatten_singleton
  have history := applyBatches_genesis_history network hashing (by rw [flat, length]; omega) run
  have stored := applyBatches_genesis_bits network hashing (by rw [flat, length]; omega) run
  rw [flat] at history stored
  obtain ⟨host, leaves, rebuilt, built, sameIff⟩ := getChainStateFromHeight_last network hashing
    (answers.take hashing (height + 1)) history stored length small
  refine ⟨host, circuit, rebuilt, applied, ?_⟩
  rw [keepsBits_take, nonzeroBelow_take] at sameIff
  rw [← sameIff]
  constructor
  · rintro ⟨same, -⟩
    exact same
  · intro same
    exact ⟨same, fun _ => same.applyBlockHeaders_iff built history.blockHashesMmr⟩

/-! ## The first blocks of mainnet -/

/-- Hash of the second block of `mainnet`. -/
def mainnetHash1 : Bytes32 :=
  beBytes 32 0x4860EB18BF1B1620E37E9490FC8A427514416FD75159AB86688E9A8300000000

/-- A node that knows the first two blocks of `mainnet`. -/
def mainnetRpc : ExtendedBitcoinRpc where
  getBlockHash height :=
    if height = 0 then
      .ok mainnetBlock1.prevBlockHash
    else if height = 1 then
      .ok mainnetHash1
    else
      .error "Block height out of range"
  getBlockHeader blockHash :=
    if blockHash = mainnetBlock1.prevBlockHash then
      .ok mainnetBlock0
    else if blockHash = mainnetHash1 then
      .ok mainnetBlock1
    else
      .error "Block not found"
  getBlockInfo blockHash :=
    if blockHash = mainnetBlock1.prevBlockHash then
      .ok (beBytes 32 0x100010001).toList
    else if blockHash = mainnetHash1 then
      .ok (beBytes 32 0x200020002).toList
    else
      .error "Block not found"

theorem computeBlockHash_mainnetBlock0 :
    (BlockHashing.ofSha256 Sha2.sha256).computeBlockHash mainnetBlock0 =
      mainnetBlock1.prevBlockHash := by
  decide +kernel

theorem mainnetRpc_answersWith :
    AnswersWith (.ofSha256 Sha2.sha256) mainnetRpc [mainnetBlock0, mainnetBlock1] := by
  have hash0 := computeBlockHash_mainnetBlock0
  have hash1 : (BlockHashing.ofSha256 Sha2.sha256).computeBlockHash mainnetBlock1 =
      mainnetHash1 := by decide +kernel
  have different : mainnetHash1 ≠ mainnetBlock1.prevBlockHash := by decide +kernel
  refine ⟨?_, ?_, ?_⟩
  · intro height blockHeader headerAt
    match height with
    | 0 =>
      cases headerAt
      rw [hash0]
      rfl
    | 1 =>
      cases headerAt
      rw [hash1]
      rfl
    | height + 2 => cases headerAt
  · intro blockHeader member
    rcases List.mem_pair.mp member with rfl | rfl
    · simp [mainnetRpc, hash0]
    · simp [mainnetRpc, hash1, different]
  · intro blockHeader member
    rcases List.mem_pair.mp member with rfl | rfl
    · exact ⟨beBytes 32 0x100010001, by simp [mainnetRpc, hash0]⟩
    · exact ⟨beBytes 32 0x200020002, by simp [mainnetRpc, hash1, different]⟩

/-- The second block of `mainnet`. -/
theorem getChainStateFromHeight_agrees_mainnet : ∃ host circuit : ChainState,
      getChainStateFromHeight mainnetRpc .mainnet (.ofSha256 Sha2.sha256) 1 = .ok host ∧
      (ChainState.genesisState .mainnet).applyBlockHeaders .mainnet (.ofSha256 Sha2.sha256)
        [mainnetBlock0, mainnetBlock1] = .ok circuit ∧
      SameTip host circuit := by
  obtain ⟨final, accepted⟩ := ExceptRun.exists_eq_ok_of_isOk
    (show ((ChainState.genesisState .mainnet).applyBlockHeaders .mainnet (.ofSha256 Sha2.sha256)
      [mainnetBlock0, mainnetBlock1]).isOk = true by decide +kernel)
  obtain ⟨host, circuit, rebuilt, applied, agreesIff⟩ := getChainStateFromHeight_agrees_iff .mainnet
    (.ofSha256 Sha2.sha256) mainnetRpc [mainnetBlock0, mainnetBlock1] final 1
    mainnetRpc_answersWith accepted (by decide) (by decide)
  refine ⟨host, circuit, rebuilt, applied, (agreesIff.mpr ⟨.inr (.inl (by decide)), ?_⟩).1⟩
  intro position blockHeader below _ headerAt
  have first : position = 0 := by omega
  subst first
  cases headerAt
  rw [computeBlockHash_mainnetBlock0]
  decide +kernel

/-! ## A chain with one block a second -/

/-- A hash for sample runs: the time of the header as a little-endian number. -/
def timeHash (time : UInt32) : Bytes32 := (U256.fromU32 time).toBeBytes.reverse

/-- Hashes for sample runs that need distinct hashes. -/
def timeHashing : BlockHashing where
  computeBlockHash blockHeader := timeHash blockHeader.time
  hashPair _ _ := zeroBytes

/-- Hash of the block below a height of a chain with one block a second. -/
def steadyPreviousHash : Nat → Bytes32
  | 0 => zeroBytes
  | height + 1 => timeHash (UInt32.ofNat (1000 + height))

/-- The header at a height of that chain, with the largest target. -/
def steadyHeader (height : Nat) : CircuitBlockHeader where
  version := 1
  prevBlockHash := steadyPreviousHash height
  merkleRoot := zeroBytes
  time := UInt32.ofNat (1000 + height)
  bits := network.constants.maxBits
  nonce := 0

/-- The first headers of that chain. -/
def steadyHeaders (count : Nat) : List CircuitBlockHeader :=
  (List.range count).map (steadyHeader network)

/-- A node that serves that chain. -/
def steadyRpc : ExtendedBitcoinRpc where
  getBlockHash height := .ok (timeHash (UInt32.ofNat (1000 + height.toNat)))
  getBlockHeader blockHash := .ok (steadyHeader network (leNat blockHash.toList - 1000))
  getBlockInfo _ := .ok zeroBytes.toList

theorem leNat_timeHash (time : UInt32) : leNat (timeHash time).toList = time.toNat := by
  rw [timeHash, toList_reverse, ← beNat, U256.beNat_toBeBytes, U256.toNat_fromU32]

theorem toNat_steadyTime {height : Nat} (small : height < 2 ^ 31) :
    (steadyHeader network height).time.toNat = 1000 + height := by
  rw [steadyHeader, UInt32.toNat_ofNat']
  exact mod_eq_of_lt (by omega)

theorem steadyHeaders_getElem?_eq_some {count height : Nat}
    (headerAt : (steadyHeaders network count)[height]? = some blockHeader) :
    height < count ∧ blockHeader = steadyHeader network height := by
  rw [steadyHeaders, List.getElem?_map, Option.map_eq_some_iff] at headerAt
  obtain ⟨position, positionAt, rfl⟩ := headerAt
  obtain ⟨inside, rfl⟩ := List.getElem?_eq_some_iff.mp positionAt
  rw [List.length_range] at inside
  exact ⟨inside, by rw [List.getElem_range]⟩

theorem steadyRpc_answersWith {count : Nat} (small : count < 2 ^ 31) :
    AnswersWith timeHashing (steadyRpc network) (steadyHeaders network count) where
  blockHash height blockHeader headerAt := by
    obtain ⟨inside, rfl⟩ := steadyHeaders_getElem?_eq_some network headerAt
    simp only [steadyRpc, toNat_ofNat_of_lt' (show height < 2 ^ 64 by omega)]
    rfl
  blockHeader blockHeader member := by
    obtain ⟨height, inside, rfl⟩ := List.mem_map.mp member
    rw [List.mem_range] at inside
    simp only [steadyRpc, timeHashing, leNat_timeHash,
      toNat_steadyTime network (show height < 2 ^ 31 by omega), Nat.add_sub_cancel_left]
  chainwork _ _ := ⟨zeroBytes, rfl⟩

/-- Entries below a bound have their median below it. -/
theorem median_lt {timestamps : Vector UInt32 11} {time : UInt32}
    (below : ∀ slot (inside : slot < 11), timestamps[slot] < time) : median timestamps < time := by
  have length : (timestamps.toList.insertionSort (· ≤ ·)).length = 11 := by
    rw [List.length_insertionSort, length_toList]
  rw [median, List.getElem?_eq_getElem (by omega), Option.getD_some]
  have member := (List.perm_insertionSort (· ≤ ·) timestamps.toList).subset
    (List.getElem_mem (show 5 < (timestamps.toList.insertionSort (· ≤ ·)).length by omega))
  obtain ⟨slot, inside, found⟩ := List.mem_iff_getElem.mp member
  rw [length_toList] at inside
  rw [← found, getElem_toList]
  exact below slot inside

section Steady

variable {count : Nat} {state : LoopState}

/-- Every time of the chain is later than the times before it. -/
theorem steady_timestamp (small : count < 2 ^ 31)
    (history : History .mainnet timeHashing (steadyHeaders .mainnet count) state.chainState) :
    median state.chainState.prev11Timestamps < (steadyHeader .mainnet count).time := by
  apply median_lt
  intro slot slotInside
  rw [UInt32.lt_iff_toNat_lt, toNat_steadyTime .mainnet small,
    history.prev11Timestamps slot slotInside]
  rcases latest_eq_none_or_recent slotInside
      ((steadyHeaders .mainnet count).map (·.time)) with none | ⟨position, inside, recent, rfl⟩
  · rw [none]
    exact Nat.lt_of_lt_of_le (by decide : 0 < 1000) (Nat.le_add_right _ _)
  · rw [latest_of_recent recent inside, List.getElem?_map]
    rw [List.length_map] at inside
    have headerAt := List.getElem?_eq_getElem inside
    obtain ⟨earlier, equal⟩ := steadyHeaders_getElem?_eq_some .mainnet headerAt
    rw [headerAt, equal, Option.map_some, Option.getD_some,
      toNat_steadyTime .mainnet (show position < 2 ^ 31 by omega)]
    omega

/-- The loop state inside the first epoch of the chain. -/
structure SteadyState (count : Nat) (state : LoopState) : Prop where
  history : History .mainnet timeHashing (steadyHeaders .mainnet count) state.chainState
  bits : state.chainState.currentTargetBits = Network.mainnet.constants.maxBits
  target : state.currentTargetBytes = Network.mainnet.constants.maxTargetBytes

theorem SteadyState.start : SteadyState 0 (start .mainnet (ChainState.genesisState .mainnet)) where
  history := History.genesis .mainnet timeHashing
  bits := rfl
  target := (bitsToTarget_maxBits .mainnet).1

theorem steadyHeaders_succ (count : Nat) : steadyHeaders network (count + 1) =
      steadyHeaders network count ++ [steadyHeader network count] := by
  rw [steadyHeaders, List.range_succ, List.map_append]
  rfl

@[simp] theorem length_steadyHeaders (count : Nat) :
    (steadyHeaders network count).length = count := by
  simp [steadyHeaders]

/-- The next header of the chain passes its checks. -/
theorem SteadyState.accepts (steady : SteadyState count state) (small : count < 2 ^ 31) :
    state.Accepts .mainnet timeHashing (steadyHeader .mainnet count) where
  connected := by
    rw [steady.history.bestBlockHash, length_steadyHeaders]
    cases count with
    | zero => rfl
    | succ count =>
      rw [previousHash, steadyHeaders_succ, List.getElem?_append_right (by simp)]
      simp [steadyHeader, steadyPreviousHash, timeHashing]
  bits := by
    rw [expectedBits, if_neg, steady.bits]
    · rfl
    · simp [UsesMaxTarget]
  proofOfWork := by
    have early : ¬UsesMaxTarget .mainnet state.nextHeight state.lastBlockTime
        (steadyHeader .mainnet count).time := by
      simp [UsesMaxTarget]
    have largest : beNat Network.mainnet.constants.maxTargetBytes.toList = 0xFFFF * 2 ^ 208 := by
      decide +kernel
    rw [targetToUse, if_neg early, steady.target, largest]
    have hash : leNat (timeHashing.computeBlockHash (steadyHeader .mainnet count)).toList =
        1000 + count := by
      rw [timeHashing, leNat_timeHash, toNat_steadyTime .mainnet small]
    rw [hash]
    omega
  timestamp := steady_timestamp small steady.history

/-- Inside the first epoch a round keeps the target. -/
theorem SteadyState.round (steady : SteadyState count state) (early : count < 2015) :
    ∃ next, applyBlockHeader .mainnet timeHashing state (steadyHeader .mainnet count) = .ok next ∧
      SteadyState (count + 1) next := by
  have endsIff := steady.history.endsEpoch_iff .mainnet timeHashing
    (by rw [length_steadyHeaders]; omega)
  rw [length_steadyHeaders] at endsIff
  obtain ⟨mmr, appended⟩ := append_ok timeHashing.hashPair steady.history.blockHashesMmr
    (timeHashing.computeBlockHash (steadyHeader .mainnet count))
  have applied := (applyBlockHeader_ok_iff .mainnet timeHashing).mpr
    ⟨steady.accepts (by omega), mmr,
      (state.currentTargetBytes, state.chainState.currentTargetBits), appended,
      (adjustDifficulty_ok_iff .mainnet).mpr
        (by rw [if_neg fun ends => absurd (endsIff.mp ends.2) (by omega)]), rfl⟩
  refine ⟨_, applied, ?_, steady.bits, steady.target⟩
  rw [steadyHeaders_succ]
  exact steady.history.round .mainnet timeHashing (by rw [length_steadyHeaders]; omega) applied

theorem steady_run (early : count ≤ 2015) :
    ∃ state, (steadyHeaders .mainnet count).foldlM (applyBlockHeader .mainnet timeHashing)
        (start .mainnet (ChainState.genesisState .mainnet)) = .ok state ∧
      SteadyState count state := by
  induction count with
  | zero => exact ⟨_, rfl, SteadyState.start⟩
  | succ count ih =>
    obtain ⟨state, run, steady⟩ := ih (by omega)
    obtain ⟨next, applied, steadyNext⟩ := steady.round (by omega)
    rw [steadyHeaders_succ]
    exact ⟨next, ExceptRun.run_snoc_iff.mpr ⟨state, run, applied⟩, steadyNext⟩

/-- The circuit accepts the first epoch and stores a quarter of the largest target. -/
theorem steady_epoch :
    ∃ final, (ChainState.genesisState .mainnet).applyBlockHeaders .mainnet timeHashing
        (steadyHeaders .mainnet 2016) = .ok final ∧ final.currentTargetBits = 0x1C3FFFC0 := by
  obtain ⟨state, run, steady⟩ := steady_run (Nat.le_refl 2015)
  have small : (steadyHeaders .mainnet 2015).length < 2 ^ 32 := by
    rw [length_steadyHeaders]
    decide
  have ends := (steady.history.endsEpoch_iff .mainnet timeHashing small).mpr
    (by rw [length_steadyHeaders])
  have startTime : state.nextEpochStartTime .mainnet (steadyHeader .mainnet 2015) = 1000 :=
    steady.history.nextEpochStartTime_eq .mainnet timeHashing small (by decide)
      (by rw [length_steadyHeaders]; decide)
      (show _ = some (steadyHeader .mainnet 0) by rw [length_steadyHeaders]; simp [steadyHeaders]) _
  obtain ⟨mmr, appended⟩ := append_ok timeHashing.hashPair steady.history.blockHashesMmr
    (timeHashing.computeBlockHash (steadyHeader .mainnet 2015))
  have adjusted : adjustDifficulty .mainnet state state.nextHeight
      (state.nextEpochStartTime .mainnet (steadyHeader .mainnet 2015))
      (steadyHeader .mainnet 2015).time = .ok
        (calculateNewDifficulty .mainnet 1000 3015 0x1D00FFFF, 0x1C3FFFC0) := by
    have time : (steadyHeader .mainnet 2015).time = 3015 := by decide +kernel
    have maxBits : Network.mainnet.constants.maxBits = 0x1D00FFFF := by decide
    rw [adjustDifficulty_ok_iff, if_pos ⟨by decide, ends⟩, startTime, steady.bits, time, maxBits]
    refine ⟨?_, by decide +kernel⟩
    dsimp only
  have applied := (applyBlockHeader_ok_iff .mainnet timeHashing).mpr
    ⟨steady.accepts (by decide), mmr, _, appended, adjusted, rfl⟩
  rw [steadyHeaders_succ]
  exact ⟨_, (applyBlockHeaders_ok_iff .mainnet timeHashing).mpr
    ⟨_, ExceptRun.run_snoc_iff.mpr ⟨state, run, applied⟩, rfl⟩, rfl⟩

end Steady

/-- At the last block of an epoch the host takes the bits of that epoch, while the circuit
stores those of the next one. -/
theorem host_keeps_bits_at_epoch_end :
    AnswersWith timeHashing (steadyRpc .mainnet) (steadyHeaders .mainnet 2016) ∧
    ∃ host circuit : ChainState,
      getChainStateFromHeight (steadyRpc .mainnet) .mainnet timeHashing 2015 = .ok host ∧
      (ChainState.genesisState .mainnet).applyBlockHeaders .mainnet timeHashing
        (steadyHeaders .mainnet 2016) = .ok circuit ∧
      host.currentTargetBits = 0x1D00FFFF ∧ circuit.currentTargetBits = 0x1C3FFFC0 := by
  obtain ⟨circuit, applied, bits⟩ := steady_epoch
  have hostBits : (getChainStateFromHeight (steadyRpc .mainnet) .mainnet timeHashing 2015).map
      (·.currentTargetBits) = .ok 0x1D00FFFF := by
    decide +kernel
  cases rebuilt : getChainStateFromHeight (steadyRpc .mainnet) .mainnet timeHashing 2015 with
  | error failure =>
    rw [rebuilt] at hostBits
    cases hostBits
  | ok host =>
    rw [rebuilt] at hostBits
    exact ⟨steadyRpc_answersWith .mainnet (by decide), host, circuit, rfl, applied,
      Except.ok.inj hostBits, bits⟩

end Clementine
