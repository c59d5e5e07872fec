import Clementine.BridgeCircuit.StorageProof
import Clementine.BridgeCircuit.Watchtowers

/-!
# The bridge circuit

`bridge_circuit` checks the operator's header chain against the watchtowers' work, the
payout against the header chain, and the withdrawal against the rollup, and commits one
hash.  `work_only_circuit` is the program whose proofs the watchtowers send: it reduces a
header chain output to its work and its genesis hash.

Two results follow a value through these programs.  The work of a watchtower's chain is
shortened to 16 bytes, put into a transaction, sorted and compared with the operator's:
the comparison is one of numbers.  And the hash that a run commits is a hash of hashes of
concatenations without length fields: it still determines everything that was put in.
-/

namespace Clementine

open ByteNumeral Except Vector

variable (network : Network) (library : CircuitLibrary)

/-! ## Work-only circuit -/

/-- The functions of the zkVM that a circuit calls: the input that the host has written, and
the check of a header chain output, which stops the program on an unproved one. -/
structure CircuitGuest (Input : Type) where
  readFromHost : Input
  verify : MethodId → BlockHeaderCircuitOutput → Except Panic Unit

/-- `WorkOnlyCircuitInput`. -/
structure WorkOnlyCircuitInput where
  headerChainCircuitOutput : BlockHeaderCircuitOutput
  deriving DecidableEq

/-- `WorkOnlyCircuitOutput`. -/
structure WorkOnlyCircuitOutput where
  workU128 : TotalWork
  genesisStateHash : Bytes32
  deriving DecidableEq

/-- Message of the assertion on the method id of a header chain output. -/
def headerChainMethodIdText (expected got : MethodId) : String :=
  "Invalid method ID for header chain circuit: " ++ s!"expected {expected.toList}, got {got.toList}"

/-- `work_conversion`: the lower half of the work, most significant byte first. -/
def workConversion (work : U256) : TotalWork := beBytes 16 (work.toNat % 2 ^ 128)

/-- `work_only_circuit`; the result is what the run commits. -/
def workOnlyCircuit (guest : CircuitGuest WorkOnlyCircuitInput) :
    Except Panic WorkOnlyCircuitOutput := do
  let output := guest.readFromHost.headerChainCircuitOutput
  assertEq (headerChainMethodId network) output.methodId
    (headerChainMethodIdText (headerChainMethodId network) output.methodId)
  guest.verify output.methodId output
  return {
    workU128 := workConversion (U256.fromBeBytes output.chainState.totalWork)
    genesisStateHash := output.genesisStateHash }

/-! ## Light client proof -/

/-- `LC_IMAGE_ID`. -/
def lcImageId : Network → Bytes32
  | .regtest => beBytes 32
      0xe02f42a01d0cb5a6dbc2f5d26b28a9881808a3023c8330a5aea2a0bea754c216
  | .signet => beBytes 32
      0x418fd1ca90a3ea9e9d99626078e618750aa6209261c645fb456bf0e8293c368a
  | .testnet4 => beBytes 32
      0x217bc300c2023f1697bedaf84d4397f91b569c5c8ad3ddacb03943fc123acdee
  | .mainnet => beBytes 32
      0x970628d6e6dac5b4069872281e2db2653b1bdb7bf33b6a3452029027f4f73bab

/-- `check_method_id`. -/
def checkMethodId (lightClientCircuitOutput : LightClientCircuitOutput)
    (lcImageIdCircuit : Bytes32) : Bool :=
  lightClientCircuitOutput.lightClientProofMethodId.toList.flatMap u32LeBytes =
    lcImageIdCircuit.toList

/-- `lc_proof_verifier`; on `regtest` neither the proof nor the method id is checked. -/
def lcProofVerifier (lightClientProof : LightClientProof) :
    Except Panic LightClientCircuitOutput := do
  panicIf (network ≠ .regtest ∧
      library.envVerify (lcImageId network) lightClientProof.lcJournal = false)
    "Failed to verify light client proof"
  let lightClientCircuitOutput ← expectSome "Failed to deserialize light client circuit output"
    (library.lightClientOutputFromSlice lightClientProof.lcJournal)
  panicIf (network ≠ .regtest ∧ checkMethodId lightClientCircuitOutput (lcImageId network) = false)
    "Light client proof method ID does not match the expected LC image ID"
  return lightClientCircuitOutput

/-! ## Journal -/

/-- `u32::to_be_bytes`. -/
def u32BeBytes (value : UInt32) : List UInt8 := (beBytes 4 value.toNat).toList

/-- The last 20 bytes of a block hash, `LatestBlockhash` and `PayoutTxBlockhash`. -/
def blockhashTail (blockHash : Bytes32) : Vector UInt8 20 := blockHash.drop 12

/-- The values that enter the journal of a run. -/
structure JournalValues where
  payoutTxBlockhash : Vector UInt8 20
  latestBlockhash : Vector UInt8 20
  challengeSendingWatchtowers : ChallengeSendingWatchtowers
  operatorXonlypk : Bytes32
  watchtowerChallengeConnectorStartIdx : UInt32
  watchtowerPubkeys : List Bytes32
  moveTxid : Bytes32
  roundTxid : Bytes32
  kickoffRoundVout : UInt32
  genesisStateHash : Bytes32
  deriving DecidableEq

/-- The concatenated keys that `deposit_constant` hashes first. -/
def pubkeyConcat (watchtowerPubkeys : List Bytes32) : List UInt8 :=
  watchtowerPubkeys.flatMap Vector.toList

/-- The bytes that `deposit_constant` hashes last. -/
def preDepositConstant (operatorXonlypk : Bytes32) (watchtowerChallengeConnectorStartIdx : UInt32)
    (watchtowerPubkeys : List Bytes32) (moveTxid roundTxid : Bytes32) (kickoffRoundVout : UInt32)
    (genesisStateHash : Bytes32) : List UInt8 :=
  let watchtowerPubkeysDigest := library.sha256 (pubkeyConcat watchtowerPubkeys)
  moveTxid.toList ++ watchtowerPubkeysDigest.toList ++ operatorXonlypk.toList ++
    u32BeBytes watchtowerChallengeConnectorStartIdx ++ roundTxid.toList ++
    u32BeBytes kickoffRoundVout ++ genesisStateHash.toList

/-- `deposit_constant`. -/
def depositConstant (operatorXonlypk : Bytes32) (watchtowerChallengeConnectorStartIdx : UInt32)
    (watchtowerPubkeys : List Bytes32) (moveTxid roundTxid : Bytes32) (kickoffRoundVout : UInt32)
    (genesisStateHash : Bytes32) : Bytes32 :=
  library.sha256 (preDepositConstant library operatorXonlypk watchtowerChallengeConnectorStartIdx
    watchtowerPubkeys moveTxid roundTxid kickoffRoundVout genesisStateHash)

/-- `journal_hash`. -/
def journalHash (payoutTxBlockhash latestBlockhash : Vector UInt8 20)
    (challengeSendingWatchtowers : ChallengeSendingWatchtowers) (depositConstant : Bytes32) :
    Bytes32 :=
  let concatenatedData := payoutTxBlockhash.toList ++ latestBlockhash.toList ++
    challengeSendingWatchtowers.toList
  let hashBytes := library.blake3 concatenatedData
  let concatJournal := depositConstant.toList ++ hashBytes.toList
  library.blake3 concatJournal

/-- The deposit constant of the values of a run. -/
def JournalValues.depositConstant (values : JournalValues) : Bytes32 :=
  Clementine.depositConstant library values.operatorXonlypk
    values.watchtowerChallengeConnectorStartIdx values.watchtowerPubkeys values.moveTxid
    values.roundTxid values.kickoffRoundVout values.genesisStateHash

/-- The journal of the values of a run. -/
def JournalValues.journalHash (values : JournalValues) : Bytes32 :=
  Clementine.journalHash library values.payoutTxBlockhash values.latestBlockhash
    values.challengeSendingWatchtowers (values.depositConstant library)

/-! ## Bridge circuit -/

/-- Message of the comparison of works. -/
def insufficientWorkText (totalWork maxTotalWork : TotalWork) : String :=
  s!"Insufficient total work: Total Work TotalWork({totalWork.toList}) - " ++
    s!"Max Total Work: TotalWork({maxTotalWork.toList})"

/-- `bridge_circuit` up to the values that enter the journal. -/
def bridgeCircuitValues (guest : CircuitGuest BridgeCircuitInput) (workOnlyImageId : Bytes32) :
    Except Panic JournalValues := do
  let input := guest.readFromHost
  assertEq (headerChainMethodId network) input.hcp.methodId
    (headerChainMethodIdText (headerChainMethodId network) input.hcp.methodId)
  guest.verify input.hcp.methodId input.hcp
  let flagged ← totalWorkAndWatchtowerFlags library input workOnlyImageId
  let totalWork : TotalWork := input.hcp.chainState.totalWork.drop 16
  panicIf (totalWork.toList < flagged.1.toList) (insufficientWorkText totalWork flagged.1)
  let included ← input.payoutSpv.verify library.sha256 library.encode
    input.hcp.chainState.blockHashesMmr
  panicIf (included = false)
    s!"Invalid SPV proof for txid: {displayTxid (library.computeTxid input.payoutSpv.transaction)}"
  let lightClientCircuitOutput ← lcProofVerifier network library input.lcp
  let lcL1BlockHash := lightClientCircuitOutput.latestDaStateBlockHash
  let spvL1BlockHash := input.payoutSpv.blockHeader.computeBlockHash library.sha256
  panicIf (lcL1BlockHash ≠ spvL1BlockHash)
    s!"L1 block hash mismatch: expected {lcL1BlockHash.toList}, got {spvL1BlockHash.toList}"
  let withdrawal ← verifyStorageProofs library input.sp lightClientCircuitOutput.l2StateRoot
  let payoutInput ← vecIndex input.payoutSpv.transaction.input input.payoutInputIndex.toNat
  assertEq withdrawal.1 payoutInput.previousOutput.txid "Invalid withdrawal transaction ID"
  assertEq withdrawal.2.1 payoutInput.previousOutput.vout
    "Invalid withdrawal transaction output index"
  let firstOpReturnOutput ← expectSome "Payout transaction must have an OP_RETURN output"
    (getFirstOpReturnOutput library.script input.payoutSpv.transaction)
  let kickoffInput ← vecIndex input.kickoffTx.input 0
  let operatorData ← expectSome "Invalid operator xonlypk"
    (parseOpReturnData library.script firstOpReturnOutput.scriptPubkey)
  let operatorXonlypk ← expectSome "Invalid xonlypk" (tryInto 32 operatorData)
  return {
    payoutTxBlockhash := blockhashTail spvL1BlockHash
    latestBlockhash := blockhashTail input.hcp.chainState.bestBlockHash
    challengeSendingWatchtowers := flagged.2
    operatorXonlypk
    watchtowerChallengeConnectorStartIdx := input.watchtowerChallengeConnectorStartIdx
    watchtowerPubkeys := input.allTweakedWatchtowerPubkeys
    moveTxid := withdrawal.2.2
    roundTxid := kickoffInput.previousOutput.txid
    kickoffRoundVout := kickoffInput.previousOutput.vout
    genesisStateHash := input.hcp.genesisStateHash }

/-- `bridge_circuit`; the result is what the run commits. -/
def bridgeCircuit (guest : CircuitGuest BridgeCircuitInput) (workOnlyImageId : Bytes32) :
    Except Panic Bytes32 := do
  let values ← bridgeCircuitValues network library guest workOnlyImageId
  return values.journalHash library

/-! ## What an accepting run has checked -/

/-- The values of a run, traced to the checked inputs that they come from. -/
structure BridgeRun (guest : CircuitGuest BridgeCircuitInput) (workOnlyImageId : Bytes32)
    (values : JournalValues) : Prop where
  methodId : headerChainMethodId network = guest.readFromHost.hcp.methodId
  verified : guest.verify guest.readFromHost.hcp.methodId guest.readFromHost.hcp = .ok ()
  heavier : ∃ maxTotalWork, totalWorkAndWatchtowerFlags library guest.readFromHost workOnlyImageId =
      .ok (maxTotalWork, values.challengeSendingWatchtowers) ∧
    ¬(guest.readFromHost.hcp.chainState.totalWork.drop 16).toList < maxTotalWork.toList
  included : guest.readFromHost.payoutSpv.verify library.sha256 library.encode
    guest.readFromHost.hcp.chainState.blockHashesMmr = .ok true
  withdrawn : ∃ lightClientCircuitOutput txid vout payoutInput,
    lcProofVerifier network library guest.readFromHost.lcp = .ok lightClientCircuitOutput ∧
    lightClientCircuitOutput.latestDaStateBlockHash =
      guest.readFromHost.payoutSpv.blockHeader.computeBlockHash library.sha256 ∧
    verifyStorageProofs library guest.readFromHost.sp lightClientCircuitOutput.l2StateRoot =
      .ok (txid, vout, values.moveTxid) ∧
    guest.readFromHost.payoutSpv.transaction.input[guest.readFromHost.payoutInputIndex.toNat]? =
      some payoutInput ∧
    payoutInput.previousOutput = ⟨txid, vout⟩
  operator : ∃ firstOpReturnOutput,
    getFirstOpReturnOutput library.script guest.readFromHost.payoutSpv.transaction =
      some firstOpReturnOutput ∧
    parseOpReturnData library.script firstOpReturnOutput.scriptPubkey =
      some values.operatorXonlypk.toList
  round : ∃ kickoffInput, guest.readFromHost.kickoffTx.input[0]? = some kickoffInput ∧
    kickoffInput.previousOutput = ⟨values.roundTxid, values.kickoffRoundVout⟩
  payoutTxBlockhash : values.payoutTxBlockhash =
    blockhashTail (guest.readFromHost.payoutSpv.blockHeader.computeBlockHash library.sha256)
  latestBlockhash : values.latestBlockhash =
    blockhashTail guest.readFromHost.hcp.chainState.bestBlockHash
  startIdx : values.watchtowerChallengeConnectorStartIdx =
    guest.readFromHost.watchtowerChallengeConnectorStartIdx
  watchtowerPubkeys : values.watchtowerPubkeys = guest.readFromHost.allTweakedWatchtowerPubkeys
  genesisStateHash : values.genesisStateHash = guest.readFromHost.hcp.genesisStateHash

variable {network library} {guest : CircuitGuest BridgeCircuitInput} {workOnlyImageId : Bytes32}

/-- A run reaches its journal exactly if it passes every check. -/
theorem bridgeCircuitValues_ok_iff {values : JournalValues} :
    bridgeCircuitValues network library guest workOnlyImageId = .ok values ↔
      BridgeRun network library guest workOnlyImageId values := by
  simp only [bridgeCircuitValues, ExceptRun.bind_ok_iff, expectSome_eq_ok, vecIndex_eq_ok, pure,
    Except.pure, ok.injEq, tryInto_eq_some]
  constructor
  · rintro ⟨⟨⟩, methodId, ⟨⟩, verified, ⟨maxTotalWork, senders⟩, flagged, ⟨⟩, enough, included,
      spv, ⟨⟩, spvHolds, output, lightClient, ⟨⟩, sameBlock, ⟨txid, vout, moveTxid⟩, storage,
      payoutInput, payoutInputEq, ⟨⟩, sameTxid, ⟨⟩, sameVout, opReturn, opReturnEq, kickoffInput,
      kickoffInputEq, operatorData, operatorDataEq, operatorXonlypk, operatorEq, rfl⟩
    rw [assertEq_ok_iff] at methodId sameTxid sameVout
    rw [panicIf_eq_ok] at enough spvHolds sameBlock
    rw [not_not] at sameBlock
    rw [Bool.not_eq_false] at spvHolds
    dsimp only at sameTxid sameVout
    exact {
      methodId
      verified
      heavier := ⟨maxTotalWork, flagged, enough⟩
      included := by rw [spv, spvHolds]
      withdrawn := ⟨output, txid, vout, payoutInput, lightClient, sameBlock, storage,
        payoutInputEq, by rw [sameTxid, sameVout]⟩
      operator := ⟨opReturn, opReturnEq, by rw [operatorDataEq, operatorEq]⟩
      round := ⟨kickoffInput, kickoffInputEq, rfl⟩
      payoutTxBlockhash := rfl
      latestBlockhash := rfl
      startIdx := rfl
      watchtowerPubkeys := rfl
      genesisStateHash := rfl }
  · intro run
    obtain ⟨maxTotalWork, flagged, enough⟩ := run.heavier
    obtain ⟨output, txid, vout, payoutInput, lightClient, sameBlock, storage, payoutInputEq,
      outpoint⟩ := run.withdrawn
    obtain ⟨opReturn, opReturnEq, operatorDataEq⟩ := run.operator
    obtain ⟨kickoffInput, kickoffInputEq, roundOutpoint⟩ := run.round
    refine ⟨(), assertEq_ok_iff.mpr run.methodId, (), run.verified, _, flagged,
      (), panicIf_eq_ok.mpr enough, true, run.included, (), panicIf_eq_ok.mpr (by simp),
      output, lightClient, (), panicIf_eq_ok.mpr (not_not.mpr sameBlock), _, storage,
      payoutInput, payoutInputEq, (), assertEq_ok_iff.mpr (by rw [outpoint]),
      (), assertEq_ok_iff.mpr (by rw [outpoint]), opReturn, opReturnEq, kickoffInput,
      kickoffInputEq, _, operatorDataEq, values.operatorXonlypk, rfl, ?_⟩
    rw [roundOutpoint, ← run.payoutTxBlockhash, ← run.latestBlockhash, ← run.startIdx,
      ← run.watchtowerPubkeys, ← run.genesisStateHash]

/-- A run commits the journal of its values. -/
theorem bridgeCircuit_ok_iff {journal : Bytes32} :
    bridgeCircuit network library guest workOnlyImageId = .ok journal ↔
      ∃ values, bridgeCircuitValues network library guest workOnlyImageId = .ok values ∧
        values.journalHash library = journal := by
  simp only [bridgeCircuit, ExceptRun.bind_ok_iff, pure, Except.pure, ok.injEq]

/-! ## The recorded run -/

namespace Recorded

/-- The zkVM verifies the recorded header chain output only. -/
def verify (methodId : MethodId) (output : BlockHeaderCircuitOutput) : Except Panic Unit :=
  if methodId = hcp.methodId ∧ output = hcp then
    .ok ()
  else
    .error (.message "called `Result::unwrap()` on an `Err` value")

/-- The values of the recorded run. -/
def values : JournalValues where
  payoutTxBlockhash := blockhashTail blockHash
  latestBlockhash := blockhashTail blockHash
  challengeSendingWatchtowers := challengeSet.challengeSenders
  operatorXonlypk := operatorXonlypk
  watchtowerChallengeConnectorStartIdx := 41
  watchtowerPubkeys := [watchtowerKey]
  moveTxid := moveTxid
  roundTxid := roundTxid
  kickoffRoundVout := 2
  genesisStateHash := hcp.genesisStateHash

theorem hcp_verified : verify input.hcp.methodId input.hcp = .ok () := if_pos ⟨rfl, rfl⟩

theorem work_enough :
    ¬(input.hcp.chainState.totalWork.drop 16).toList < commitment.totalWork.toList := by
  decide

/-- The computations of the recorded run: the works and flags, the block hash, the inclusion
proof, the light client output and the operator's key. -/
theorem computed : totalWorkAndWatchtowerFlags Recorded.library input Recorded.workOnlyImageId =
        .ok (commitment.totalWork, challengeSet.challengeSenders) ∧
      input.payoutSpv.blockHeader.computeBlockHash Recorded.library.sha256 = blockHash ∧
      input.payoutSpv.verify Recorded.library.sha256 Recorded.library.encode
        input.hcp.chainState.blockHashesMmr = .ok true ∧
      lcProofVerifier .regtest Recorded.library input.lcp = .ok lightClientOutput ∧
      getFirstOpReturnOutput Recorded.library.script input.payoutSpv.transaction =
        some ⟨0, 0x6A :: 0x20 :: operatorXonlypk.toList⟩ ∧
      parseOpReturnData Recorded.library.script (0x6A :: 0x20 :: operatorXonlypk.toList) =
        some operatorXonlypk.toList := by
  simp only [totalWorkAndWatchtowerFlags, challenges_verified]
  decide +kernel

/-- The recorded input passes every check, also with repeated challenges. -/
theorem bridgeRun {others : List WatchtowerInput} (few : others.length ≤ maxNumberOfWatchtowers)
    (same : ∀ other, other ∈ others ↔ other ∈ input.watchtowerInputs) :
    BridgeRun .regtest Recorded.library ⟨{ input with watchtowerInputs := others }, verify⟩
      Recorded.workOnlyImageId values where
  methodId := rfl
  verified := hcp_verified
  heavier := ⟨commitment.totalWork, (totalWorkAndWatchtowerFlags_congr
    ScriptLibrary.bitcoin_lawful Recorded.workOnlyImageId challenges_verified few same).trans
    computed.1, work_enough⟩
  included := computed.2.2.1
  withdrawn := ⟨lightClientOutput, withdrawalTxid, 0, ⟨⟨withdrawalTxid, 0⟩, [], 0xFFFFFFFD, []⟩,
    computed.2.2.2.1, computed.2.1.symm, storageProof_accepted, rfl, rfl⟩
  operator := ⟨_, computed.2.2.2.2⟩
  round := ⟨⟨⟨roundTxid, 2⟩, [], 0xFFFFFFFD, []⟩, rfl, rfl⟩
  payoutTxBlockhash := congrArg blockhashTail computed.2.1.symm
  latestBlockhash := rfl
  startIdx := rfl
  watchtowerPubkeys := rfl
  genesisStateHash := rfl

end Recorded

/-! ## Comparison of works -/

/-- The lower half of a big-endian number. -/
theorem beNat_drop_half (bytes : Bytes32) :
    beNat (bytes.drop 16).toList = (U256.fromBeBytes bytes).toNat % 2 ^ 128 := by
  rw [U256.toNat_fromBeBytes, toList_drop]
  conv_rhs => rw [← List.take_append_drop 16 bytes.toList, beNat_append]
  have bound := beNat_lt (bytes.toList.drop 16)
  have width : (bytes.toList.drop 16).length = 16 := by simp
  rw [width] at bound ⊢
  rw [show 256 ^ 16 = 2 ^ 128 by norm_num] at bound ⊢
  rw [Nat.mul_comm, Nat.mul_add_mod, Nat.mod_eq_of_lt bound]

theorem beNat_workConversion (work : U256) :
    beNat (workConversion work).toList = work.toNat % 2 ^ 128 := by
  rw [workConversion, beNat_beBytes, show 256 ^ 16 = 2 ^ 128 by norm_num, Nat.mod_mod]

/-- What a run of the work-only circuit commits. -/
theorem workOnlyCircuit_ok {prover : CircuitGuest WorkOnlyCircuitInput}
    {committed : WorkOnlyCircuitOutput} (run : workOnlyCircuit network prover = .ok committed) :
    committed.workU128 = workConversion
      (U256.fromBeBytes prover.readFromHost.headerChainCircuitOutput.chainState.totalWork) ∧
    committed.genesisStateHash = prover.readFromHost.headerChainCircuitOutput.genesisStateHash := by
  simp only [workOnlyCircuit, ExceptRun.bind_ok_iff, pure, Except.pure, ok.injEq] at run
  obtain ⟨⟨⟩, -, ⟨⟩, -, rfl⟩ := run
  exact ⟨rfl, rfl⟩

/-- A challenge that counts is no heavier than the operator's chain in the lower half of the
work. -/
theorem BridgeRun.work_le {values : JournalValues} (lawful : library.script.Lawful)
    (run : BridgeRun network library guest workOnlyImageId values)
    {watchtowerInput : WatchtowerInput}
    (member : watchtowerInput ∈ guest.readFromHost.watchtowerInputs)
    {commitment : WatchTowerChallengeTxCommitment}
    (counts : Counts library guest.readFromHost workOnlyImageId watchtowerInput commitment) :
    beNat commitment.totalWork.toList ≤
      (U256.fromBeBytes guest.readFromHost.hcp.chainState.totalWork).toNat % 2 ^ 128 := by
  obtain ⟨maxTotalWork, flagged, enough⟩ := run.heavier
  obtain ⟨challengeSet, verified, -⟩ := verified_of_totalWorkAndWatchtowerFlags flagged
  obtain ⟨totalWork, computed, heaviest⟩ :=
    totalWorkAndWatchtowerFlags_ok lawful workOnlyImageId verified
  rw [computed, ok.injEq, Prod.mk.injEq] at flagged
  rw [flagged.1] at heaviest
  rw [lt_iff_beNat_lt (by simp), Nat.not_lt, beNat_drop_half] at enough
  exact (heaviest.heaviest watchtowerInput member commitment counts).trans enough

/-- Proofs of the work-only circuit exist only for what some run of it commits. -/
def WorkOnlySound (network : Network) (library : CircuitLibrary)
    (verify : MethodId → BlockHeaderCircuitOutput → Except Panic Unit)
    (workOnlyImageId : Bytes32) : Prop :=
  ∀ compressedProof work genesisStateHash,
    convertToGroth16AndVerify library compressedProof work workOnlyImageId genesisStateHash = true →
    ∃ output, workOnlyCircuit network ⟨⟨output⟩, verify⟩ = .ok ⟨work, genesisStateHash⟩

/-- The recorded proof was made from the recorded header chain output. -/
theorem Recorded.workOnlySound :
    WorkOnlySound .regtest Recorded.library Recorded.verify Recorded.workOnlyImageId := by
  intro compressedProof work genesisStateHash verifies
  simp only [convertToGroth16AndVerify, Recorded.library, decide_eq_true_eq] at verifies
  split_ifs at verifies with readable
  obtain ⟨same, rfl, -⟩ := of_decide_eq_true verifies
  obtain rfl : work = Recorded.commitment.totalWork := congrArg (·.totalWork) same
  exact ⟨Recorded.hcp, by decide +kernel⟩

/-- The recorded challenge carries its proof in three outputs. -/
theorem Recorded.challenge_counts :
    Counts Recorded.library Recorded.input Recorded.workOnlyImageId Recorded.watchtowerInput
      Recorded.commitment :=
  ⟨.three (beBytes 64 (beNat (Recorded.commitment.compressedG16Proof.toList.drop 64)))
    (by decide +kernel) (by decide +kernel) (by decide +kernel) (by decide +kernel)
    (by decide +kernel), by decide +kernel⟩

/-- A heavier watchtower chain defeats a lighter operator chain: in an accepting run, every
challenge with a verifying proof was made from a header chain output, and every output it
can have been made from has the operator's genesis state and, for works below `2 ^ 128`, at
most the operator's work. -/
theorem bridgeCircuit_heaviest (network : Network) (library : CircuitLibrary)
    (lawful : library.script.Lawful)
    (verify : MethodId → BlockHeaderCircuitOutput → Except Panic Unit) (workOnlyImageId : Bytes32)
    (sound : WorkOnlySound network library verify workOnlyImageId)
    (input : BridgeCircuitInput) (journal : Bytes32)
    (accepted : bridgeCircuit network library ⟨input, verify⟩ workOnlyImageId = .ok journal)
    (watchtowerInput : WatchtowerInput) (member : watchtowerInput ∈ input.watchtowerInputs)
    (commitment : WatchTowerChallengeTxCommitment)
    (counts : Counts library input workOnlyImageId watchtowerInput commitment) :
    (∃ output, workOnlyCircuit network ⟨⟨output⟩, verify⟩ =
      .ok ⟨commitment.totalWork, input.hcp.genesisStateHash⟩) ∧
    ∀ output, workOnlyCircuit network ⟨⟨output⟩, verify⟩ =
        .ok ⟨commitment.totalWork, input.hcp.genesisStateHash⟩ →
      output.genesisStateHash = input.hcp.genesisStateHash ∧
      ((U256.fromBeBytes output.chainState.totalWork).toNat < 2 ^ 128 →
        (U256.fromBeBytes input.hcp.chainState.totalWork).toNat < 2 ^ 128 →
        U256.fromBeBytes output.chainState.totalWork ≤
          U256.fromBeBytes input.hcp.chainState.totalWork) := by
  obtain ⟨values, valuesEq, -⟩ := bridgeCircuit_ok_iff.mp accepted
  have lighter := (bridgeCircuitValues_ok_iff.mp valuesEq).work_le lawful member counts
  refine ⟨sound _ _ _ counts.2, fun output made => ?_⟩
  obtain ⟨workEq, genesisEq⟩ := workOnlyCircuit_ok made
  refine ⟨genesisEq.symm, fun outputSmall operatorSmall => ?_⟩
  dsimp only at workEq
  rw [workEq, beNat_workConversion, Nat.mod_eq_of_lt outputSmall,
    Nat.mod_eq_of_lt operatorSmall] at lighter
  exact BitVec.le_def.mpr lighter

/-- The recorded challenge was made from an output of the operator's work. -/
theorem bridgeCircuit_heaviest_recorded :
    bridgeCircuit .regtest Recorded.library ⟨Recorded.input, Recorded.verify⟩
        Recorded.workOnlyImageId = .ok (Recorded.values.journalHash Recorded.library) ∧
    ∃ output : BlockHeaderCircuitOutput, workOnlyCircuit .regtest ⟨⟨output⟩, Recorded.verify⟩ =
        .ok ⟨Recorded.commitment.totalWork, Recorded.hcp.genesisStateHash⟩ ∧
      output.genesisStateHash = Recorded.hcp.genesisStateHash := by
  have accepted := bridgeCircuit_ok_iff.mpr ⟨Recorded.values,
    bridgeCircuitValues_ok_iff.mpr (Recorded.bridgeRun (by decide) fun _ => Iff.rfl), rfl⟩
  obtain ⟨⟨output, made⟩, bounded⟩ := bridgeCircuit_heaviest .regtest Recorded.library
    ScriptLibrary.bitcoin_lawful Recorded.verify Recorded.workOnlyImageId Recorded.workOnlySound
    Recorded.input _ accepted Recorded.watchtowerInput (List.mem_singleton_self _)
    Recorded.commitment Recorded.challenge_counts
  exact ⟨accepted, output, made, (bounded output made).1⟩

/-! ## The journal determines the values -/

theorem length_u32BeBytes (value : UInt32) : (u32BeBytes value).length = 4 := by
  simp [u32BeBytes]

theorem u32BeBytes_injective {left right : UInt32} (equal : u32BeBytes left = u32BeBytes right) :
    left = right :=
  u32LeBytes_injective (congrArg List.reverse equal)

/-- The strings that the journal of a run hashes with SHA-256. -/
def JournalValues.sha256Strings (library : CircuitLibrary) (values : JournalValues) :
    List (List UInt8) :=
  [pubkeyConcat values.watchtowerPubkeys,
    preDepositConstant library values.operatorXonlypk values.watchtowerChallengeConnectorStartIdx
      values.watchtowerPubkeys values.moveTxid values.roundTxid values.kickoffRoundVout
      values.genesisStateHash]

/-- The strings that the journal of a run hashes with BLAKE3. -/
def JournalValues.blake3Strings (library : CircuitLibrary) (values : JournalValues) :
    List (List UInt8) :=
  let concatenatedData := values.payoutTxBlockhash.toList ++ values.latestBlockhash.toList ++
    values.challengeSendingWatchtowers.toList
  [concatenatedData, (values.depositConstant library).toList ++
    (library.blake3 concatenatedData).toList]

variable {left right : JournalValues}

/-- Without collisions the deposit constant determines what it was computed from. -/
theorem depositConstant_injective {strings : Set (List UInt8)}
    (collisionFree : Set.InjOn library.sha256 strings)
    (leftHashed : ∀ string ∈ left.sha256Strings library, string ∈ strings)
    (rightHashed : ∀ string ∈ right.sha256Strings library, string ∈ strings)
    (equal : left.depositConstant library = right.depositConstant library) :
    left.moveTxid = right.moveTxid ∧ left.watchtowerPubkeys = right.watchtowerPubkeys ∧
    left.operatorXonlypk = right.operatorXonlypk ∧
    left.watchtowerChallengeConnectorStartIdx = right.watchtowerChallengeConnectorStartIdx ∧
    left.roundTxid = right.roundTxid ∧ left.kickoffRoundVout = right.kickoffRoundVout ∧
    left.genesisStateHash = right.genesisStateHash := by
  have joined := collisionFree (leftHashed _ (by simp [JournalValues.sha256Strings]))
    (rightHashed _ (by simp [JournalValues.sha256Strings])) equal
  simp only [preDepositConstant] at joined
  obtain ⟨joined, genesis⟩ := List.append_inj' joined (by simp)
  obtain ⟨joined, vout⟩ := List.append_inj' joined (by simp [length_u32BeBytes])
  obtain ⟨joined, round⟩ := List.append_inj' joined (by simp)
  obtain ⟨joined, startIdx⟩ := List.append_inj' joined (by simp [length_u32BeBytes])
  obtain ⟨joined, operator⟩ := List.append_inj' joined (by simp)
  obtain ⟨moveTxid, digests⟩ := List.append_inj' joined (by simp)
  have keys := collisionFree (leftHashed _ (by simp [JournalValues.sha256Strings]))
    (rightHashed _ (by simp [JournalValues.sha256Strings])) (toList_inj.mp digests)
  have pubkeys := flatMap_injective (by decide)
    (fun key : Bytes32 => length_toList) (fun _ _ => toList_inj.mp) keys
  exact ⟨toList_inj.mp moveTxid, pubkeys, toList_inj.mp operator,
    u32BeBytes_injective startIdx, toList_inj.mp round, u32BeBytes_injective vout,
    toList_inj.mp genesis⟩

/-- Without collisions the journal determines the values. -/
theorem journalHash_injective {sha256Strings blake3Strings : Set (List UInt8)}
    (sha256Free : Set.InjOn library.sha256 sha256Strings)
    (blake3Free : Set.InjOn library.blake3 blake3Strings)
    (leftSha256 : ∀ string ∈ left.sha256Strings library, string ∈ sha256Strings)
    (rightSha256 : ∀ string ∈ right.sha256Strings library, string ∈ sha256Strings)
    (leftBlake3 : ∀ string ∈ left.blake3Strings library, string ∈ blake3Strings)
    (rightBlake3 : ∀ string ∈ right.blake3Strings library, string ∈ blake3Strings)
    (equal : left.journalHash library = right.journalHash library) : left = right := by
  have outer := blake3Free (leftBlake3 _ (by simp [JournalValues.blake3Strings]))
    (rightBlake3 _ (by simp [JournalValues.blake3Strings])) equal
  obtain ⟨constants, digests⟩ := List.append_inj outer (by simp)
  have inner := blake3Free (leftBlake3 _ (by simp [JournalValues.blake3Strings]))
    (rightBlake3 _ (by simp [JournalValues.blake3Strings])) (toList_inj.mp digests)
  obtain ⟨hashes, senders⟩ := List.append_inj inner (by simp)
  obtain ⟨payout, latest⟩ := List.append_inj hashes (by simp)
  obtain ⟨moveTxid, pubkeys, operator, startIdx, round, vout, genesis⟩ :=
    depositConstant_injective sha256Free leftSha256 rightSha256 (toList_inj.mp constants)
  obtain ⟨_, _, _, _, _, _, _, _, _, _⟩ := left
  obtain ⟨_, _, _, _, _, _, _, _, _, _⟩ := right
  rw [JournalValues.mk.injEq]
  exact ⟨toList_inj.mp payout, toList_inj.mp latest, toList_inj.mp senders,
    operator, startIdx, pubkeys, moveTxid, round, vout, genesis⟩

/-- The journal binds the claim: two accepting runs that commit one journal have the same
values, each of which comes from checked inputs of both runs. -/
theorem bridgeCircuit_binds (network : Network) (library : CircuitLibrary)
    (left right : CircuitGuest BridgeCircuitInput) (leftImageId rightImageId journal : Bytes32)
    (leftAccepted : bridgeCircuit network library left leftImageId = .ok journal)
    (rightAccepted : bridgeCircuit network library right rightImageId = .ok journal)
    (sha256Strings blake3Strings : Set (List UInt8))
    (sha256Free : Set.InjOn library.sha256 sha256Strings)
    (blake3Free : Set.InjOn library.blake3 blake3Strings)
    (sha256Hashed : ∀ values, bridgeCircuitValues network library left leftImageId = .ok values ∨
        bridgeCircuitValues network library right rightImageId = .ok values →
      ∀ string ∈ values.sha256Strings library, string ∈ sha256Strings)
    (blake3Hashed : ∀ values, bridgeCircuitValues network library left leftImageId = .ok values ∨
        bridgeCircuitValues network library right rightImageId = .ok values →
      ∀ string ∈ values.blake3Strings library, string ∈ blake3Strings) :
    ∃ values, BridgeRun network library left leftImageId values ∧
      BridgeRun network library right rightImageId values := by
  obtain ⟨values, leftValues, leftJournal⟩ := bridgeCircuit_ok_iff.mp leftAccepted
  obtain ⟨values', rightValues, rightJournal⟩ := bridgeCircuit_ok_iff.mp rightAccepted
  have same : values = values' := journalHash_injective sha256Free blake3Free
    (sha256Hashed values (.inl leftValues)) (sha256Hashed values' (.inr rightValues))
    (blake3Hashed values (.inl leftValues)) (blake3Hashed values' (.inr rightValues))
    (leftJournal.trans rightJournal.symm)
  rw [← same] at rightValues
  exact ⟨values, bridgeCircuitValues_ok_iff.mp leftValues,
    bridgeCircuitValues_ok_iff.mp rightValues⟩

/-- The recorded run, and the run with its challenge repeated, commit one journal. -/
theorem bridgeCircuit_binds_repeated :
    bridgeCircuit .regtest Recorded.library ⟨Recorded.input, Recorded.verify⟩
        Recorded.workOnlyImageId = .ok (Recorded.values.journalHash Recorded.library) ∧
    bridgeCircuit .regtest Recorded.library
        ⟨{ Recorded.input with watchtowerInputs := List.replicate 2 Recorded.watchtowerInput },
          Recorded.verify⟩
        Recorded.workOnlyImageId = .ok (Recorded.values.journalHash Recorded.library) ∧
    ∃ values, BridgeRun .regtest Recorded.library ⟨Recorded.input, Recorded.verify⟩
        Recorded.workOnlyImageId values ∧
      BridgeRun .regtest Recorded.library
        ⟨{ Recorded.input with watchtowerInputs := List.replicate 2 Recorded.watchtowerInput },
          Recorded.verify⟩
        Recorded.workOnlyImageId values := by
  have leftValues := bridgeCircuitValues_ok_iff.mpr
    (@Recorded.bridgeRun Recorded.input.watchtowerInputs (by decide) fun _ => Iff.rfl)
  have rightValues := bridgeCircuitValues_ok_iff.mpr
    (@Recorded.bridgeRun (List.replicate 2 Recorded.watchtowerInput) (by decide)
      fun other => by simp [Recorded.input])
  have leftAccepted := bridgeCircuit_ok_iff.mpr ⟨_, leftValues, rfl⟩
  have rightAccepted := bridgeCircuit_ok_iff.mpr ⟨_, rightValues, rfl⟩
  refine ⟨leftAccepted, rightAccepted, bridgeCircuit_binds .regtest Recorded.library _ _ _ _ _
    leftAccepted rightAccepted {string | string ∈ Recorded.values.sha256Strings Recorded.library}
    {string | string ∈ Recorded.values.blake3Strings Recorded.library}
    (List.inj_on_of_nodup_map (by decide +kernel)) (List.inj_on_of_nodup_map (by decide +kernel))
    ?_ ?_⟩
  all_goals
    rintro values (reached | reached) string member
    · rw [leftValues] at reached
      cases reached
      exact member
    · rw [rightValues] at reached
      cases reached
      exact member

end Clementine
