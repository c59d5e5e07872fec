import Clementine.BridgeCircuit.Circuit
import Clementine.BridgeCircuitHost.WatchtowerInputs

/-!
# Parameters and public inputs of the host

`BridgeCircuitHostParams::new_with_wt_tx` collects the input of the bridge circuit, and
`SuccinctBridgeCircuitPublicInputs` recomputes in code of its own the journal that the circuit
will commit.

The recomputed journal is always the circuit's.  The payout input is searched by the
withdrawal transaction id alone, while the circuit also compares the output index: a payout
that spends another output of the withdrawal transaction first gets an index that the circuit
refuses.
-/

namespace Clementine

variable (library : HostLibrary)

/-! ## Host parameters -/

/-- `BridgeCircuitHostParams` without the receipts and the network. -/
structure BridgeCircuitHostParams where
  kickoffTx : CircuitTransaction
  spv : SPV
  blockHeaderCircuitOutput : BlockHeaderCircuitOutput
  lightClientProof : LightClientProof
  storageProof : StorageProof
  watchtowerInputs : List WatchtowerInput
  allTweakedWatchtowerPubkeys : List Bytes32
  watchtowerChallengeConnectorStartIdx : UInt32
  payoutInputIndex : UInt32
  deriving DecidableEq

/-- `get_payout_input_index`. -/
def getPayoutInputIndex (wdTxid : Bytes32) (payoutTx : CircuitTransaction) :
    Except (Failure BridgeCircuitHostParamsError) UInt32 := do
  let index ← okOr .payoutInputIndexNotFound
    (payoutTx.input.findIdx? fun input => input.previousOutput.txid = wdTxid)
  errorIf (2 ^ 32 ≤ index) (.payoutInputIndexTooLarge index)
  return UInt32.ofNat index

/-- `serde_json::from_str` for a storage proof, with the host's error. -/
def readStorageProof (text : String) :
    Except (Failure BridgeCircuitHostParamsError) EIP1186StorageProof :=
  okOr (.storageProofDeserializationError (library.storageProofErrorText text))
    (library.storageProofFromStr text)

/-- `BridgeCircuitHostParams::new_with_wt_tx`; the receipt of the header chain enters with its
journal.  The 32 bytes of the withdrawal transaction id always deserialize. -/
def BridgeCircuitHostParams.newWithWtTx (kickoffTx : CircuitTransaction) (spv : SPV)
    (headerchainJournal : List UInt8) (lightClientProof : LightClientProof)
    (storageProof : StorageProof) (watchtowerContexts : List WatchtowerContext)
    (watchtowerChallengeConnectorStartIdx : UInt32) :
    Except (Failure BridgeCircuitHostParamsError) BridgeCircuitHostParams := do
  let watchtowerInputs ← getWtInputs library (library.computeTxid kickoffTx) watchtowerContexts
    watchtowerChallengeConnectorStartIdx
  let blockHeaderCircuitOutput ← okOr .invalidHeaderchainReceipt
    (library.headerChainOutputFromSlice headerchainJournal)
  let allTweakedWatchtowerPubkeys ←
    getAllPubkeys library kickoffTx watchtowerChallengeConnectorStartIdx
  let storageProofUtxo ← readStorageProof library storageProof.storageProofUtxo
  let wdTxid := storageProofUtxo.value.toBeBytes
  let payoutInputIndex ← getPayoutInputIndex wdTxid spv.transaction
  return {
    kickoffTx
    spv
    blockHeaderCircuitOutput
    lightClientProof
    storageProof
    watchtowerInputs
    allTweakedWatchtowerPubkeys
    watchtowerChallengeConnectorStartIdx
    payoutInputIndex }

/-- `BridgeCircuitHostParams::into_bridge_circuit_input`. -/
def BridgeCircuitHostParams.intoBridgeCircuitInput (self : BridgeCircuitHostParams) :
    BridgeCircuitInput where
  kickoffTx := self.kickoffTx
  allTweakedWatchtowerPubkeys := self.allTweakedWatchtowerPubkeys
  watchtowerInputs := self.watchtowerInputs
  hcp := self.blockHeaderCircuitOutput
  payoutSpv := self.spv
  payoutInputIndex := self.payoutInputIndex
  lcp := self.lightClientProof
  sp := self.storageProof
  watchtowerChallengeConnectorStartIdx := self.watchtowerChallengeConnectorStartIdx

/-! ## Public inputs -/

/-- `SuccinctBridgeCircuitPublicInputs`. -/
structure SuccinctBridgeCircuitPublicInputs where
  bridgeCircuitInput : BridgeCircuitInput
  challengeSendingWatchtowers : ChallengeSendingWatchtowers
  depositConstant : Bytes32
  payoutTxBlockHash : Vector UInt8 20
  latestBlockHash : Vector UInt8 20
  deriving DecidableEq

/-- `host_deposit_constant`. -/
def hostDepositConstant (input : BridgeCircuitInput) :
    Except (Failure BridgeCircuitHostParamsError) Bytes32 := do
  let firstOpReturnOutput ← okOr .invalidOperatorPubkey
    (getFirstOpReturnOutput library.script input.payoutSpv.transaction)
  let depositStorageProof ← readStorageProof library input.sp.storageProofDepositTxid
  let kickoffInput ← liftPanic (vecIndex input.kickoffTx.input 0)
  let operatorData ← okOr .invalidOperatorPubkey
    (parseOpReturnData library.script firstOpReturnOutput.scriptPubkey)
  let operatorXonlypk ← okOr .invalidOperatorPubkey (tryInto 32 operatorData)
  return depositConstant library.toCircuitLibrary operatorXonlypk
    input.watchtowerChallengeConnectorStartIdx input.allTweakedWatchtowerPubkeys
    depositStorageProof.value.toBeBytes kickoffInput.previousOutput.txid
    kickoffInput.previousOutput.vout input.hcp.genesisStateHash

/-- `SuccinctBridgeCircuitPublicInputs::new`. -/
def SuccinctBridgeCircuitPublicInputs.new (bridgeCircuitInput : BridgeCircuitInput) :
    Except (Failure BridgeCircuitHostParamsError) SuccinctBridgeCircuitPublicInputs := do
  let depositConstant ← hostDepositConstant library bridgeCircuitInput
  let watchtowerChallengeSet ←
    liftPanic (verifyWatchtowerChallenges library.toCircuitLibrary bridgeCircuitInput)
  return {
    bridgeCircuitInput
    challengeSendingWatchtowers := watchtowerChallengeSet.challengeSenders
    depositConstant
    payoutTxBlockHash := blockhashTail
      (bridgeCircuitInput.payoutSpv.blockHeader.computeBlockHash library.sha256)
    latestBlockHash := blockhashTail bridgeCircuitInput.hcp.chainState.bestBlockHash }

/-- `SuccinctBridgeCircuitPublicInputs::host_journal_hash`. -/
def SuccinctBridgeCircuitPublicInputs.hostJournalHash (self : SuccinctBridgeCircuitPublicInputs) :
    Bytes32 :=
  journalHash library.toCircuitLibrary self.payoutTxBlockHash self.latestBlockHash
    self.challengeSendingWatchtowers self.depositConstant

/-! ## Agreement with the circuit -/

variable {library} {guest : CircuitGuest BridgeCircuitInput}

/-- The host computes the deposit constant of an accepting run. -/
theorem hostDepositConstant_ok {network : Network} {workOnlyImageId : Bytes32}
    {values : JournalValues}
    (run : BridgeRun network library.toCircuitLibrary guest workOnlyImageId values) :
    hostDepositConstant library guest.readFromHost =
      .ok (values.depositConstant library.toCircuitLibrary) := by
  obtain ⟨output, txid, vout, payoutInput, -, -, storage, -, -⟩ := run.withdrawn
  obtain ⟨utxoProof, voutProof, depositProof, proved, -⟩ :=
    (verifyStorageProofs_ok_iff library.toCircuitLibrary).mp storage
  obtain ⟨opReturn, opReturnEq, operatorEq⟩ := run.operator
  obtain ⟨kickoffInput, kickoffInputEq, roundEq⟩ := run.round
  obtain ⟨-, -, moveEq⟩ : txid = _ ∧ vout = _ ∧ values.moveTxid = depositProof.value.toBeBytes := by
    simpa using proved.values
  simp only [hostDepositConstant, ExceptRun.bind_ok_iff, okOr_eq_ok, liftPanic_eq_ok,
    vecIndex_eq_ok, readStorageProof, pure, Except.pure, Except.ok.injEq, tryInto_eq_some]
  refine ⟨opReturn, opReturnEq, depositProof, proved.depositRead, kickoffInput, kickoffInputEq, _,
    operatorEq, values.operatorXonlypk, rfl, ?_⟩
  rw [JournalValues.depositConstant, run.startIdx, run.watchtowerPubkeys, run.genesisStateHash,
    moveEq, roundEq]

/-- The host computes the journal of an accepting run. -/
theorem hostJournalHash_eq {network : Network} {workOnlyImageId journal : Bytes32}
    (accepted : bridgeCircuit network library.toCircuitLibrary guest workOnlyImageId =
      .ok journal) :
    ∃ publicInputs, SuccinctBridgeCircuitPublicInputs.new library guest.readFromHost =
        .ok publicInputs ∧
      publicInputs.hostJournalHash library = journal := by
  obtain ⟨values, valuesEq, journalEq⟩ := bridgeCircuit_ok_iff.mp accepted
  have run := bridgeCircuitValues_ok_iff.mp valuesEq
  obtain ⟨maxTotalWork, flagged, -⟩ := run.heavier
  obtain ⟨challengeSet, verified, sendersEq⟩ := verified_of_totalWorkAndWatchtowerFlags flagged
  simp only [SuccinctBridgeCircuitPublicInputs.new, ExceptRun.bind_ok_iff, liftPanic_eq_ok, pure,
    Except.pure, Except.ok.injEq]
  refine ⟨_, ⟨_, hostDepositConstant_ok run, challengeSet, verified, rfl⟩, ?_⟩
  rw [← journalEq, SuccinctBridgeCircuitPublicInputs.hostJournalHash, JournalValues.journalHash,
    run.payoutTxBlockhash, run.latestBlockhash, ← sendersEq]

/-- The search succeeds with the first input that spends the transaction. -/
theorem getPayoutInputIndex_ok_iff {wdTxid : Bytes32} {payoutTx : CircuitTransaction}
    {index : UInt32} :
    getPayoutInputIndex wdTxid payoutTx = .ok index ↔
      payoutTx.input.findIdx? (fun input => input.previousOutput.txid = wdTxid) =
        some index.toNat := by
  simp only [getPayoutInputIndex, ExceptRun.bind_ok_iff, okOr_eq_ok, pure, Except.pure,
    Except.ok.injEq]
  constructor
  · rintro ⟨position, found, ⟨⟩, small, rfl⟩
    rw [errorIf_eq_ok, Nat.not_le] at small
    rw [found, UInt32.toNat_ofNat', Nat.mod_eq_of_lt small]
  · intro found
    exact ⟨index.toNat, found, (), errorIf_eq_ok.mpr (Nat.not_le.mpr index.toNat_lt),
      UInt32.ofNat_toNat⟩

/-- What the host has read when it returns its parameters. -/
theorem newWithWtTx_ok_iff {kickoffTx : CircuitTransaction} {spv : SPV}
    {headerchainJournal : List UInt8} {lightClientProof : LightClientProof}
    {storageProof : StorageProof} {watchtowerContexts : List WatchtowerContext} {startIdx : UInt32}
    {params : BridgeCircuitHostParams} :
    BridgeCircuitHostParams.newWithWtTx library kickoffTx spv headerchainJournal lightClientProof
      storageProof watchtowerContexts startIdx = .ok params ↔
    ∃ watchtowerInputs output pubkeys utxoProof index,
      getWtInputs library (library.computeTxid kickoffTx) watchtowerContexts startIdx =
        .ok watchtowerInputs ∧
      library.headerChainOutputFromSlice headerchainJournal = some output ∧
      getAllPubkeys library kickoffTx startIdx = .ok pubkeys ∧
      library.storageProofFromStr storageProof.storageProofUtxo = some utxoProof ∧
      spv.transaction.input.findIdx?
        (fun input => input.previousOutput.txid = utxoProof.value.toBeBytes) = some index.toNat ∧
      params = ⟨kickoffTx, spv, output, lightClientProof, storageProof, watchtowerInputs, pubkeys,
        startIdx, index⟩ := by
  simp only [BridgeCircuitHostParams.newWithWtTx, ExceptRun.bind_ok_iff, readStorageProof,
    okOr_eq_ok, getPayoutInputIndex_ok_iff, pure, Except.pure, Except.ok.injEq]
  constructor
  · rintro ⟨watchtowerInputs, prepared, output, read, pubkeys, extracted, utxoProof, utxoRead,
      index, found, rfl⟩
    exact ⟨watchtowerInputs, output, pubkeys, utxoProof, index, prepared, read, extracted, utxoRead,
      found, rfl⟩
  · rintro ⟨watchtowerInputs, output, pubkeys, utxoProof, index, prepared, read, extracted,
      utxoRead, found, rfl⟩
    exact ⟨watchtowerInputs, prepared, output, read, pubkeys, extracted, utxoProof, utxoRead,
      index, found, rfl⟩

/-- For a payout that spends the proved outpoint, the host selects an input that the circuit
accepts, and recomputes the journal of every accepting run, exactly if the first input that
spends the withdrawal transaction spends the proved output. -/
theorem newWithWtTx_agrees_iff (network : Network) (library : HostLibrary)
    (kickoffTx : CircuitTransaction) (spv : SPV) (headerchainJournal : List UInt8)
    (lightClientProof : LightClientProof) (storageProof : StorageProof)
    (watchtowerContexts : List WatchtowerContext) (startIdx : UInt32)
    (stateRoot wdTxid moveTxid : Bytes32) (vout : UInt32)
    (proved : verifyStorageProofs library.toCircuitLibrary storageProof stateRoot =
      .ok (wdTxid, vout, moveTxid))
    (payable : ∃ input ∈ spv.transaction.input, input.previousOutput = ⟨wdTxid, vout⟩)
    (watchtowerInputs : List WatchtowerInput)
    (prepared : getWtInputs library (library.computeTxid kickoffTx) watchtowerContexts startIdx =
      .ok watchtowerInputs)
    (output : BlockHeaderCircuitOutput)
    (read : library.headerChainOutputFromSlice headerchainJournal = some output)
    (pubkeys : List Bytes32) (extracted : getAllPubkeys library kickoffTx startIdx = .ok pubkeys) :
    (∃ params, BridgeCircuitHostParams.newWithWtTx library kickoffTx spv headerchainJournal
        lightClientProof storageProof watchtowerContexts startIdx = .ok params ∧
      (∃ input, params.spv.transaction.input[params.payoutInputIndex.toNat]? = some input ∧
        input.previousOutput = ⟨wdTxid, vout⟩) ∧
      ∀ verify workOnlyImageId journal,
        bridgeCircuit network library.toCircuitLibrary ⟨params.intoBridgeCircuitInput, verify⟩
          workOnlyImageId = .ok journal →
        ∃ publicInputs,
          SuccinctBridgeCircuitPublicInputs.new library params.intoBridgeCircuitInput =
            .ok publicInputs ∧
          publicInputs.hostJournalHash library = journal) ↔
    ∃ position input, position < 2 ^ 32 ∧
      spv.transaction.input.findIdx? (fun input => input.previousOutput.txid = wdTxid) =
        some position ∧
      spv.transaction.input[position]? = some input ∧ input.previousOutput.vout = vout := by
  obtain ⟨utxoProof, voutProof, depositProof, values, -⟩ :=
    (verifyStorageProofs_ok_iff library.toCircuitLibrary).mp proved
  obtain ⟨rfl, -, -⟩ : wdTxid = utxoProof.value.toBeBytes ∧ vout = _ ∧ moveTxid = _ := by
    simpa using values.values
  constructor
  · rintro ⟨params, paramsEq, ⟨input, selected, outpoint⟩, -⟩
    obtain ⟨_, _, _, otherProof, index, -, -, -, otherRead, found, rfl⟩ :=
      newWithWtTx_ok_iff.mp paramsEq
    obtain rfl : utxoProof = otherProof := Option.some.inj (values.utxoRead.symm.trans otherRead)
    exact ⟨index.toNat, input, index.toNat_lt, found, selected, by rw [outpoint]⟩
  · rintro ⟨position, input, small, found, selected, rfl⟩
    have positionEq : (UInt32.ofNat position).toNat = position := by
      rw [UInt32.toNat_ofNat', Nat.mod_eq_of_lt small]
    obtain ⟨inside, sameTxid, -⟩ := List.findIdx?_eq_some_iff_getElem.mp found
    rw [(List.getElem?_eq_some_iff.mp selected).2, decide_eq_true_eq] at sameTxid
    exact ⟨_, newWithWtTx_ok_iff.mpr ⟨_, _, _, utxoProof, UInt32.ofNat position, prepared, read,
        extracted, values.utxoRead, by rw [positionEq, found], rfl⟩,
      ⟨input, by rw [positionEq, selected], by rw [← sameTxid]⟩,
      fun verify workOnlyImageId journal accepted => hostJournalHash_eq accepted⟩

open Recorded in
/-- The host selects the first input of the recorded payout. -/
theorem newWithWtTx_agrees_iff_recorded :
    verifyStorageProofs hostLibrary.toCircuitLibrary (storageProof depositEntry 0) l2StateRoot =
      .ok (withdrawalTxid, 0, moveTxid) ∧
    ∃ params, BridgeCircuitHostParams.newWithWtTx hostLibrary kickoffTx payoutSpv [1] ⟨lcJournal⟩
        (storageProof depositEntry 0) [] 41 = .ok params ∧
      ∃ input, params.spv.transaction.input[params.payoutInputIndex.toNat]? = some input ∧
        input.previousOutput = ⟨withdrawalTxid, 0⟩ := by
  obtain ⟨params, paramsEq, selected, -⟩ := (newWithWtTx_agrees_iff .regtest hostLibrary kickoffTx
    payoutSpv [1] ⟨lcJournal⟩ (storageProof depositEntry 0) [] 41 l2StateRoot withdrawalTxid
    moveTxid 0 storageProof_accepted ⟨⟨⟨withdrawalTxid, 0⟩, [], 0xFFFFFFFD, []⟩, by
      simp [payoutSpv, payoutTx], rfl⟩
    [] rfl hcp rfl [watchtowerKey] getAllPubkeys_eq).mpr
    ⟨0, ⟨⟨withdrawalTxid, 0⟩, [], 0xFFFFFFFD, []⟩, by decide, by decide +kernel, rfl, rfl⟩
  exact ⟨storageProof_accepted, params, paramsEq, selected⟩

open Recorded in
/-- If the payout spends another output of the withdrawal transaction first, the host selects
that input, which the circuit refuses, although the second input would be accepted. -/
theorem newWithWtTx_ignores_vout :
    verifyStorageProofs hostLibrary.toCircuitLibrary (storageProof depositEntry 0) l2StateRoot =
      .ok (withdrawalTxid, 0, moveTxid) ∧
    (∃ input, (payoutTx [1, 0]).input[1]? = some input ∧
      input.previousOutput = ⟨withdrawalTxid, 0⟩) ∧
    ∃ params, BridgeCircuitHostParams.newWithWtTx hostLibrary kickoffTx
        { payoutSpv with transaction := payoutTx [1, 0] } [1] ⟨lcJournal⟩
        (storageProof depositEntry 0) [] 41 = .ok params ∧
      ∃ input, params.spv.transaction.input[params.payoutInputIndex.toNat]? = some input ∧
        input.previousOutput = ⟨withdrawalTxid, 1⟩ := by
  refine ⟨storageProof_accepted, ⟨_, rfl, rfl⟩, _, newWithWtTx_ok_iff.mpr ⟨[], hcp,
    [watchtowerKey], utxoEntry.2, 0, rfl, rfl, getAllPubkeys_eq,
    storageProofFromStr_proofText (by simp [stateEntries]), by decide +kernel, rfl⟩, _, rfl, rfl⟩

end Clementine
