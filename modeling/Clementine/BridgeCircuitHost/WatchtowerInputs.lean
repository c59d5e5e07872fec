import Clementine.BridgeCircuit.Watchtowers

/-!
# Watchtower inputs prepared by the host

`WatchtowerInput::from_txs` turns a watchtower's transaction into an input of the bridge
circuit, and `get_all_pubkeys` reads the registered keys from the kickoff transaction.

The host looks for the challenge by the transaction id alone: it takes the first input that
spends any output of the kickoff transaction and halves the distance of that output from the
first connector.  The circuit then compares output and key exactly, so what the host prepares
is accepted only if that first input is the one that spends the watchtower's connector.
-/

namespace Clementine

open UInt32 Option

/-! ## Preparation of inputs -/

/-- The functions of other crates that the host calls. -/
structure HostLibrary extends CircuitLibrary where
  /-- `consensus_encode` of an annex. -/
  annexEncode : List UInt8 → List UInt8
  /-- Whether `XOnlyPublicKey::from_slice` succeeds. -/
  xOnlyPublicKeyFromSlice : Bytes32 → Bool
  /-- `borsh::from_slice` for the output of the header chain circuit. -/
  headerChainOutputFromSlice : List UInt8 → Option BlockHeaderCircuitOutput
  /-- The text of the error of `serde_json::from_str`. -/
  storageProofErrorText : String → String

variable (library : HostLibrary)

/-- `TAPROOT_ANNEX_PREFIX`. -/
def taprootAnnexPrefix : UInt8 := 0x50

/-- The annex of a witness: the last of at least two elements, if it starts with the annex
byte. -/
def watchtowerChallengeAnnex (witness : List (List UInt8)) : Option (List UInt8) :=
  if witness.length ≤ 1 then
    none
  else
    witness.getLast?.filter fun lastWitnessElement =>
      lastWitnessElement.head? = some taprootAnnexPrefix

/-- The output that an input spends, looked up in the given transactions. -/
def spentOutput (prevoutTxs : List CircuitTransaction) (input : TxIn) :
    Except (Failure String) TxOut := do
  let tx ← okOr "Previous transaction not found"
    (prevoutTxs.find? fun tx => library.computeTxid tx = input.previousOutput.txid)
  okOr "Output index out of bounds" tx.output[input.previousOutput.vout.toNat]?

/-- A challenge as it is handed to the circuit: the signature is kept and all witnesses are
cleared. -/
def WatchtowerInput.prepared (watchtowerTx : CircuitTransaction) (watchtowerIdx : UInt32)
    (inputIdx : UInt32) (utxos : List TxOut) (witness : List (List UInt8))
    (signature : List UInt8) : WatchtowerInput where
  watchtowerIdx
  watchtowerChallengeInputIdx := inputIdx
  watchtowerChallengeUtxos := utxos
  watchtowerChallengeTx :=
    { watchtowerTx with input := watchtowerTx.input.map fun input => { input with witness := [] } }
  watchtowerChallengeWitness := [signature]
  annexDigest := (watchtowerChallengeAnnex witness).map fun annex =>
    library.sha256 (library.annexEncode annex)

/-- `WatchtowerInput::from_txs`. -/
def WatchtowerInput.fromTxs (kickoffTxId : Bytes32) (watchtowerTx : CircuitTransaction)
    (prevoutTxs : List CircuitTransaction) (watchtowerChallengeConnectorStartIdx : UInt32) :
    Except (Failure String) WatchtowerInput := do
  let position ← okOr "Kickoff txid not found in watchtower inputs"
    (watchtowerTx.input.findIdx? fun input => input.previousOutput.txid = kickoffTxId)
  let watchtowerChallengeInputIdx := UInt32.ofNat position
  let input ← liftPanic (vecIndex watchtowerTx.input watchtowerChallengeInputIdx.toNat)
  let outputIndex := input.previousOutput.vout.toNat
  let offset ← okOr "Output index underflow"
    (checkedSub outputIndex watchtowerChallengeConnectorStartIdx.toNat)
  let watchtowerIndex := offset / 2
  errorIf (maxNumberOfWatchtowers ≤ watchtowerIndex) "Watchtower index out of bounds"
  let watchtowerChallengeUtxos ← watchtowerTx.input.mapM (spentOutput library prevoutTxs)
  let signature ← okOr "Watchtower challenge input witness is empty" input.witness.head?
  return .prepared library watchtowerTx (UInt32.ofNat watchtowerIndex) watchtowerChallengeInputIdx
    watchtowerChallengeUtxos input.witness signature

/-- `BridgeCircuitHostParamsError`, as far as the modelled functions return it. -/
inductive BridgeCircuitHostParamsError where
  | invalidKickoffTx
  | invalidHeaderchainReceipt
  | invalidStorageProof
  | invalidWatchtowerInputs
  | invalidPubkey
  | invalidNumberOfKickoffOutputs
  | payoutInputIndexNotFound
  | payoutInputIndexTooLarge (index : Nat)
  | storageProofDeserializationError (text : String)
  | invalidOperatorPubkey
  deriving DecidableEq

/-- `WatchtowerContext`. -/
structure WatchtowerContext where
  watchtowerTx : CircuitTransaction
  prevoutTxs : List CircuitTransaction

/-- `get_wt_inputs`. -/
def getWtInputs (kickoffTxId : Bytes32) (watchtowerContexts : List WatchtowerContext)
    (watchtowerChallengeConnectorStartIdx : UInt32) :
    Except (Failure BridgeCircuitHostParamsError) (List WatchtowerInput) :=
  watchtowerContexts.mapM fun context =>
    mapErr .invalidWatchtowerInputs (WatchtowerInput.fromTxs library kickoffTxId
      context.watchtowerTx context.prevoutTxs watchtowerChallengeConnectorStartIdx)

/-- `OP_RETURN_OUTPUT` and `ANCHOR_OUTPUT`. -/
def opReturnOutput : Nat := 1

def anchorOutput : Nat := 1

/-- The key of one output in `get_all_pubkeys`. -/
def pubkeyAt (kickoffTx : CircuitTransaction) (i : Nat) :
    Except (Failure BridgeCircuitHostParamsError) Bytes32 := do
  let output ← liftPanic (vecIndex kickoffTx.output i)
  errorIf (library.script.isP2tr output.scriptPubkey = false) .invalidPubkey
  let xonlyPublicKey ← liftPanic (taprootKey output.scriptPubkey)
  errorIf (library.xOnlyPublicKeyFromSlice xonlyPublicKey = false) .invalidPubkey
  return xonlyPublicKey

/-- `get_all_pubkeys`. -/
def getAllPubkeys (kickoffTx : CircuitTransaction) (watchtowerChallengeConnectorStartIdx : UInt32) :
    Except (Failure BridgeCircuitHostParamsError) (List Bytes32) := do
  let startIndex := watchtowerChallengeConnectorStartIdx.toNat
  let beforeOpReturn ← okOr .invalidNumberOfKickoffOutputs
    (checkedSub kickoffTx.output.length opReturnOutput)
  let endIndex ← okOr .invalidNumberOfKickoffOutputs (checkedSub beforeOpReturn anchorOutput)
  -- every second output from the first connector to the data output
  (List.range' startIndex ((endIndex - startIndex + 1) / 2) 2).mapM (pubkeyAt library kickoffTx)

/-! ## What the host returns -/

variable {library}

/-- A prepared input comes from the first input that spends an output of the kickoff. -/
theorem fromTxs_ok {kickoffTxId : Bytes32} {watchtowerTx : CircuitTransaction}
    {prevoutTxs : List CircuitTransaction} {startIdx : UInt32} {produced : WatchtowerInput}
    (succeeded : WatchtowerInput.fromTxs library kickoffTxId watchtowerTx prevoutTxs startIdx =
      .ok produced) (few : watchtowerTx.input.length ≤ 2 ^ 32) :
    ∃ position input,
      (watchtowerTx.input.find? fun input => input.previousOutput.txid = kickoffTxId) = some input ∧
      watchtowerTx.input[position]? = some input ∧
      produced.watchtowerChallengeInputIdx.toNat = position ∧
      produced.watchtowerChallengeTx.input[position]? = some { input with witness := [] } ∧
      startIdx.toNat ≤ input.previousOutput.vout.toNat ∧
      produced.watchtowerIdx.toNat = (input.previousOutput.vout.toNat - startIdx.toNat) / 2 ∧
      watchtowerTx.input.mapM (spentOutput library prevoutTxs) =
        .ok produced.watchtowerChallengeUtxos := by
  simp only [WatchtowerInput.fromTxs, ExceptRun.bind_ok_iff, okOr_eq_ok, liftPanic_eq_ok,
    vecIndex_eq_ok, checkedSub_eq_some, pure, Except.pure, Except.ok.injEq] at succeeded
  obtain ⟨position, found, input, inputEq, offset, distance, ⟨⟩, small, utxos, spent, signature, -,
    rfl⟩ := succeeded
  rw [errorIf_eq_ok, Nat.not_le] at small
  obtain ⟨inside, -, -⟩ := List.findIdx?_eq_some_iff_getElem.mp found
  have positionEq : (ofNat position).toNat = position := by
    rw [toNat_ofNat']
    exact Nat.mod_eq_of_lt (by omega)
  rw [positionEq] at inputEq
  refine ⟨position, input, ?_, inputEq, positionEq, ?_, by omega, ?_, spent⟩
  · rw [List.find?_eq_bind_findIdx?_getElem?, found, bind_some, inputEq]
  · simp only [WatchtowerInput.prepared, List.getElem?_map, inputEq, map_some]
  · have bound : offset / 2 < 2 ^ 32 := by
      unfold maxNumberOfWatchtowers at small
      omega
    simp only [WatchtowerInput.prepared]
    rw [toNat_ofNat', Nat.mod_eq_of_lt bound]
    omega

/-- The registered key of a watchtower is the one in its connector output. -/
theorem getAllPubkeys_getElem? {kickoffTx : CircuitTransaction} {startIdx : UInt32}
    {pubkeys : List Bytes32} (extracted : getAllPubkeys library kickoffTx startIdx = .ok pubkeys)
    {index : Nat} (connector : startIdx.toNat + 2 * index + 2 < kickoffTx.output.length) :
    ∃ output pubkey, kickoffTx.output[startIdx.toNat + 2 * index]? = some output ∧
      library.script.isP2tr output.scriptPubkey = true ∧
      taprootKey output.scriptPubkey = .ok pubkey ∧ pubkeys[index]? = some pubkey := by
  simp only [getAllPubkeys, ExceptRun.bind_ok_iff, okOr_eq_ok, checkedSub_eq_some, opReturnOutput,
    anchorOutput] at extracted
  obtain ⟨beforeOpReturn, beforeEq, endIndex, endEq, mapped⟩ := extracted
  have visited : (List.range' startIdx.toNat ((endIndex - startIdx.toNat + 1) / 2) 2)[index]? =
      some (startIdx.toNat + 2 * index) := List.getElem?_range' (by omega)
  obtain ⟨pubkey, pubkeyEq, read⟩ := ExceptRun.getElem?_mapM_ok mapped visited
  simp only [pubkeyAt, ExceptRun.bind_ok_iff, liftPanic_eq_ok, vecIndex_eq_ok, pure, Except.pure,
    Except.ok.injEq] at read
  obtain ⟨output, outputEq, ⟨⟩, p2tr, xonlyPublicKey, keyEq, ⟨⟩, -, rfl⟩ := read
  rw [errorIf_eq_ok, Bool.not_eq_false] at p2tr
  exact ⟨output, xonlyPublicKey, outputEq, p2tr, keyEq, pubkeyEq⟩

/-! ## Agreement with the circuit -/

/-- A transaction with a valid key-path spend of the challenge connector of watchtower `index`:
no output is spent twice, and one input spends the connector with a signature that is valid
for the spent outputs. -/
structure KeyPathSpend (library : HostLibrary) (kickoffTx : CircuitTransaction) (startIdx : UInt32)
    (watchtowerTx : CircuitTransaction) (prevoutTxs : List CircuitTransaction) (index : Nat) :
    Prop where
  watchtower : index < maxNumberOfWatchtowers
  connector : startIdx.toNat + 2 * index + 2 < kickoffTx.output.length
  distinct : (watchtowerTx.input.map (·.previousOutput)).Nodup
  few : watchtowerTx.input.length ≤ 2 ^ 32
  spent : ∃ position input utxos signature, watchtowerTx.input[position]? = some input ∧
    input.previousOutput.txid = library.computeTxid kickoffTx ∧
    input.previousOutput.vout.toNat = startIdx.toNat + 2 * index ∧
    watchtowerTx.input.mapM (spentOutput library prevoutTxs) = .ok utxos ∧
    input.witness.head? = some signature ∧
    ValidSignature library.toCircuitLibrary (.prepared library watchtowerTx (UInt32.ofNat index)
      (UInt32.ofNat position) utxos input.witness signature)

/-- The output that the circuit recomputes for a watchtower. -/
theorem connectorVout_eq_some {watchtowerIdx startIdx vout : UInt32} :
    connectorVout watchtowerIdx startIdx = some vout ↔
      startIdx.toNat + 2 * watchtowerIdx.toNat = vout.toNat := by
  have bound := vout.toNat_lt
  unfold connectorVout
  split_ifs with fits
  · rw [some.injEq, ← UInt32.toNat_inj, toNat_ofNat', Nat.mod_eq_of_lt fits]
    omega
  · simp only [false_iff]
    omega

/-- What the host prepares from a watchtower's spend passes the checks of the circuit under the
watchtower's index exactly if the first input that spends the kickoff transaction spends the
watchtower's connector. -/
theorem fromTxs_checks_iff (library : HostLibrary) (kickoffTx watchtowerTx : CircuitTransaction)
    (prevoutTxs : List CircuitTransaction) (startIdx : UInt32) (index : Nat)
    (determined : ∀ tx ∈ prevoutTxs, library.computeTxid tx = library.computeTxid kickoffTx →
      tx.output = kickoffTx.output)
    (spend : KeyPathSpend library kickoffTx startIdx watchtowerTx prevoutTxs index)
    (produced : WatchtowerInput)
    (succeeded : WatchtowerInput.fromTxs library (library.computeTxid kickoffTx) watchtowerTx
      prevoutTxs startIdx = .ok produced)
    (circuitInput : BridgeCircuitInput) (kickoffEq : circuitInput.kickoffTx = kickoffTx)
    (startEq : circuitInput.watchtowerChallengeConnectorStartIdx = startIdx)
    (extracted : getAllPubkeys library kickoffTx startIdx =
      .ok circuitInput.allTweakedWatchtowerPubkeys) :
    (StructuralChecks library.toCircuitLibrary circuitInput produced ∧
        produced.watchtowerIdx.toNat = index) ↔
      ∃ input, (watchtowerTx.input.find? fun input =>
          input.previousOutput.txid = library.computeTxid kickoffTx) = some input ∧
        input.previousOutput.vout.toNat = startIdx.toNat + 2 * index := by
  obtain ⟨position, input, first, inputEq, positionEq, clearedEq, above, indexEq, spentEq⟩ :=
    fromTxs_ok succeeded spend.few
  have sameTxid : input.previousOutput.txid = library.computeTxid kickoffTx := by
    simpa using List.find?_some first
  constructor
  · rintro ⟨⟨⟨cleared, found, -, voutEq⟩, -⟩, rfl⟩
    rw [positionEq, clearedEq] at found
    cases found
    rw [connectorVout_eq_some, startEq] at voutEq
    exact ⟨input, first, voutEq.symm⟩
  · rintro ⟨other, otherFirst, voutEq⟩
    obtain rfl : input = other := Option.some.inj (first.symm.trans otherFirst)
    have produced_index : produced.watchtowerIdx.toNat = index := by omega
    refine ⟨⟨⟨_, by rw [positionEq, clearedEq], ?_, ?_⟩, ?_⟩, produced_index⟩
    · rw [kickoffEq]
      exact sameTxid
    · rw [connectorVout_eq_some, startEq, produced_index]
      exact voutEq.symm
    -- the spent output is the connector output, whose key is registered
    · obtain ⟨output, pubkey, outputEq, p2tr, keyEq, registered⟩ :=
        getAllPubkeys_getElem? extracted spend.connector
      obtain ⟨utxo, utxoEq, read⟩ := ExceptRun.getElem?_mapM_ok spentEq inputEq
      simp only [spentOutput, ExceptRun.bind_ok_iff, okOr_eq_ok] at read
      obtain ⟨tx, txFound, utxoRead⟩ := read
      have txEq := determined tx (List.mem_of_find?_eq_some txFound)
        ((by simpa using List.find?_some txFound : library.computeTxid tx = _).trans sameTxid)
      rw [txEq, voutEq, outputEq, Option.some.injEq] at utxoRead
      rw [← utxoRead] at utxoEq
      exact ⟨output, pubkey, by rw [positionEq, utxoEq], p2tr, keyEq,
        by rw [produced_index, registered]⟩

namespace Recorded

/-- The functions that the host calls, on the data of the recorded run. -/
def hostLibrary : HostLibrary where
  toCircuitLibrary := Recorded.library
  annexEncode := ConsensusEncode.script
  xOnlyPublicKeyFromSlice key := key = watchtowerKey
  headerChainOutputFromSlice journal := if journal = [] then none else some hcp
  storageProofErrorText _ := ""

/-- The watchtower's transaction as it is broadcast. -/
def broadcastTx : CircuitTransaction := challengeTx [(41, [connectorSignature.toList])]

/-- A transaction of the watchtower that spends the anchor of the kickoff before its connector.
Everyone may spend the anchor, with any witness. -/
def anchorFirstTx : CircuitTransaction :=
  challengeTx [(44, [[0]]), (41, [anchorFirstSignature.toList])]

/-- The host's view of the second transaction. -/
def anchorFirstInput : WatchtowerInput :=
  .prepared hostLibrary anchorFirstTx 1 0 [Recorded.anchorOutput, connectorOutput] [[0]] [0]

theorem getAllPubkeys_eq :
    getAllPubkeys hostLibrary kickoffTx 41 = .ok input.allTweakedWatchtowerPubkeys := by
  decide +kernel

theorem broadcastTx_spend : KeyPathSpend hostLibrary kickoffTx 41 broadcastTx [kickoffTx] 0 where
  watchtower := by decide
  connector := by decide
  distinct := by decide +kernel
  few := by decide
  spent := ⟨0, ⟨⟨kickoffTxid, 41⟩, [], 0xFFFFFFFD, [connectorSignature.toList]⟩, [connectorOutput],
    connectorSignature.toList, rfl, by decide +kernel, rfl, by decide +kernel, rfl,
    (verifyWatchtowerInput_ok_iff.mp challenge_accepted.1).2⟩

theorem anchorFirstTx_spend :
    KeyPathSpend hostLibrary kickoffTx 41 anchorFirstTx [kickoffTx] 0 where
  watchtower := by decide
  connector := by decide
  distinct := by decide +kernel
  few := by decide
  spent := ⟨1, ⟨⟨kickoffTxid, 41⟩, [], 0xFFFFFFFD, [anchorFirstSignature.toList]⟩,
    [Recorded.anchorOutput, connectorOutput], anchorFirstSignature.toList, rfl,
    by decide +kernel, rfl, by decide +kernel, rfl,
    ⟨connectorOutput, watchtowerKey, (.default, anchorFirstSignature),
      ByteNumeral.beBytes 32 0xf2da1083b0fae9e7f0b6020833bbc04e0dbfcb6ba3c56c840e64ab1392c9601e,
      rfl, by decide +kernel, by decide +kernel, by decide +kernel, by decide +kernel,
      by decide +kernel, by decide +kernel⟩⟩

end Recorded

open Recorded in
/-- The broadcast transaction is prepared as the circuit accepts it. -/
theorem fromTxs_checks_iff_recorded :
    KeyPathSpend hostLibrary kickoffTx 41 broadcastTx [kickoffTx] 0 ∧
    WatchtowerInput.fromTxs hostLibrary (hostLibrary.computeTxid kickoffTx) broadcastTx
      [kickoffTx] 41 = .ok watchtowerInput ∧
    StructuralChecks hostLibrary.toCircuitLibrary input watchtowerInput := by
  have succeeded : WatchtowerInput.fromTxs hostLibrary (hostLibrary.computeTxid kickoffTx)
      broadcastTx [kickoffTx] 41 = .ok watchtowerInput := by
    decide +kernel
  refine ⟨broadcastTx_spend, succeeded, ((fromTxs_checks_iff hostLibrary kickoffTx broadcastTx
    [kickoffTx] 41 0 ?_ broadcastTx_spend watchtowerInput succeeded input rfl rfl
    getAllPubkeys_eq).mpr ?_).1⟩
  · intro tx member _
    rw [List.mem_singleton.mp member]
  · exact ⟨⟨⟨kickoffTxid, 41⟩, [], 0xFFFFFFFD, [connectorSignature.toList]⟩, by decide +kernel, rfl⟩

open Recorded in
/-- The host takes the anchor for the challenge, and the circuit refuses what it prepares. -/
theorem fromTxs_takes_anchor : KeyPathSpend hostLibrary kickoffTx 41 anchorFirstTx [kickoffTx] 0 ∧
    WatchtowerInput.fromTxs hostLibrary (hostLibrary.computeTxid kickoffTx) anchorFirstTx
      [kickoffTx] 41 = .ok anchorFirstInput ∧
    input.kickoffTx = kickoffTx ∧ input.watchtowerChallengeConnectorStartIdx = 41 ∧
    getAllPubkeys hostLibrary kickoffTx 41 = .ok input.allTweakedWatchtowerPubkeys ∧
    anchorFirstInput.watchtowerIdx = 1 ∧
    ¬StructuralChecks hostLibrary.toCircuitLibrary input anchorFirstInput := by
  refine ⟨anchorFirstTx_spend, by decide +kernel, rfl, rfl, getAllPubkeys_eq, rfl, ?_⟩
  rintro ⟨-, ⟨_, _, _, _, _, registered⟩⟩
  cases registered

end Clementine
