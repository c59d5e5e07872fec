import Clementine.Core.Builder.TxHandler
import Mathlib.Data.List.Sort

/-!
# The transactions of an operator and of a deposit

Builders of the single transactions.  An operator's collateral goes through a chain of round
and ready-to-reimburse transactions; each round has kickoff outputs, and a kickoff of a deposit
has the connectors on which the challenge game is played.  Most transactions of the game have
fixed outputs and take all their inputs from transactions built before: these are instances of
one builder, `connectTxhandler`.
-/

namespace Clementine

/-! ## Parameters and deposits -/

/-- `ProtocolParamset`, as far as it is read. -/
structure ProtocolParamset where
  network : Network
  numRoundTxs : Nat
  numKickoffsPerRound : Nat
  numSignedKickoffs : Nat
  bridgeAmount : UInt64
  kickoffAmount : UInt64
  operatorChallengeAmount : UInt64
  collateralFundingAmount : UInt64
  kickoffBlockhashCommitLength : UInt32
  winternitzLogD : UInt32
  userTakesAfter : UInt16
  operatorChallengeTimeoutTimelock : UInt16
  operatorChallengeNackTimelock : UInt16
  disproveTimeoutTimelock : UInt16
  assertTimeoutTimelock : UInt16
  latestBlockhashTimeoutTimelock : UInt16
  operatorReimburseTimelock : UInt16
  watchtowerChallengeTimeoutTimelock : UInt16
  startHeight : UInt32
  finalityDepth : UInt32
  genesisChainStateHash : Bytes32
  bridgeNonstandard : Bool

namespace ProtocolParamset

/-- `MIN_TAPROOT_AMOUNT`. -/
def minTaprootAmount : UInt64 := 330

/-- `NON_EPHEMERAL_ANCHOR_AMOUNT`. -/
def nonEphemeralAnchorAmount : UInt64 := 240

/-- `ProtocolParamset::default_utxo_amount`. -/
def defaultUtxoAmount (self : ProtocolParamset) : UInt64 :=
  if self.bridgeNonstandard then 0 else minTaprootAmount

/-- `ProtocolParamset::anchor_amount`. -/
def anchorAmount (self : ProtocolParamset) : UInt64 :=
  if self.bridgeNonstandard then 0 else nonEphemeralAnchorAmount

end ProtocolParamset

/-- `SecurityCouncil`. -/
structure SecurityCouncil where
  pks : List XOnlyPublicKey
  threshold : UInt32
  deriving Repr, DecidableEq

/-- `DepositType`; a recovery address is given by its script. -/
inductive DepositType where
  | baseDeposit (evmAddress : EVMAddress) (recoveryTaprootAddress : ScriptBuf)
  | replacementDeposit (oldMoveTxid : Txid)
  deriving Repr, DecidableEq

/-- `DepositInfo`. -/
structure DepositInfo where
  depositOutpoint : OutPoint
  depositType : DepositType
  deriving Repr, DecidableEq

/-- `Actors`. -/
structure Actors where
  verifiers : List PublicKey
  watchtowers : List XOnlyPublicKey
  operators : List XOnlyPublicKey
  deriving Repr, DecidableEq

/-- `DepositData`. -/
structure DepositData where
  nofnXonlyPk : Option XOnlyPublicKey
  deposit : DepositInfo
  actors : Actors
  securityCouncil : SecurityCouncil
  deriving Repr, DecidableEq

/-- `OperatorData`; the reimbursement address is given by its script. -/
structure OperatorData where
  xonlyPk : XOnlyPublicKey
  reimburseAddr : ScriptBuf
  collateralFundingOutpoint : OutPoint
  deriving Repr, DecidableEq

/-- `KickoffData`. -/
structure KickoffData where
  operatorXonlyPk : XOnlyPublicKey
  roundIdx : RoundIndex
  kickoffIdx : UInt32
  deriving Repr, DecidableEq

/-- The order of keys: by their serialization. -/
def KeyLe {size : Nat} (left right : Vector UInt8 size) : Prop := left.toList ≤ right.toList

instance {size : Nat} : DecidableRel (@KeyLe size) :=
  fun left right => inferInstanceAs (Decidable (left.toList ≤ right.toList))

/-- `sort` of keys. -/
def sortKeys {size : Nat} (keys : List (Vector UInt8 size)) : List (Vector UInt8 size) :=
  keys.insertionSort KeyLe

variable (library : BuilderLibrary)

namespace DepositData

/-- `DepositData::get_deposit_outpoint`. -/
def getDepositOutpoint (self : DepositData) : OutPoint := self.deposit.depositOutpoint

/-- `DepositData::get_verifiers`. -/
def getVerifiers (self : DepositData) : List PublicKey := sortKeys self.actors.verifiers

/-- `DepositData::get_nofn_xonly_pk`. -/
def getNofnXonlyPk (self : DepositData) : BuildResult XOnlyPublicKey :=
  match self.nofnXonlyPk with
  | some pk => .ok pk
  | none => okOr (.eyre (.text "Failed to aggregate public keys"))
      (library.fromMusig2Pks self.getVerifiers)

/-- `DepositData::get_num_verifiers`. -/
def getNumVerifiers (self : DepositData) : Nat := self.actors.verifiers.length

/-- `DepositData::get_num_watchtowers`. -/
def getNumWatchtowers (self : DepositData) : Nat :=
  self.getNumVerifiers + self.actors.watchtowers.length

/-- `x_only_public_key`: the bytes after the parity. -/
def xOnlyPublicKey (pk : PublicKey) : XOnlyPublicKey := pk.drop 1

/-- `DepositData::get_watchtowers`. -/
def getWatchtowers (self : DepositData) : List XOnlyPublicKey :=
  sortKeys (self.actors.verifiers.map xOnlyPublicKey ++ self.actors.watchtowers)

/-- `try_get_taproot_pk`. -/
def tryGetTaprootPk (script : ScriptBuf) : Option XOnlyPublicKey :=
  if size : (script.drop 2).length = 32 then
    let key : Bytes32 := ⟨(script.drop 2).toArray, by simpa using size⟩
    if script = p2trScriptPubkey key ∧ library.xOnlyPublicKeyFromSlice key then some key else none
  else
    none

/-- `Multisig::from_security_council`. -/
def securityCouncilScript (securityCouncil : SecurityCouncil) : SpendableScript :=
  .multisig securityCouncil.pks securityCouncil.threshold

/-- `DepositData::get_deposit_scripts`. -/
def getDepositScripts (self : DepositData) (paramset : ProtocolParamset) :
    BuildResult (List SpendableScript) := do
  let nofnXonlyPk ← self.getNofnXonlyPk library
  match self.deposit.depositType with
  | .baseDeposit evmAddress recoveryTaprootAddress =>
    let recoveryExtractedXonlyPk ←
      okOr (.eyre (.text "Recovery taproot address is not a valid taproot address"))
        (tryGetTaprootPk library recoveryTaprootAddress)
    return [.baseDepositScript nofnXonlyPk evmAddress,
      .timelockScript (some recoveryExtractedXonlyPk) paramset.userTakesAfter]
  | .replacementDeposit oldMoveTxid =>
    return [.replacementDepositScript nofnXonlyPk oldMoveTxid,
      securityCouncilScript self.securityCouncil]

end DepositData

/-! ## Amounts -/

/-- `Amount::checked_add`. -/
def amountCheckedAdd (left right : UInt64) : Option UInt64 :=
  if left.toNat + right.toNat < 2 ^ 64 then some (left + right) else none

/-- `Amount::checked_sub`. -/
def amountCheckedSub (left right : UInt64) : Option UInt64 :=
  if right ≤ left then some (left - right) else none

/-- `Amount::checked_mul`. -/
def amountCheckedMul (left right : UInt64) : Option UInt64 :=
  if left.toNat * right.toNat < 2 ^ 64 then some (left * right) else none

theorem amountCheckedAdd_eq_some {left right sum : UInt64} :
    amountCheckedAdd left right = some sum ↔ left.toNat + right.toNat = sum.toNat := by
  have bound := sum.toNat_lt
  unfold amountCheckedAdd
  split_ifs with fits
  · rw [Option.some.injEq, ← UInt64.toNat_inj, UInt64.toNat_add, Nat.mod_eq_of_lt fits]
  · simp only [false_iff]
    omega

theorem amountCheckedSub_eq_some {left right difference : UInt64} :
    amountCheckedSub left right = some difference ↔
      difference.toNat + right.toNat = left.toNat := by
  unfold amountCheckedSub
  split_ifs with fits
  · rw [Option.some.injEq, ← UInt64.toNat_inj, UInt64.toNat_sub_of_le left right fits]
    have := UInt64.le_iff_toNat_le.mp fits
    omega
  · rw [UInt64.le_iff_toNat_le] at fits
    simp only [false_iff]
    omega

theorem amountCheckedMul_eq_some {left right product : UInt64} :
    amountCheckedMul left right = some product ↔
      left.toNat * right.toNat = product.toNat := by
  have bound := product.toNat_lt
  unfold amountCheckedMul
  split_ifs with fits
  · rw [Option.some.injEq, ← UInt64.toNat_inj, UInt64.toNat_mul, Nat.mod_eq_of_lt fits]
  · simp only [false_iff]
    omega

/-- Addition of amounts. -/
def amountAdd (left right : UInt64) : Except Panic UInt64 :=
  expectSome "Amount addition error" (amountCheckedAdd left right)

/-- Subtraction of amounts. -/
def amountSub (left right : UInt64) : Except Panic UInt64 :=
  expectSome "Amount subtraction error" (amountCheckedSub left right)

/-- Multiplication of an amount. -/
def amountMul (left right : UInt64) : Except Panic UInt64 :=
  expectSome "Amount multiplication error" (amountCheckedMul left right)

/-! ## Deposits -/

/-- `NON_STANDARD_V3`. -/
def nonStandardV3 : Int32 := 3

/-- `DEFAULT_SEQUENCE`, which enables replacement. -/
def defaultSequence : UInt32 := 0xFFFFFFFD

/-- `Sequence::from_height`. -/
def sequenceFromHeight (height : UInt16) : UInt32 := height.toUInt32

/-- The anchor of most transactions. -/
def anchorTxout (paramset : ProtocolParamset) : UnspentTxOut :=
  .fromPartial (TxOut.anchorOutput paramset.anchorAmount)

/-- `create_move_to_vault_txhandler`. -/
def createMoveToVaultTxhandler (depositData : DepositData) (paramset : ProtocolParamset) :
    BuildResult TxHandler := do
  let nofnXonlyPk ← depositData.getNofnXonlyPk library
  let depositScripts ← depositData.getDepositScripts library paramset
  let spendable ← liftPanic (SpendableTxIn.fromScripts library depositData.getDepositOutpoint
    paramset.bridgeAmount depositScripts none)
  let vault ← liftPanic (UnspentTxOut.fromScripts library paramset.bridgeAmount
    [.checkSig nofnXonlyPk, DepositData.securityCouncilScript depositData.securityCouncil] none)
  let txin : SpentTxIn := {
    spendable
    sequence := defaultSequence
    witness := none
    spendPath := .scriptSpend 0
    inputId := .normalSignature .notStored }
  return .finalize .moveToVault nonStandardV3 [txin] [vault, .fromPartial (TxOut.anchorOutput 0)]

/-! ## Rounds -/

/-- `KickoffWinternitzKeys`. -/
structure KickoffWinternitzKeys where
  keys : List WinternitzPublicKey
  numKickoffsPerRound : Nat
  numRounds : Nat

/-- The value of a `usize` computation, if it does not overflow. -/
def checkedUsize (value : Nat) : Option Nat := if value < 2 ^ 64 then some value else none

/-- Rust slicing of a vector. -/
def vecSlice {α : Type} (values : List α) (start finish : Nat) : Except Panic (List α) :=
  if start ≤ finish ∧ finish ≤ values.length then
    .ok ((values.drop start).take (finish - start))
  else
    .error .indexOutOfBounds

namespace KickoffWinternitzKeys

/-- `KickoffWinternitzKeys::new`. -/
def new (keys : List WinternitzPublicKey) (numKickoffsPerRound numRounds : Nat) :
    BuildResult KickoffWinternitzKeys := do
  errorIf (keys.length ≠ numKickoffsPerRound * (numRounds + 1))
    (.transaction .kickoffWinternitzKeysDBInconsistency)
  return { keys, numKickoffsPerRound, numRounds }

/-- `KickoffWinternitzKeys::get_keys_for_round`. -/
def getKeysForRound (self : KickoffWinternitzKeys) (roundIdx : RoundIndex) :
    BuildResult (List WinternitzPublicKey) := do
  errorIf (roundIdx = .collateral ∨ self.numRounds + 1 < roundIdx.toIndex)
    (.transaction (.invalidRoundIndex roundIdx))
  let round ← okOr (.transaction .indexOverflow) (checkedSub roundIdx.toIndex 1)
  let startIdx ← okOr (.transaction .indexOverflow)
    (checkedUsize (round * self.numKickoffsPerRound))
  let endIdx ← okOr (.transaction .indexOverflow)
    (checkedUsize (startIdx + self.numKickoffsPerRound))
  liftPanic (vecSlice self.keys startIdx endIdx)

end KickoffWinternitzKeys

/-- `RoundTxInput`. -/
inductive RoundTxInput where
  | prevout (prevout : SpendableTxIn)
  | collateral (outpoint : OutPoint) (amount : UInt64)

/-- The input of a round transaction. -/
def RoundTxInput.toSpentTxIn (operatorXonlyPk : XOnlyPublicKey) (paramset : ProtocolParamset) :
    RoundTxInput → BuildResult SpentTxIn
  | .prevout spendable => .ok {
      spendable
      sequence := sequenceFromHeight paramset.operatorReimburseTimelock
      witness := none
      spendPath := .keySpend
      inputId := .normalSignature .operatorSighashDefault }
  | .collateral outpoint amount => do
      let spendable ← liftPanic
        (SpendableTxIn.fromScripts library outpoint amount [] (some operatorXonlyPk))
      return {
        spendable
        sequence := defaultSequence
        witness := none
        spendPath := .keySpend
        inputId := .normalSignature .operatorSighashDefault }

/-- The output from which a kickoff is sent. -/
def kickoffOutput (operatorXonlyPk : XOnlyPublicKey) (paramset : ProtocolParamset)
    (pubkey : WinternitzPublicKey) : BuildResult UnspentTxOut :=
  liftPanic (UnspentTxOut.fromScripts library paramset.kickoffAmount
    [.winternitzCommit [(pubkey, paramset.kickoffBlockhashCommitLength)] operatorXonlyPk
        paramset.winternitzLogD,
      .timelockScript (some operatorXonlyPk) 1] none)

/-- An output that only the operator's key spends. -/
def operatorOutput (operatorXonlyPk : XOnlyPublicKey) (value : UInt64) :
    BuildResult UnspentTxOut :=
  liftPanic (UnspentTxOut.fromScripts library value [] (some operatorXonlyPk))

/-- `create_round_txhandler`. -/
def createRoundTxhandler (operatorXonlyPk : XOnlyPublicKey) (txin : RoundTxInput)
    (pubkeys : List WinternitzPublicKey) (paramset : ProtocolParamset) :
    BuildResult TxHandler := do
  let spent ← txin.toSpentTxIn library operatorXonlyPk paramset
  let perKickoff ← liftPanic (amountAdd paramset.kickoffAmount paramset.defaultUtxoAmount)
  let totalRequired ← okOr (.arithmeticOverflow "Total required amount calculation overflow")
    ((amountCheckedMul perKickoff (UInt64.ofNat paramset.numKickoffsPerRound)).bind
      fun kickoffTotal => amountCheckedAdd kickoffTotal paramset.anchorAmount)
  let remainingAmount ← okOr (.insufficientFunds "Input amount insufficient for required outputs")
    (amountCheckedSub spent.spendable.prevout.value totalRequired)
  let collateral ← operatorOutput library operatorXonlyPk remainingAmount
  let kickoffs ← (pubkeys.take paramset.numKickoffsPerRound).mapM
    (kickoffOutput library operatorXonlyPk paramset)
  let reimburses ← (List.replicate paramset.numKickoffsPerRound paramset.defaultUtxoAmount).mapM
    (operatorOutput library operatorXonlyPk)
  return .finalize .round nonStandardV3 [spent]
    (collateral :: kickoffs ++ reimburses ++ [anchorTxout paramset])

/-- `create_ready_to_reimburse_txhandler`. -/
def createReadyToReimburseTxhandler (roundTxhandler : TxHandler)
    (operatorXonlyPk : XOnlyPublicKey) (paramset : ProtocolParamset) : BuildResult TxHandler := do
  let txin ← HandlerInput.toSpentTxIn library
    ⟨.normalSignature .operatorSighashDefault, roundTxhandler, .collateralInRound, .keySpend,
      defaultSequence⟩
  let value ← okOr (.arithmeticOverflow "Insufficient funds while creating ready to reimburse tx")
    (amountCheckedSub txin.spendable.prevout.value paramset.anchorAmount)
  let collateral ← operatorOutput library operatorXonlyPk value
  return .finalize .readyToReimburse nonStandardV3 [txin] [collateral, anchorTxout paramset]

/-- The round transaction after a ready-to-reimburse transaction. -/
def roundAfter (operatorXonlyPk : XOnlyPublicKey) (readyToReimburseTxhandler : TxHandler)
    (roundIdx : RoundIndex) (pubkeys : KickoffWinternitzKeys) (paramset : ProtocolParamset) :
    BuildResult TxHandler := do
  let prevout ← readyToReimburseTxhandler.getSpendableOutput library .collateralInReadyToReimburse
  let keys ← pubkeys.getKeysForRound roundIdx
  createRoundTxhandler library operatorXonlyPk (.prevout prevout) keys paramset

/-- A round transaction with its ready-to-reimburse transaction. -/
def withReadyToReimburse (operatorXonlyPk : XOnlyPublicKey) (paramset : ProtocolParamset)
    (roundTxhandler : TxHandler) : BuildResult (TxHandler × TxHandler) := do
  let readyToReimburseTxhandler ←
    createReadyToReimburseTxhandler library roundTxhandler operatorXonlyPk paramset
  return (roundTxhandler, readyToReimburseTxhandler)

/-- The loop body of `create_round_nth_txhandler`: both transactions of the next round. -/
def nextRoundTxhandlers (operatorXonlyPk : XOnlyPublicKey) (pubkeys : KickoffWinternitzKeys)
    (paramset : ProtocolParamset) (readyToReimburseTxhandler : TxHandler)
    (roundIdx : RoundIndex) : BuildResult (TxHandler × TxHandler) := do
  let roundTxhandler ←
    roundAfter library operatorXonlyPk readyToReimburseTxhandler roundIdx pubkeys paramset
  withReadyToReimburse library operatorXonlyPk paramset roundTxhandler

/-- The two transactions of the first round. -/
def firstRoundTxhandlers (operatorXonlyPk : XOnlyPublicKey) (inputOutpoint : OutPoint)
    (inputAmount : UInt64) (pubkeys : KickoffWinternitzKeys) (paramset : ProtocolParamset) :
    BuildResult (TxHandler × TxHandler) := do
  let keys ← pubkeys.getKeysForRound (.round 0)
  let roundTxhandler ← createRoundTxhandler library operatorXonlyPk
    (.collateral inputOutpoint inputAmount) keys paramset
  withReadyToReimburse library operatorXonlyPk paramset roundTxhandler

/-- `create_round_nth_txhandler`. -/
def createRoundNthTxhandler (operatorXonlyPk : XOnlyPublicKey) (inputOutpoint : OutPoint)
    (inputAmount : UInt64) (index : RoundIndex) (pubkeys : KickoffWinternitzKeys)
    (paramset : ProtocolParamset) : BuildResult (TxHandler × TxHandler) := do
  errorIf (index = .collateral ∨ (RoundIndex.round paramset.numRoundTxs).toIndex < index.toIndex)
    (.transaction (.invalidRoundIndex index))
  let first ← firstRoundTxhandlers library operatorXonlyPk inputOutpoint inputAmount pubkeys
    paramset
  -- a valid index is the number of the round plus one
  (RoundIndex.iterRoundsRange 1 index.toIndex).foldlM
    (fun previous => nextRoundTxhandlers library operatorXonlyPk pubkeys paramset previous.2) first

/-- One transaction of `create_unspent_kickoff_txhandlers`. -/
def createUnspentKickoffTxhandler (roundTxhandler readyToReimburseTxhandler : TxHandler)
    (paramset : ProtocolParamset) (idx : Nat) : BuildResult TxHandler :=
  connectTxhandler library (.unspentKickoff idx) nonStandardV3
    [⟨.numbered .unspentKickoff1 idx, readyToReimburseTxhandler, .collateralInReadyToReimburse,
        .keySpend, defaultSequence⟩,
      ⟨.numbered .unspentKickoff2 idx, roundTxhandler, .kickoff idx, .scriptSpend 1,
        sequenceFromHeight 1⟩]
    [anchorTxout paramset]

/-- `create_unspent_kickoff_txhandlers`. -/
def createUnspentKickoffTxhandlers (roundTxhandler readyToReimburseTxhandler : TxHandler)
    (paramset : ProtocolParamset) : BuildResult (List TxHandler) :=
  (List.range paramset.numKickoffsPerRound).mapM
    (createUnspentKickoffTxhandler library roundTxhandler readyToReimburseTxhandler paramset)

/-- One turn of the loop of `create_burn_unused_kickoff_connectors_txhandler`. -/
def addBurnInput (roundTxhandler : TxHandler) (inputs : UInt64 × List SpentTxIn) (idx : Nat) :
    BuildResult (UInt64 × List SpentTxIn) := do
  let txin ← HandlerInput.toSpentTxIn library
    ⟨.normalSignature .operatorSighashDefault, roundTxhandler, .kickoff idx, .scriptSpend 1,
      sequenceFromHeight 1⟩
  let inputAmount ← okOr
    (.arithmeticOverflow "Amount overflow in burn unused kickoff connectors tx")
    (amountCheckedAdd inputs.1 txin.spendable.prevout.value)
  return (inputAmount, inputs.2 ++ [txin])

/-- The change of a burn transaction, when the connectors hold enough. -/
def burnChange (inputAmount : UInt64) (changeAddress : ScriptBuf) (paramset : ProtocolParamset) :
    BuildResult (List UnspentTxOut) :=
  if paramset.bridgeNonstandard = false ∧
      paramset.anchorAmount + ProtocolParamset.minTaprootAmount ≤ inputAmount then do
    let value ← liftPanic (amountSub inputAmount paramset.anchorAmount)
    return [.fromPartial { value, scriptPubkey := changeAddress }]
  else
    return []

/-- `create_burn_unused_kickoff_connectors_txhandler`. -/
def createBurnUnusedKickoffConnectorsTxhandler (roundTxhandler : TxHandler)
    (unusedKickoffConnectorsIndices : List Nat) (changeAddress : ScriptBuf)
    (paramset : ProtocolParamset) : BuildResult TxHandler := do
  errorIf (unusedKickoffConnectorsIndices = []) (.eyre (.text
    "create_burn_unused_kickoff_connectors_txhandler called with no unused kickoff connectors"))
  let inputs ← unusedKickoffConnectorsIndices.foldlM (addBurnInput library roundTxhandler) (0, [])
  let change ← burnChange inputs.1 changeAddress paramset
  return .finalize .burnUnusedKickoffConnectors nonStandardV3 inputs.2
    (change ++ [anchorTxout paramset])

/-! ## The kickoff -/

/-- `AssertScripts`. -/
inductive AssertScripts where
  | assertScriptTapNodeHash (hashes : List Bytes32)
  | assertSpendableScript (scripts : List SpendableScript)

namespace AssertScripts

/-- The number of scripts or hashes. -/
def length : AssertScripts → Nat
  | .assertScriptTapNodeHash hashes => hashes.length
  | .assertSpendableScript scripts => scripts.length

/-- The outputs that a script or a timeout spends. -/
def outputs (timeoutScript : SpendableScript) (amount : UInt64) :
    AssertScripts → BuildResult (List UnspentTxOut)
  | .assertScriptTapNodeHash hashes => hashes.mapM fun scriptHash =>
    liftPanic (createTaprootOutputWithHiddenNode library timeoutScript scriptHash amount)
  | .assertSpendableScript scripts => scripts.mapM fun script =>
    liftPanic (UnspentTxOut.fromScripts library amount [timeoutScript, script] none)

end AssertScripts

/-- The two outputs of the kickoff for a watchtower. -/
def watchtowerOutputs (nofnXonlyPk operatorXonlyPk : XOnlyPublicKey)
    (operatorUnlockHashes : List PublicHash) (paramset : ProtocolParamset)
    (watchtower : XOnlyPublicKey × Nat) : BuildResult (List UnspentTxOut) := do
  let nofn2week : SpendableScript :=
    .timelockScript (some nofnXonlyPk) paramset.watchtowerChallengeTimeoutTimelock
  let doubled ← liftPanic (amountMul paramset.defaultUtxoAmount 2)
  let challengeAmount ← liftPanic (amountAdd doubled paramset.anchorAmount)
  let challenge ← liftPanic (UnspentTxOut.fromScripts library challengeAmount [nofn2week]
    (some watchtower.1))
  let nofn3week : SpendableScript :=
    .timelockScript (some nofnXonlyPk) paramset.operatorChallengeNackTimelock
  let unlockHash ← liftPanic (vecIndex operatorUnlockHashes watchtower.2)
  let ack ← liftPanic (UnspentTxOut.fromScripts library paramset.defaultUtxoAmount
    [nofn3week, nofn2week, .preimageRevealScript operatorXonlyPk unlockHash] none)
  return [challenge, ack]

/-- `create_kickoff_txhandler`. -/
def createKickoffTxhandler (kickoffData : KickoffData) (roundTxhandler moveTxhandler : TxHandler)
    (depositData : DepositData) (operatorXonlyPk : XOnlyPublicKey) (assertScripts : AssertScripts)
    (disprovePath : DisprovePath) (additionalDisproveScript : List UInt8)
    (latestBlockhashScript : AssertScripts) (operatorUnlockHashes : List PublicHash)
    (paramset : ProtocolParamset) : BuildResult TxHandler := do
  let txin ← HandlerInput.toSpentTxIn library
    ⟨.normalSignature .operatorSighashDefault, roundTxhandler,
      .kickoff kickoffData.kickoffIdx.toNat, .scriptSpend 0, defaultSequence⟩
  let nofnXonlyPk ← depositData.getNofnXonlyPk library
  let amount := paramset.defaultUtxoAmount
  let challenge ← liftPanic (UnspentTxOut.fromScripts library amount [.checkSig operatorXonlyPk,
      .timelockScript (some operatorXonlyPk) paramset.operatorChallengeTimeoutTimelock] none)
  -- the finalizer and the output that the reimbursement spends
  let nofnOutput ← liftPanic (UnspentTxOut.fromScripts library amount [.checkSig nofnXonlyPk] none)
  let disprove ← liftPanic (createDisproveTaprootOutput library
    (.timelockScript (some operatorXonlyPk) paramset.disproveTimeoutTimelock)
    additionalDisproveScript disprovePath amount)
  errorIf (latestBlockhashScript.length ≠ 1) (.transaction .latestBlockhashScriptNumber)
  let latestBlockhash ← latestBlockhashScript.outputs library
    (.timelockScript (some nofnXonlyPk) paramset.latestBlockhashTimeoutTimelock) amount
  let asserts ← assertScripts.outputs library
    (.timelockScript (some nofnXonlyPk) paramset.assertTimeoutTimelock) amount
  let watchtowers ← depositData.getWatchtowers.zipIdx.mapM
    (watchtowerOutputs library nofnXonlyPk operatorXonlyPk operatorUnlockHashes paramset)
  let opReturn := TxOut.opReturnTxout
    ((moveTxhandler.getTxid library).toList ++ kickoffData.operatorXonlyPk.toList)
  return .finalize .kickoff nonStandardV3 [txin]
    ([challenge, nofnOutput, nofnOutput, disprove] ++ latestBlockhash ++ asserts ++
      watchtowers.flatten ++ [.fromPartial opReturn, anchorTxout paramset])

/-! ## Challenges, assertions and their timeouts -/

section Connected

variable (kickoffTxhandler roundTxhandler readyToReimburseTxhandler : TxHandler)
  (watchtowerIdx : Nat) (paramset : ProtocolParamset)

/-- `create_watchtower_challenge_timeout_txhandler`. -/
def createWatchtowerChallengeTimeoutTxhandler : BuildResult TxHandler :=
  connectTxhandler library (.watchtowerChallengeTimeout watchtowerIdx) nonStandardV3
    [⟨.numbered .watchtowerChallengeTimeout1 watchtowerIdx, kickoffTxhandler,
        .watchtowerChallenge watchtowerIdx, .scriptSpend 0,
        sequenceFromHeight paramset.watchtowerChallengeTimeoutTimelock⟩,
      ⟨.numbered .watchtowerChallengeTimeout2 watchtowerIdx, kickoffTxhandler,
        .watchtowerChallengeAck watchtowerIdx, .scriptSpend 1,
        sequenceFromHeight paramset.watchtowerChallengeTimeoutTimelock⟩]
    [anchorTxout paramset]

/-- `create_operator_challenge_nack_txhandler`. -/
def createOperatorChallengeNackTxhandler : BuildResult TxHandler :=
  connectTxhandler library (.operatorChallengeNack watchtowerIdx) nonStandardV3
    [⟨.numbered .operatorChallengeNack1 watchtowerIdx, kickoffTxhandler,
        .watchtowerChallengeAck watchtowerIdx, .scriptSpend 0,
        sequenceFromHeight paramset.operatorChallengeNackTimelock⟩,
      ⟨.numbered .operatorChallengeNack2 watchtowerIdx, kickoffTxhandler, .kickoffFinalizer,
        .scriptSpend 0, defaultSequence⟩,
      ⟨.numbered .operatorChallengeNack3 watchtowerIdx, roundTxhandler, .collateralInRound,
        .keySpend, defaultSequence⟩]
    [anchorTxout paramset]

/-- `create_operator_challenge_ack_txhandler`. -/
def createOperatorChallengeAckTxhandler : BuildResult TxHandler :=
  connectTxhandler library (.operatorChallengeAck watchtowerIdx) nonStandardV3
    [⟨.normalSignature .operatorChallengeAck1, kickoffTxhandler,
        .watchtowerChallengeAck watchtowerIdx, .scriptSpend 2, defaultSequence⟩]
    [anchorTxout paramset, .fromPartial (TxOut.opReturnTxout "PADDING".toUTF8.toList)]

/-- `create_disprove_txhandler`; the anchor is not ephemeral since the version is two. -/
def createDisproveTxhandler : BuildResult TxHandler :=
  connectTxhandler library .disprove 2
    [⟨.normalSignature .noSignature, kickoffTxhandler, .disprove, .unknown, defaultSequence⟩,
      ⟨.normalSignature .disprove2, roundTxhandler, .collateralInRound, .keySpend, defaultSequence⟩]
    [.fromPartial (TxOut.anchorOutput ProtocolParamset.nonEphemeralAnchorAmount)]

/-- `create_challenge_txhandler`. -/
def createChallengeTxhandler (operatorReimbursementAddress : ScriptBuf)
    (challengerEvmAddress : Option EVMAddress) : BuildResult TxHandler :=
  connectTxhandler library .challenge nonStandardV3
    [⟨.normalSignature .challenge, kickoffTxhandler, .challenge, .scriptSpend 0, defaultSequence⟩]
    (.fromPartial ⟨paramset.operatorChallengeAmount, operatorReimbursementAddress⟩ ::
      challengerEvmAddress.toList.map fun evmAddress =>
        .fromPartial (TxOut.opReturnTxout evmAddress.toList))

/-- `create_challenge_timeout_txhandler`. -/
def createChallengeTimeoutTxhandler : BuildResult TxHandler :=
  connectTxhandler library .challengeTimeout nonStandardV3
    [⟨.normalSignature .operatorSighashDefault, kickoffTxhandler, .challenge, .scriptSpend 1,
        sequenceFromHeight paramset.operatorChallengeTimeoutTimelock⟩,
      ⟨.normalSignature .challengeTimeout2, kickoffTxhandler, .kickoffFinalizer, .scriptSpend 0,
        defaultSequence⟩]
    [anchorTxout paramset]

/-- `create_kickoff_not_finalized_txhandler`. -/
def createKickoffNotFinalizedTxhandler : BuildResult TxHandler :=
  connectTxhandler library .kickoffNotFinalized nonStandardV3
    [⟨.normalSignature .kickoffNotFinalized1, kickoffTxhandler, .kickoffFinalizer,
        .scriptSpend 0, defaultSequence⟩,
      ⟨.normalSignature .kickoffNotFinalized2, readyToReimburseTxhandler,
        .collateralInReadyToReimburse, .keySpend, defaultSequence⟩]
    [anchorTxout paramset]

/-- `create_disprove_timeout_txhandler`. -/
def createDisproveTimeoutTxhandler : BuildResult TxHandler :=
  connectTxhandler library .disproveTimeout nonStandardV3
    [⟨.normalSignature .operatorSighashDefault, kickoffTxhandler, .disprove, .scriptSpend 0,
        sequenceFromHeight paramset.disproveTimeoutTimelock⟩,
      ⟨.normalSignature .disproveTimeout2, kickoffTxhandler, .kickoffFinalizer, .scriptSpend 0,
        defaultSequence⟩]
    [anchorTxout paramset]

/-- `create_latest_blockhash_timeout_txhandler`. -/
def createLatestBlockhashTimeoutTxhandler : BuildResult TxHandler :=
  connectTxhandler library .latestBlockhashTimeout nonStandardV3
    [⟨.normalSignature .latestBlockhashTimeout1, kickoffTxhandler, .latestBlockhash,
        .scriptSpend 0, sequenceFromHeight paramset.latestBlockhashTimeoutTimelock⟩,
      ⟨.normalSignature .latestBlockhashTimeout2, kickoffTxhandler, .kickoffFinalizer,
        .scriptSpend 0, defaultSequence⟩,
      ⟨.normalSignature .latestBlockhashTimeout3, roundTxhandler, .collateralInRound, .keySpend,
        defaultSequence⟩]
    [anchorTxout paramset]

/-- `create_latest_blockhash_txhandler`. -/
def createLatestBlockhashTxhandler : BuildResult TxHandler :=
  connectTxhandler library .latestBlockhash nonStandardV3
    [⟨.normalSignature .latestBlockhash, kickoffTxhandler, .latestBlockhash, .scriptSpend 1,
        defaultSequence⟩]
    [anchorTxout paramset, .fromPartial (TxOut.opReturnTxout [])]

/-- One transaction of `create_mini_asserts`. -/
def createMiniAssert (idx : Nat) : BuildResult TxHandler :=
  connectTxhandler library (.miniAssert idx) nonStandardV3
    [⟨.normalSignature .miniAssert1, kickoffTxhandler, .assert idx, .scriptSpend 1,
        defaultSequence⟩]
    [anchorTxout paramset, .fromPartial (TxOut.opReturnTxout [])]

/-- `create_mini_asserts`. -/
def createMiniAsserts (numAsserts : Nat) : BuildResult (List TxHandler) :=
  (List.range numAsserts).mapM (createMiniAssert library kickoffTxhandler paramset)

/-- One transaction of `create_assert_timeout_txhandlers`. -/
def createAssertTimeoutTxhandler (idx : Nat) : BuildResult TxHandler :=
  connectTxhandler library (.assertTimeout idx) nonStandardV3
    [⟨.numbered .assertTimeout1 idx, kickoffTxhandler, .assert idx, .scriptSpend 0,
        sequenceFromHeight paramset.assertTimeoutTimelock⟩,
      ⟨.numbered .assertTimeout2 idx, kickoffTxhandler, .kickoffFinalizer, .scriptSpend 0,
        defaultSequence⟩,
      ⟨.numbered .assertTimeout3 idx, roundTxhandler, .collateralInRound, .keySpend,
        defaultSequence⟩]
    [anchorTxout paramset]

/-- `create_assert_timeout_txhandlers`. -/
def createAssertTimeoutTxhandlers (numAsserts : Nat) : BuildResult (List TxHandler) :=
  (List.range numAsserts).mapM
    (createAssertTimeoutTxhandler library kickoffTxhandler roundTxhandler paramset)

end Connected

/-- `create_reimburse_txhandler`; the round is the one after the kickoff's. -/
def createReimburseTxhandler (moveTxhandler roundTxhandler kickoffTxhandler : TxHandler)
    (kickoffIdx : Nat) (paramset : ProtocolParamset) (operatorReimbursementAddress : ScriptBuf) :
    BuildResult TxHandler := do
  let deposit ← moveTxhandler.getSpendableOutput library .depositInMove
  connectTxhandler library .reimburse nonStandardV3
    [⟨.normalSignature .reimburse1, moveTxhandler, .depositInMove, .scriptSpend 0, defaultSequence⟩,
      ⟨.normalSignature .reimburse2, kickoffTxhandler, .reimburseInKickoff, .scriptSpend 0,
        defaultSequence⟩,
      ⟨.normalSignature .operatorSighashDefault, roundTxhandler,
        .reimburseInRound kickoffIdx paramset.numKickoffsPerRound, .keySpend, defaultSequence⟩]
    [.fromPartial ⟨deposit.prevout.value, operatorReimbursementAddress⟩, anchorTxout paramset]

end Clementine
