import Clementine.BridgeCircuit.Circuit
import Clementine.Core.Builder.Transactions

/-!
# All transactions of a kickoff

`create_txhandlers` builds the transactions of an operator's round and, for a deposit and a
kickoff of that round, all transactions of the challenge game.  What it needs comes from the
database: the operator's data and Winternitz keys, and for each deposit the hashes of the
BitVM scripts.  A cache carries the transactions that the next kickoff or round shares.

Handlers are kept in a map by their type.  The database is read through functions; the reads
that the source keeps in memory give the same values, so only their values are modelled.
-/

namespace Clementine

/-! ## Maps of handlers -/

/-- `BTreeMap<TransactionType, TxHandler>`. -/
abbrev TxHandlers := Std.ExtTreeMap TransactionType TxHandler TransactionType.cmp

namespace TxHandlers

/-- Insertion of a handler under its own type. -/
def insertHandler (txhandlers : TxHandlers) (txhandler : TxHandler) : TxHandlers :=
  txhandlers.insert txhandler.transactionType txhandler

/-- Insertion of handlers one after another. -/
def insertAll (txhandlers : TxHandlers) (new : List TxHandler) : TxHandlers :=
  new.foldl insertHandler txhandlers

/-- `get_txhandler`. -/
def getTxhandler (txhandlers : TxHandlers) (txType : TransactionType) : BuildResult TxHandler :=
  okOr (.transaction (.txHandlerNotFound txType)) txhandlers[txType]?

theorem getElem?_insertHandler (txhandlers : TxHandlers) (txhandler : TxHandler)
    (type : TransactionType) :
    (txhandlers.insertHandler txhandler)[type]? =
      if txhandler.transactionType = type then some txhandler else txhandlers[type]? := by
  simp [insertHandler, Std.ExtTreeMap.getElem?_insert]

variable {txhandlers : TxHandlers} {type : TransactionType}

/-- Insertions leave the other types alone. -/
theorem getElem?_insertAll_of_absent {new : List TxHandler}
    (absent : ∀ txhandler ∈ new, txhandler.transactionType ≠ type) :
    (txhandlers.insertAll new)[type]? = txhandlers[type]? := by
  induction new generalizing txhandlers with
  | nil => rfl
  | cons head rest ih =>
    obtain ⟨headAbsent, restAbsent⟩ := List.forall_mem_cons.mp absent
    rw [insertAll, List.foldl_cons, ← insertAll, ih restAbsent, getElem?_insertHandler,
      if_neg headAbsent]

theorem getTxhandler_eq_ok {txhandler : TxHandler} :
    txhandlers.getTxhandler type = .ok txhandler ↔ txhandlers[type]? = some txhandler := by
  rw [getTxhandler, okOr_eq_ok]

end TxHandlers

/-! ## The database -/

/-- What the builder reads from the database. -/
structure BuilderDatabase where
  /-- `get_operator`. -/
  getOperator : XOnlyPublicKey → Option OperatorData
  /-- `get_operator_kickoff_winternitz_public_keys`. -/
  getOperatorKickoffWinternitzPublicKeys : XOnlyPublicKey → Option (List WinternitzPublicKey)
  /-- `get_bitvm_setup`: hashes of the assertion scripts, root of the disprove scripts and hash
  of the script for the latest block hash. -/
  getBitvmSetup : XOnlyPublicKey → OutPoint → Option (List Bytes32 × Bytes32 × Bytes32)
  /-- `get_operators_challenge_ack_hashes`. -/
  getOperatorsChallengeAckHashes : XOnlyPublicKey → OutPoint → Option (List PublicHash)
  /-- `get_operator_bitvm_keys`. -/
  getOperatorBitvmKeys : XOnlyPublicKey → OutPoint → Option (List WinternitzPublicKey)

namespace ClementineBitVMPublicKeys

/-- `NUM_PUBS`, `NUM_U256` and `NUM_HASH` of the BitVM verifier. -/
def numPubs : Nat := 1
def numU256 : Nat := 14
def numHash : Nat := 363

/-- `vec_to_array`: cut or filled up to the given size. -/
def vecToArray (size : Nat) (vec : WinternitzPublicKey) : WinternitzPublicKey :=
  vec.take size ++ List.replicate (size - vec.length) (Vector.replicate 20 255)

/-- `from_flattened_vec`; missing keys are an index out of bounds. -/
def fromFlattenedVec (flattenedWpks : List WinternitzPublicKey) :
    Except Panic ClementineBitVMPublicKeys := do
  let latestBlockhashPk ← vecIndex flattenedWpks 1
  let challengeSendingWatchtowersPk ← vecIndex flattenedWpks 2
  let bitvmPks1 ← vecSlice flattenedWpks 3 (3 + numPubs)
  let bitvmPks2 ← vecSlice flattenedWpks (3 + numPubs) (3 + numPubs + numU256)
  let bitvmPks3 ← vecSlice flattenedWpks (3 + numPubs + numU256) (3 + numPubs + numU256 + numHash)
  return {
    latestBlockhashPk := vecToArray 43 latestBlockhashPk
    challengeSendingWatchtowersPk := vecToArray 43 challengeSendingWatchtowersPk
    bitvmPks := (bitvmPks1.map (vecToArray 67), bitvmPks2.map (vecToArray 67),
      bitvmPks3.map (vecToArray 35)) }

/-- The commitments to consecutive keys in steps of the given size. -/
def commitScripts (keys : List WinternitzPublicKey) (step count last : Nat) (size : UInt32)
    (xonlyPublicKey : XOnlyPublicKey) : List SpendableScript :=
  (List.range count).map fun i =>
    .winternitzCommit (((keys.take (min (i * step + step) last)).drop (i * step)).map (·, size))
      xonlyPublicKey 4

/-- `get_assert_scripts`. -/
def getAssertScripts (self : ClementineBitVMPublicKeys) (xonlyPublicKey : XOnlyPublicKey) :
    Except Panic (List SpendableScript) := do
  let public0 ← vecIndex self.bitvmPks.1 0
  let last4 ← vecSlice self.bitvmPks.2.1 (numU256 - 4) numU256
  let firstScript : SpendableScript := .winternitzCommit
    ((self.challengeSendingWatchtowersPk, 40) :: (public0, 64) :: last4.map (·, 64))
    xonlyPublicKey 4
  return firstScript :: (commitScripts self.bitvmPks.2.1 5 2 numU256 64 xonlyPublicKey ++
      commitScripts self.bitvmPks.2.2 11 33 numHash 32 xonlyPublicKey)

end ClementineBitVMPublicKeys

variable (library : BuilderLibrary)

/-- `Actor`, as far as it is read. -/
structure Actor where
  secretKey : Bytes32
  xonlyPublicKey : XOnlyPublicKey
  publicKey : PublicKey

/-- Keys at consecutive indices of a derivation path. -/
def Actor.deriveBitvmPks (self : Actor) (depositOutpoint : OutPoint) (messageLength kind : UInt32)
    (size count : Nat) : BuildResult (List WinternitzPublicKey) :=
  (List.range count).mapM fun i => do
    let pkVec ← okOr (.eyre (.text "Key derivation failed"))
      (library.deriveBitvmAssertPk self.secretKey messageLength kind (UInt32.ofNat i)
        depositOutpoint)
    return ClementineBitVMPublicKeys.vecToArray size pkVec

open ClementineBitVMPublicKeys in
/-- `Actor::generate_bitvm_pks_for_deposit`. -/
def Actor.generateBitvmPksForDeposit (self : Actor) (depositOutpoint : OutPoint) :
    BuildResult ClementineBitVMPublicKeys := do
  let latestBlockhash ← self.deriveBitvmPks library depositOutpoint 40 1 43 1
  let latestBlockhashPk ← liftPanic (vecIndex latestBlockhash 0)
  let watchtowers ← self.deriveBitvmPks library depositOutpoint 40 2 43 1
  let challengeSendingWatchtowersPk ← liftPanic (vecIndex watchtowers 0)
  let bitvmPks1 ← self.deriveBitvmPks library depositOutpoint 64 3 67 numPubs
  let bitvmPks2 ← self.deriveBitvmPks library depositOutpoint 64 4 67 numU256
  let bitvmPks3 ← self.deriveBitvmPks library depositOutpoint 32 5 35 numHash
  return {
    latestBlockhashPk
    challengeSendingWatchtowersPk
    bitvmPks := (bitvmPks1, bitvmPks2, bitvmPks3) }

/-- `ContractContext`. -/
structure ContractContext where
  operatorXonlyPk : XOnlyPublicKey
  roundIdx : RoundIndex
  paramset : ProtocolParamset
  kickoffIdx : Option UInt32
  depositData : Option DepositData
  signer : Option Actor

/-- `ContractContext::new_context_for_kickoff`. -/
def ContractContext.newContextForKickoff (kickoffData : KickoffData) (depositData : DepositData)
    (paramset : ProtocolParamset) : ContractContext where
  operatorXonlyPk := kickoffData.operatorXonlyPk
  roundIdx := kickoffData.roundIdx
  paramset
  kickoffIdx := some kickoffData.kickoffIdx
  depositData := some depositData
  signer := none

/-- `ReimburseDbCache`. -/
structure ReimburseDbCache where
  db : BuilderDatabase
  operatorXonlyPk : XOnlyPublicKey
  depositOutpoint : Option OutPoint
  paramset : ProtocolParamset

namespace ReimburseDbCache

/-- `ReimburseDbCache::from_context`. -/
def fromContext (db : BuilderDatabase) (context : ContractContext) : ReimburseDbCache where
  db
  operatorXonlyPk := context.operatorXonlyPk
  depositOutpoint := context.depositData.map DepositData.getDepositOutpoint
  paramset := context.paramset

variable (self : ReimburseDbCache)

/-- The deposit, without which the data of a kickoff cannot be read. -/
def getDepositOutpoint : BuildResult OutPoint :=
  okOr (.transaction .insufficientContext) self.depositOutpoint

/-- `ReimburseDbCache::get_operator_data`. -/
def getOperatorData : BuildResult OperatorData :=
  okOr (.eyre (.operatorDataNotFound self.operatorXonlyPk))
    (self.db.getOperator self.operatorXonlyPk)

/-- `ReimburseDbCache::get_kickoff_winternitz_keys`. -/
def getKickoffWinternitzKeys : BuildResult KickoffWinternitzKeys := do
  let keys ← okOr (.eyre (.text "Failed to get kickoff winternitz keys from database"))
    (self.db.getOperatorKickoffWinternitzPublicKeys self.operatorXonlyPk)
  KickoffWinternitzKeys.new keys self.paramset.numKickoffsPerRound self.paramset.numRoundTxs

/-- `ReimburseDbCache::get_bitvm_setup`. -/
def getBitvmSetup : BuildResult (List Bytes32 × Bytes32 × Bytes32) := do
  let depositOutpoint ← self.getDepositOutpoint
  okOr (.transaction (.bitvmSetupNotFound self.operatorXonlyPk depositOutpoint.txid))
    (self.db.getBitvmSetup self.operatorXonlyPk depositOutpoint)

/-- `ReimburseDbCache::get_operator_bitvm_keys`. -/
def getOperatorBitvmKeys : BuildResult ClementineBitVMPublicKeys := do
  let depositOutpoint ← self.getDepositOutpoint
  let keys ← okOr (.eyre (.text "Failed to get bitvm keys from database"))
    (self.db.getOperatorBitvmKeys self.operatorXonlyPk depositOutpoint)
  liftPanic (ClementineBitVMPublicKeys.fromFlattenedVec keys)

/-- `ReimburseDbCache::get_challenge_ack_hashes`. -/
def getChallengeAckHashes : BuildResult (List PublicHash) := do
  let depositOutpoint ← self.getDepositOutpoint
  okOr (.eyre (.ackHashesNotFound self.operatorXonlyPk depositOutpoint.txid))
    (self.db.getOperatorsChallengeAckHashes self.operatorXonlyPk depositOutpoint)

/-- `ReimburseDbCache::get_replaceable_additional_disprove_script`. -/
def getReplaceableAdditionalDisproveScript : BuildResult (List UInt8) := do
  let challengeAckHashes ← self.getChallengeAckHashes
  let bitvmKeys ← self.getOperatorBitvmKeys
  let public0 ← liftPanic (vecIndex bitvmKeys.bitvmPks.1 0)
  return library.createAdditionalReplacableDisproveScriptWithDummy
    (library.bridgeCircuitConstant self.paramset.network) public0 bitvmKeys.latestBlockhashPk
    bitvmKeys.challengeSendingWatchtowersPk challengeAckHashes

end ReimburseDbCache

/-! ## The cache -/

/-- `TxHandlerCache`. -/
structure TxHandlerCache where
  prevReadyToReimburse : Option TxHandler
  savedTxs : TxHandlers

/-! ## The builder -/

/-- The round and ready-to-reimburse transactions, from the previous round's if it is known. -/
def roundPair (paramset : ProtocolParamset) (roundIdx : RoundIndex) (operatorData : OperatorData)
    (kickoffWinternitzKeys : KickoffWinternitzKeys) :
    Option TxHandler → BuildResult (TxHandler × TxHandler)
  | some prevReadyToReimburse => do
      errorIf (roundIdx = .collateral ∨ roundIdx = .round 0)
        (.eyre (.text "Round 0 cannot be created from prev_ready_to_reimburse"))
      nextRoundTxhandlers library operatorData.xonlyPk kickoffWinternitzKeys paramset
        prevReadyToReimburse roundIdx
  | none =>
    createRoundNthTxhandler library operatorData.xonlyPk
      operatorData.collateralFundingOutpoint paramset.collateralFundingAmount roundIdx
      kickoffWinternitzKeys paramset

/-- `create_round_txhandlers`. -/
def createRoundTxhandlers (paramset : ProtocolParamset) (roundIdx : RoundIndex)
    (operatorData : OperatorData) (kickoffWinternitzKeys : KickoffWinternitzKeys)
    (prevReadyToReimburse : Option TxHandler) : BuildResult (List TxHandler) := do
  let pair ← roundPair library paramset roundIdx operatorData kickoffWinternitzKeys
    prevReadyToReimburse
  let unspentKickoffs ← createUnspentKickoffTxhandlers library pair.1 pair.2 paramset
  return pair.1 :: pair.2 :: unspentKickoffs

/-- The transactions of the round, unless they are in the cache. -/
def collateralTxhandlers (paramset : ProtocolParamset) (roundIdx : RoundIndex)
    (operatorData : OperatorData) (kickoffWinternitzKeys : KickoffWinternitzKeys)
    (txhandlerCache : TxHandlerCache) : BuildResult TxHandlers :=
  if txhandlerCache.savedTxs.contains .round then
    .ok txhandlerCache.savedTxs
  else do
    let roundTxhandlers ← createRoundTxhandlers library paramset roundIdx operatorData
      kickoffWinternitzKeys txhandlerCache.prevReadyToReimburse
    return txhandlerCache.savedTxs.insertAll roundTxhandlers

/-- The move transaction, unless it is in the cache. -/
def withMoveToVault (txhandlers : TxHandlers) (depositData : DepositData)
    (paramset : ProtocolParamset) : BuildResult TxHandlers :=
  if txhandlers.contains .moveToVault then
    .ok txhandlers
  else do
    let moveTxhandler ← createMoveToVaultTxhandler library depositData paramset
    return txhandlers.insertHandler moveTxhandler

/-- The output key under which a watchtower sends its challenge. -/
def watchtowerPubkey (nofnKey : XOnlyPublicKey) (paramset : ProtocolParamset)
    (xonlyPk : XOnlyPublicKey) : BuildResult Bytes32 := do
  let nofn2week ← liftPanic (SpendableScript.toScriptBuf library
    (.timelockScript (some nofnKey) paramset.watchtowerChallengeTimeoutTimelock))
  let tweaked ← liftPanic
    (finalizeTaproot library "taproot finalize must succeed" [(0, .leaf nofn2week)] xonlyPk)
  return tweaked.outputKey

/-- The additional disprove script of a kickoff, with its deposit constant and the key of the
kickoff's block hash. -/
def additionalDisproveScript (context : ContractContext) (dbCache : ReimburseDbCache)
    (kickoffWinternitzKeys : KickoffWinternitzKeys) (depositData : DepositData)
    (kickoffIdx : UInt32) (moveTxhandler roundTxhandler : TxHandler) :
    BuildResult (List UInt8) := do
  let nofnKey ← depositData.getNofnXonlyPk library
  let watchtowerPubkeys ← depositData.getWatchtowers.mapM
    (watchtowerPubkey library nofnKey dbCache.paramset)
  let constant := depositConstant library.toCircuitLibrary context.operatorXonlyPk
    (UtxoVout.watchtowerChallenge 0).getVout watchtowerPubkeys (moveTxhandler.getTxid library)
    (roundTxhandler.getTxid library) (UtxoVout.kickoff kickoffIdx.toNat).getVout
    context.paramset.genesisChainStateHash
  let roundKeys ← kickoffWinternitzKeys.getKeysForRound context.roundIdx
  let payoutTxBlockhashPk ← okOr (.transaction .indexOverflow) roundKeys[kickoffIdx.toNat]?
  let script ← dbCache.getReplaceableAdditionalDisproveScript library
  return library.replacePlaceholdersInScript script payoutTxBlockhashPk constant

/-- The disprove scripts, which are only needed in full to spend one of them. -/
def disprovePathFor (transactionType : TransactionType) (dbCache : ReimburseDbCache)
    (disproveRootHash : Bytes32) : BuildResult DisprovePath :=
  if transactionType = .disprove then do
    let bitvmPks ← dbCache.getOperatorBitvmKeys
    let disproveScripts ← okOr (.eyre (.text "Failed to replace disprove scripts"))
      (library.getG16VerifierDisproveScripts bitvmPks)
    return .scripts disproveScripts
  else
    .ok (.hiddenNode disproveRootHash)

/-- Whether the scripts of the assertions are needed to spend them. -/
def TransactionType.needsScripts : TransactionType → Bool
  | .latestBlockhash | .miniAssert _ => true
  | _ => false

section Kickoff

variable (context : ContractContext) (dbCache : ReimburseDbCache) (operatorData : OperatorData)
  (depositData : DepositData) (kickoffIdx : UInt32) (moveTxhandler roundTxhandler : TxHandler)
  (additionalDisproveScript : List UInt8) (challengeAckPublicHashes : List PublicHash)

/-- The kickoff with the given scripts. -/
def kickoffWith (assertScripts : AssertScripts) (disprovePath : DisprovePath)
    (latestBlockhashScript : AssertScripts) : BuildResult TxHandler :=
  createKickoffTxhandler library
    { operatorXonlyPk := context.operatorXonlyPk, roundIdx := context.roundIdx, kickoffIdx }
    roundTxhandler moveTxhandler depositData operatorData.xonlyPk assertScripts disprovePath
    additionalDisproveScript latestBlockhashScript challengeAckPublicHashes dbCache.paramset

/-- The kickoff with the scripts of the signer, and the transactions that reveal them. -/
def revealedKickoffTxhandlers (disprovePath : DisprovePath) :
    BuildResult (TxHandler × List TxHandler) := do
  let actor ← okOr (.transaction .insufficientContext) context.signer
  let bitvmPks ← actor.generateBitvmPksForDeposit library depositData.getDepositOutpoint
  let assertScripts ← liftPanic (bitvmPks.getAssertScripts operatorData.xonlyPk)
  let latestBlockhashScript : SpendableScript := .winternitzCommit
    [(bitvmPks.latestBlockhashPk, 40)] operatorData.xonlyPk context.paramset.winternitzLogD
  let kickoffTxhandler ← kickoffWith library context dbCache operatorData depositData kickoffIdx
    moveTxhandler roundTxhandler additionalDisproveScript challengeAckPublicHashes
    (.assertSpendableScript assertScripts) disprovePath
    (.assertSpendableScript [latestBlockhashScript])
  let miniAsserts ← createMiniAsserts library kickoffTxhandler dbCache.paramset numberOfAssertTxs
  let latestBlockhashTxhandler ←
    createLatestBlockhashTxhandler library kickoffTxhandler dbCache.paramset
  return (kickoffTxhandler, miniAsserts ++ [latestBlockhashTxhandler])

/-- The kickoff with the hashes in the database. -/
def storedKickoffTxhandlers (bitvmSetup : List Bytes32 × Bytes32 × Bytes32)
    (disprovePath : DisprovePath) : BuildResult (TxHandler × List TxHandler) := do
  let kickoffTxhandler ← kickoffWith library context dbCache operatorData depositData kickoffIdx
    moveTxhandler roundTxhandler additionalDisproveScript challengeAckPublicHashes
    (.assertScriptTapNodeHash bitvmSetup.1) disprovePath (.assertScriptTapNodeHash [bitvmSetup.2.2])
  return (kickoffTxhandler, [])

/-- The kickoff with the transactions that reveal its scripts, if they were asked for. -/
def kickoffTxhandlers (transactionType : TransactionType) :
    BuildResult (TxHandler × List TxHandler) := do
  let bitvmSetup ← dbCache.getBitvmSetup
  let disprovePath ← disprovePathFor library transactionType dbCache bitvmSetup.2.1
  bif transactionType.needsScripts then
    revealedKickoffTxhandlers library context dbCache operatorData depositData kickoffIdx
      moveTxhandler roundTxhandler additionalDisproveScript challengeAckPublicHashes disprovePath
  else
    storedKickoffTxhandlers library context dbCache operatorData depositData kickoffIdx
      moveTxhandler roundTxhandler additionalDisproveScript challengeAckPublicHashes bitvmSetup
      disprovePath

end Kickoff

/-- The transactions for one watchtower, without its challenge. -/
def watchtowerTxhandlers (kickoffTxhandler roundTxhandler : TxHandler)
    (paramset : ProtocolParamset) (watchtowerIdx : Nat) : BuildResult (List TxHandler) := do
  let timeout ← createWatchtowerChallengeTimeoutTxhandler library kickoffTxhandler watchtowerIdx
    paramset
  let nack ← createOperatorChallengeNackTxhandler library kickoffTxhandler roundTxhandler
    watchtowerIdx paramset
  let ack ← createOperatorChallengeAckTxhandler library kickoffTxhandler watchtowerIdx paramset
  return [timeout, nack, ack]

/-- Whether a request is for a single watchtower's challenge. -/
def TransactionType.isWatchtowerChallenge : TransactionType → Bool
  | .watchtowerChallenge _ => true
  | _ => false

/-- The disprove transaction, for the requests that need it. -/
def disproveTxhandlers (transactionType : TransactionType)
    (kickoffTxhandler roundTxhandler : TxHandler) : BuildResult (List TxHandler) :=
  match transactionType with
  | .allNeededForDeposit | .disprove => do
      let disproveTxhandler ← createDisproveTxhandler library kickoffTxhandler roundTxhandler
      return [disproveTxhandler]
  | _ => .ok []

/-- `context.signer.map(|s| s.get_evm_address()).transpose()`. -/
def challengerEvmAddress : Option Actor → BuildResult (Option EVMAddress)
  | none => .ok none
  | some signer => do
      let evmAddress ← okOr (.eyre (.text "Failed to convert secret key to signing key"))
        (library.getEvmAddress signer.secretKey)
      return some evmAddress

/-- The handlers that a kickoff is built from and connected with. -/
structure KickoffParents where
  round : TxHandler
  readyToReimburse : TxHandler
  nextRound : TxHandler
  moveToVault : TxHandler

/-- The transactions of the challenge game and the reimbursement, which spend outputs of the
kickoff. -/
def contractTxhandlers (transactionType : TransactionType) (signer : Option Actor)
    (paramset : ProtocolParamset) (operatorData : OperatorData) (numWatchtowers : Nat)
    (kickoffIdx : UInt32) (parents : KickoffParents) (kickoffTxhandler : TxHandler) :
    BuildResult (List TxHandler) := do
  let evmAddress ← challengerEvmAddress library signer
  let challenge ← createChallengeTxhandler library kickoffTxhandler paramset
    operatorData.reimburseAddr evmAddress
  let challengeTimeout ← createChallengeTimeoutTxhandler library kickoffTxhandler paramset
  let kickoffNotFinalized ← createKickoffNotFinalizedTxhandler library kickoffTxhandler
    parents.readyToReimburse paramset
  let latestBlockhashTimeout ← createLatestBlockhashTimeoutTxhandler library kickoffTxhandler
    parents.round paramset
  let watchtowers ← (List.range numWatchtowers).mapM
    (watchtowerTxhandlers library kickoffTxhandler parents.round paramset)
  errorIf (transactionType.isWatchtowerChallenge = true) (.eyre (.text
    ("Can't directly create a watchtower challenge in create_txhandlers as it needs " ++
      "commit data")))
  let assertTimeouts ← createAssertTimeoutTxhandlers library kickoffTxhandler parents.round
    paramset numberOfAssertTxs
  let disproveTimeout ← createDisproveTimeoutTxhandler library kickoffTxhandler paramset
  let reimburse ← createReimburseTxhandler library parents.moveToVault parents.nextRound
    kickoffTxhandler kickoffIdx.toNat paramset operatorData.reimburseAddr
  let disprove ← disproveTxhandlers library transactionType kickoffTxhandler parents.round
  return [challenge, challengeTimeout, kickoffNotFinalized, latestBlockhashTimeout] ++
    watchtowers.flatten ++ assertTimeouts ++ [disproveTimeout, reimburse] ++ disprove

/-- `create_txhandlers` from the transactions of the round on. -/
def depositTxhandlers (transactionType : TransactionType) (context : ContractContext)
    (dbCache : ReimburseDbCache) (operatorData : OperatorData)
    (kickoffWinternitzKeys : KickoffWinternitzKeys) (collateral : TxHandlers) :
    BuildResult TxHandlers := do
  let paramset := dbCache.paramset
  let readyToReimburse ← collateral.getTxhandler .readyToReimburse
  let nextRound ← roundAfter library operatorData.xonlyPk readyToReimburse
    context.roundIdx.nextRound kickoffWinternitzKeys paramset
  let depositData ← okOr (.transaction .insufficientContext) context.depositData
  let kickoffIdx ← okOr (.transaction .insufficientContext) context.kickoffIdx
  let depositOutpoint ← okOr (.eyre (.depositNotSet depositData.getDepositOutpoint))
    dbCache.depositOutpoint
  errorIf (depositOutpoint ≠ depositData.getDepositOutpoint)
    (.eyre (.depositMismatch depositOutpoint depositData.getDepositOutpoint))
  let txhandlers ← withMoveToVault library collateral depositData paramset
  let challengeAckPublicHashes ← dbCache.getChallengeAckHashes
  errorIf (challengeAckPublicHashes.length ≠ depositData.getNumWatchtowers)
    (.eyre (.ackHashes depositData.getNumWatchtowers challengeAckPublicHashes.length))
  let moveToVault ← txhandlers.getTxhandler .moveToVault
  let round ← txhandlers.getTxhandler .round
  let additionalScript ← additionalDisproveScript library context dbCache kickoffWinternitzKeys
    depositData kickoffIdx moveToVault round
  let kickoff ← kickoffTxhandlers library context dbCache operatorData depositData kickoffIdx
    moveToVault round additionalScript challengeAckPublicHashes transactionType
  let contract ← contractTxhandlers library transactionType context.signer paramset operatorData
    depositData.getNumWatchtowers kickoffIdx { round, readyToReimburse, nextRound, moveToVault }
    kickoff.1
  return ((txhandlers.insertAll kickoff.2).insertHandler kickoff.1).insertAll contract

/-- Requests that only need the transactions of the round. -/
def TransactionType.isCollateral : TransactionType → Bool
  | .round | .readyToReimburse | .unspentKickoff _ => true
  | _ => false

/-- The transactions for a request, from those of the round on. -/
def requestedTxhandlers (transactionType : TransactionType) (context : ContractContext)
    (dbCache : ReimburseDbCache) (operatorData : OperatorData)
    (kickoffWinternitzKeys : KickoffWinternitzKeys) (collateral : TxHandlers) :
    BuildResult TxHandlers :=
  if transactionType.isCollateral then
    .ok collateral
  else
    depositTxhandlers library transactionType context dbCache operatorData kickoffWinternitzKeys
      collateral

/-- `create_txhandlers`; the cached transactions are taken out of the cache. -/
def createTxhandlers (transactionType : TransactionType) (context : ContractContext)
    (txhandlerCache : TxHandlerCache) (dbCache : ReimburseDbCache) :
    BuildResult (TxHandlers × TxHandlerCache) := do
  let operatorData ← dbCache.getOperatorData
  let kickoffWinternitzKeys ← dbCache.getKickoffWinternitzKeys
  errorIf (context.operatorXonlyPk ≠ operatorData.xonlyPk)
    (.eyre (.operatorMismatch context.operatorXonlyPk operatorData.xonlyPk))
  let collateral ← collateralTxhandlers library dbCache.paramset context.roundIdx operatorData
    kickoffWinternitzKeys txhandlerCache
  let txhandlers ← requestedTxhandlers library transactionType context dbCache operatorData
    kickoffWinternitzKeys collateral
  return (txhandlers, { txhandlerCache with savedTxs := ∅ })

/-! ## Sample data -/

namespace Regtest

open ByteNumeral

/-- The key of the only operator. -/
def operatorXonlyPk : XOnlyPublicKey :=
  beBytes 32 0x7592aab5d43618dda13fba71e3993cd7517a712d3da49664c06ee1bd3d1f70af

/-- The output of the operator's collateral. -/
def collateral : OutPoint where
  txid := beBytes 32 0x0c7d0d16acd72a6a39f348d39e9f98df2c9bf51c252cc1fafe8ffe12a8eace38
  vout := 0

def operatorData : OperatorData where
  xonlyPk := operatorXonlyPk
  reimburseAddr := Recorded.p2tr operatorXonlyPk
  collateralFundingOutpoint := collateral

/-- A deposit with one verifier, who is also the only watchtower. -/
def depositData : DepositData where
  nofnXonlyPk := none
  deposit := ⟨⟨beBytes 32 0x01, 0⟩, .replacementDeposit (beBytes 32 0x02)⟩
  actors := ⟨[beBytes 33 (0x02 * 256 ^ 32 +
    0xe5740e63bad28081ed7cf654dd6c19029ca03382fc05ab5f5dda81f2c55b845b)], [], [operatorXonlyPk]⟩
  securityCouncil := ⟨[operatorXonlyPk], 1⟩

/-- The parameters: one kickoff in each of two rounds. -/
def paramset : ProtocolParamset where
  network := .regtest
  numRoundTxs := 2
  numKickoffsPerRound := 1
  numSignedKickoffs := 1
  bridgeAmount := 1000000000
  kickoffAmount := 0
  operatorChallengeAmount := 200000000
  collateralFundingAmount := 99000000
  kickoffBlockhashCommitLength := 40
  winternitzLogD := 4
  userTakesAfter := 200
  operatorChallengeTimeoutTimelock := 144
  operatorChallengeNackTimelock := 432
  disproveTimeoutTimelock := 720
  assertTimeoutTimelock := 576
  latestBlockhashTimeoutTimelock := 360
  operatorReimburseTimelock := 12
  watchtowerChallengeTimeoutTimelock := 288
  startHeight := 190
  finalityDepth := 1
  genesisChainStateHash := zeroBytes
  bridgeNonstandard := true

end Regtest

end Clementine
