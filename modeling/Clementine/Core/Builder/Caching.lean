import Clementine.Core.Builder.Connectors

/-!
# What `create_txhandlers` returns

A successful call is described by its parts: the two transactions of the round, the next round,
the move transaction, the kickoff, and the lists of transactions connected to them.  A cache is
coherent when it holds transactions that would be built anyway.  With a coherent cache the
parts, and all returned transactions up to the burning of unspent kickoffs, are those of a call
without a cache.
-/

namespace Clementine

open ExceptRun ReimburseDbCache Option Except

variable {library : BuilderLibrary} {paramset : ProtocolParamset}

/-! ## Rounds with a cache -/

variable (library) in
/-- The two transactions of a round, built from the operator's first round on. -/
def operatorRound (db : BuilderDatabase) (operatorXonlyPk : XOnlyPublicKey)
    (paramset : ProtocolParamset) (roundIdx : RoundIndex) :
    BuildResult (TxHandler × TxHandler) := do
  let dbCache : ReimburseDbCache := { db, operatorXonlyPk, depositOutpoint := none, paramset }
  let operatorData ← dbCache.getOperatorData
  let kickoffWinternitzKeys ← dbCache.getKickoffWinternitzKeys
  createRoundNthTxhandler library operatorData.xonlyPk operatorData.collateralFundingOutpoint
    paramset.collateralFundingAmount roundIdx kickoffWinternitzKeys paramset

/-- A cache that holds transactions which would be built for the context anyway. -/
structure TxHandlerCache.Coherent (library : BuilderLibrary) (db : BuilderDatabase)
    (context : ContractContext) (cache : TxHandlerCache) : Prop where
  previous : ∀ readyToReimburse, cache.prevReadyToReimburse = some readyToReimburse →
    ∃ index round, context.roundIdx = .round (index + 1) ∧
      operatorRound library db context.operatorXonlyPk context.paramset (.round index) =
        .ok (round, readyToReimburse)
  round : ∀ round, cache.savedTxs[TransactionType.round]? = some round →
    ∃ readyToReimburse unspentKickoffs,
      cache.savedTxs[TransactionType.readyToReimburse]? = some readyToReimburse ∧
      operatorRound library db context.operatorXonlyPk context.paramset context.roundIdx =
        .ok (round, readyToReimburse) ∧
      createUnspentKickoffTxhandlers library round readyToReimburse context.paramset =
        .ok unspentKickoffs
  moveToVault : ∀ moveToVault, cache.savedTxs[TransactionType.moveToVault]? = some moveToVault →
    ∃ depositData, context.depositData = some depositData ∧
      createMoveToVaultTxhandler library depositData context.paramset = .ok moveToVault

variable {unspentKickoffs : List TxHandler} {operatorData : OperatorData}
  {context : ContractContext} {keys : KickoffWinternitzKeys} {cache : TxHandlerCache}
  {db : BuilderDatabase}

section Parts

/-- What a call reads of the operator. -/
structure OperatorSetup (db : BuilderDatabase) (context : ContractContext)
    (operatorData : OperatorData) (keys : KickoffWinternitzKeys) : Prop where
  readsOperator : (fromContext db context).getOperatorData = .ok operatorData
  readsKeys : (fromContext db context).getKickoffWinternitzKeys = .ok keys
  sameOperator : context.operatorXonlyPk = operatorData.xonlyPk

theorem OperatorSetup.numRounds (setup : OperatorSetup db context operatorData keys) :
    keys.numRounds = context.paramset.numRoundTxs := by
  have read := setup.readsKeys
  simp only [getKickoffWinternitzKeys, KickoffWinternitzKeys.new, bind_ok_iff] at read
  obtain ⟨_, _, _, _, finished⟩ := read
  cases finished
  rfl

theorem OperatorSetup.operatorRound_eq (setup : OperatorSetup db context operatorData keys)
    (roundIdx : RoundIndex) :
    operatorRound library db context.operatorXonlyPk context.paramset roundIdx =
      createRoundNthTxhandler library operatorData.xonlyPk operatorData.collateralFundingOutpoint
        context.paramset.collateralFundingAmount roundIdx keys context.paramset := by
  have data : getOperatorData
      ⟨db, context.operatorXonlyPk, none, context.paramset⟩ = .ok operatorData :=
    setup.readsOperator
  have wots : getKickoffWinternitzKeys
      ⟨db, context.operatorXonlyPk, none, context.paramset⟩ = .ok keys :=
    setup.readsKeys
  simp only [operatorRound, data, wots, bind, Except.bind]

/-- Keys are given out for the rounds of the parameters and one more. -/
theorem KickoffWinternitzKeys.getKeysForRound_bound {roundIdx : RoundIndex}
    {roundKeys : List WinternitzPublicKey}
    (read : keys.getKeysForRound roundIdx = .ok roundKeys) :
    roundIdx.toIndex ≤ keys.numRounds + 1 := by
  simp only [getKeysForRound, bind_ok_iff, errorIf_eq_ok, not_or, not_lt] at read
  exact read.choose_spec.1.2

variable {pair : TxHandler × TxHandler}

/-- With a coherent cache the pair of the round is the one built from the first round on. -/
theorem roundPair_eq_ok (setup : OperatorSetup db context operatorData keys)
    (coherent : cache.Coherent library db context)
    (built : roundPair library context.paramset context.roundIdx operatorData keys
      cache.prevReadyToReimburse = .ok pair) :
    operatorRound library db context.operatorXonlyPk context.paramset context.roundIdx =
      .ok pair := by
  cases previous : cache.prevReadyToReimburse with
  | none =>
    rw [previous] at built
    rw [setup.operatorRound_eq]
    exact built
  | some readyToReimburse =>
    rw [previous] at built
    obtain ⟨_, _, next⟩ := bind_ok_iff.mp built
    obtain ⟨index, round, current, before⟩ := coherent.previous _ previous
    rw [setup.operatorRound_eq] at before ⊢
    rw [current] at next ⊢
    have keysRead := (nextRoundTxhandlers_eq_ok next).1
    simp only [roundAfter, bind_ok_iff] at keysRead
    obtain ⟨_, _, _, read, _⟩ := keysRead
    have bound := KickoffWinternitzKeys.getKeysForRound_bound read
    rw [setup.numRounds, RoundIndex.toIndex] at bound
    exact createRoundNthTxhandler_succ.mpr ⟨by omega, _, before, next⟩

/-- The shared transactions of a round in a map: the pair, and a move transaction if there was one
in the cache. -/
structure RoundMap (cache : TxHandlerCache) (pair : TxHandler × TxHandler)
    (collateral : TxHandlers) : Prop where
  round : collateral[TransactionType.round]? = some pair.1
  readyToReimburse : collateral[TransactionType.readyToReimburse]? = some pair.2
  moveToVault : collateral[TransactionType.moveToVault]? =
    cache.savedTxs[TransactionType.moveToVault]?

/-- Unspent kickoffs have types of their own. -/
theorem createUnspentKickoffTxhandlers_type {round readyToReimburse : TxHandler}
    (built : createUnspentKickoffTxhandlers library round readyToReimburse paramset =
      .ok unspentKickoffs) {txhandler : TxHandler} (member : txhandler ∈ unspentKickoffs) :
    ∃ idx, txhandler.transactionType = .unspentKickoff idx := by
  obtain ⟨idx, _, created⟩ := (mem_mapM_ok built).mp member
  exact ⟨idx, connectTxhandler_type created⟩

theorem RoundMap.insertAll (round : pair.1.transactionType = .round)
    (readyToReimburse : pair.2.transactionType = .readyToReimburse)
    (unspent : ∀ txhandler ∈ unspentKickoffs,
      ∃ idx, txhandler.transactionType = .unspentKickoff idx) :
    RoundMap cache pair (cache.savedTxs.insertAll (pair.1 :: pair.2 :: unspentKickoffs)) := by
  have absent : ∀ type, (∀ idx, type ≠ .unspentKickoff idx) →
      ∀ txhandler ∈ unspentKickoffs, txhandler.transactionType ≠ type := by
    intro type different txhandler member same
    obtain ⟨idx, typed⟩ := unspent txhandler member
    exact different idx (same.symm.trans typed)
  have lookup : ∀ type : TransactionType, (∀ idx, type ≠ .unspentKickoff idx) →
      (cache.savedTxs.insertAll (pair.1 :: pair.2 :: unspentKickoffs))[type]? =
        if .readyToReimburse = type then some pair.2
        else if .round = type then some pair.1 else cache.savedTxs[type]? := by
    intro type different
    rw [TxHandlers.insertAll, List.foldl_cons, List.foldl_cons, ← TxHandlers.insertAll,
      TxHandlers.getElem?_insertAll_of_absent (absent type different),
      TxHandlers.getElem?_insertHandler, TxHandlers.getElem?_insertHandler, round,
      readyToReimburse]
  refine ⟨?_, ?_, ?_⟩ <;> rw [lookup _ (by simp)] <;> simp

/-- With a coherent cache the transactions of the round are those built without one. -/
theorem collateralTxhandlers_eq_ok (setup : OperatorSetup db context operatorData keys)
    (coherent : cache.Coherent library db context) {collateral : TxHandlers}
    (built : collateralTxhandlers library context.paramset context.roundIdx operatorData keys
      cache = .ok collateral) :
    ∃ pair, operatorRound library db context.operatorXonlyPk context.paramset context.roundIdx =
        .ok pair ∧ RoundMap cache pair collateral := by
  unfold collateralTxhandlers at built
  split_ifs at built with cached
  · cases built
    obtain ⟨round, found⟩ : ∃ round, cache.savedTxs[TransactionType.round]? = some round :=
      isSome_iff_exists.mp (by rwa [Std.ExtTreeMap.isSome_getElem?_eq_contains])
    obtain ⟨readyToReimburse, -, saved, rounds, -⟩ := coherent.round _ found
    exact ⟨(round, readyToReimburse), rounds, found, saved, rfl⟩
  · simp only [createRoundTxhandlers, bind_ok_iff, pure, Except.pure, ok.injEq] at built
    obtain ⟨_, ⟨pair, paired, unspentKickoffs, unspent, rfl⟩, rfl⟩ := built
    have rounds := roundPair_eq_ok setup coherent paired
    refine ⟨pair, rounds, ?_⟩
    rw [setup.operatorRound_eq] at rounds
    obtain ⟨roundType, readyType, -⟩ := createRoundNthTxhandler_shapes rounds
    exact .insertAll roundType readyType fun txhandler member =>
      createUnspentKickoffTxhandlers_type unspent member

end Parts

/-! ## Calls for a kickoff -/

/-- The parts of a call for a kickoff. -/
structure DepositParts where
  depositData : DepositData
  kickoffIdx : UInt32
  hashes : List PublicHash
  withMove : TxHandlers
  parents : KickoffParents
  additionalScript : List UInt8
  kickoff : TxHandler
  revealed : List TxHandler
  contract : List TxHandler

namespace DepositParts

/-- The map that a call with these parts returns. -/
def txhandlers (parts : DepositParts) : TxHandlers :=
  ((parts.withMove.insertAll parts.revealed).insertHandler parts.kickoff).insertAll parts.contract

/-- How the parts of the kickoff are built from the transactions of the round. -/
structure BuiltFrom (library : BuilderLibrary) (transactionType : TransactionType)
    (context : ContractContext) (dbCache : ReimburseDbCache) (operatorData : OperatorData)
    (keys : KickoffWinternitzKeys) (collateral : TxHandlers) (parts : DepositParts) : Prop where
  depositData : context.depositData = some parts.depositData
  kickoffIdx : context.kickoffIdx = some parts.kickoffIdx
  readyToReimburse :
    collateral[TransactionType.readyToReimburse]? = some parts.parents.readyToReimburse
  withMove : withMoveToVault library collateral parts.depositData dbCache.paramset =
    .ok parts.withMove
  hashes : dbCache.getChallengeAckHashes = .ok parts.hashes
  moveToVault : parts.withMove[TransactionType.moveToVault]? = some parts.parents.moveToVault
  round : parts.withMove[TransactionType.round]? = some parts.parents.round
  additionalScript : additionalDisproveScript library context dbCache keys parts.depositData
    parts.kickoffIdx parts.parents.moveToVault parts.parents.round = .ok parts.additionalScript
  kickoff : kickoffTxhandlers library context dbCache operatorData parts.depositData
    parts.kickoffIdx parts.parents.moveToVault parts.parents.round parts.additionalScript
    parts.hashes transactionType = .ok (parts.kickoff, parts.revealed)
  contract : contractTxhandlers library transactionType context.signer dbCache.paramset
    operatorData parts.depositData.getNumWatchtowers parts.kickoffIdx parts.parents
    parts.kickoff = .ok parts.contract

end DepositParts

variable {transactionType : TransactionType} {dbCache : ReimburseDbCache}

/-- A call for a kickoff that succeeds returns the map of its parts. -/
theorem exists_depositParts {collateral txhandlers : TxHandlers}
    (built : depositTxhandlers library transactionType context dbCache operatorData keys
      collateral = .ok txhandlers) :
    ∃ parts : DepositParts, parts.BuiltFrom library transactionType context dbCache operatorData
      keys collateral ∧ txhandlers = parts.txhandlers := by
  simp only [depositTxhandlers, bind_ok_iff, TxHandlers.getTxhandler_eq_ok, okOr_eq_ok,
    errorIf_eq_ok, ne_eq, not_not, pure, Except.pure, ok.injEq] at built
  obtain ⟨readyToReimburse, ready, nextRound, -, depositData, deposit, kickoffIdx, index,
    _, -, _, rfl, withMove, moved, hashes, hashesRead, _, -, moveToVault, move, round, found,
    additionalScript, script, ⟨kickoff, revealed⟩, kickoffBuilt, contract, contractBuilt, rfl⟩ :=
      built
  exact ⟨⟨depositData, kickoffIdx, hashes, withMove,
    ⟨round, readyToReimburse, nextRound, moveToVault⟩, additionalScript, kickoff, revealed,
    contract⟩, ⟨deposit, index, ready, moved, hashesRead, move, found, script, kickoffBuilt,
    contractBuilt⟩, rfl⟩

variable {depositData : DepositData}

theorem kickoffTxhandlers_type {kickoffIdx : UInt32} {move round : TxHandler}
    {additionalScript : List UInt8} {hashes : List PublicHash} {kickoff : TxHandler}
    {revealed : List TxHandler}
    (built : kickoffTxhandlers library context dbCache operatorData depositData kickoffIdx move
      round additionalScript hashes transactionType = .ok (kickoff, revealed)) :
    kickoff.transactionType = .kickoff := by
  simp only [kickoffTxhandlers, bind_ok_iff] at built
  obtain ⟨bitvmSetup, _, disprovePath, _, branch⟩ := built
  cases needed : transactionType.needsScripts with
  | false =>
    rw [needed, cond_false] at branch
    obtain ⟨created, kickoffBuilt, finished⟩ := bind_ok_iff.mp branch
    cases finished
    exact createKickoffTxhandler_type kickoffBuilt
  | true =>
    rw [needed, cond_true] at branch
    simp only [revealedKickoffTxhandlers, bind_ok_iff] at branch
    obtain ⟨_, _, _, _, _, _, created, kickoffBuilt, _, _, _, _, finished⟩ := branch
    cases finished
    exact createKickoffTxhandler_type kickoffBuilt

/-! ## Calls with and without a cache -/

section Calls

variable {request : TransactionType} {txhandlers : TxHandlers} {cache' : TxHandlerCache}

namespace DepositParts

/-- How the parts of the kickoff are built, without a cache. -/
structure Valid (library : BuilderLibrary) (db : BuilderDatabase) (request : TransactionType)
    (context : ContractContext) (operatorData : OperatorData) (keys : KickoffWinternitzKeys)
    (parts : DepositParts) : Prop where
  setup : OperatorSetup db context operatorData keys
  depositData : context.depositData = some parts.depositData
  kickoffIdx : context.kickoffIdx = some parts.kickoffIdx
  rounds : operatorRound library db context.operatorXonlyPk context.paramset context.roundIdx =
    .ok (parts.parents.round, parts.parents.readyToReimburse)
  moveToVault : createMoveToVaultTxhandler library parts.depositData context.paramset =
    .ok parts.parents.moveToVault
  hashes : (fromContext db context).getChallengeAckHashes = .ok parts.hashes
  additionalScript : additionalDisproveScript library context (.fromContext db context) keys
    parts.depositData parts.kickoffIdx parts.parents.moveToVault parts.parents.round =
      .ok parts.additionalScript
  kickoff : kickoffTxhandlers library context (.fromContext db context) operatorData
    parts.depositData parts.kickoffIdx parts.parents.moveToVault parts.parents.round
    parts.additionalScript parts.hashes request = .ok (parts.kickoff, parts.revealed)
  contract : contractTxhandlers library request context.signer context.paramset operatorData
    parts.depositData.getNumWatchtowers parts.kickoffIdx parts.parents parts.kickoff =
      .ok parts.contract

end DepositParts

/-- The move transaction is the same whether it was in the cache or not. -/
theorem withMoveToVault_eq_ok (coherent : cache.Coherent library db context)
    {moveToVault : TxHandler} {collateral withMove : TxHandlers}
    (roundMap : RoundMap cache pair collateral)
    (deposit : context.depositData = some depositData)
    (built : withMoveToVault library collateral depositData context.paramset = .ok withMove)
    (found : withMove[TransactionType.moveToVault]? = some moveToVault) :
    createMoveToVaultTxhandler library depositData context.paramset = .ok moveToVault ∧
      withMove[TransactionType.round]? = some pair.1 := by
  unfold withMoveToVault at built
  split_ifs at built with cached
  · cases built
    obtain ⟨data, given, created⟩ :=
      coherent.moveToVault _ (roundMap.moveToVault.symm.trans found)
    rw [deposit, some.injEq] at given
    exact ⟨given ▸ created, roundMap.round⟩
  · obtain ⟨_, created, finished⟩ := bind_ok_iff.mp built
    cases finished
    have typed := createMoveToVaultTxhandler_type created
    rw [TxHandlers.getElem?_insertHandler, if_pos typed, some.injEq] at found
    cases found
    rw [TxHandlers.getElem?_insertHandler, typed, if_neg (by simp)]
    exact ⟨created, roundMap.round⟩

/-- A call with a coherent cache has the parts of a call without one. -/
theorem createTxhandlers_parts (coherent : cache.Coherent library db context)
    (kickoffRequest : request.isCollateral = false)
    (built : createTxhandlers library request context cache (.fromContext db context) =
      .ok (txhandlers, cache')) :
    ∃ operatorData keys parts, DepositParts.Valid library db request context operatorData keys
      parts ∧ txhandlers = parts.txhandlers := by
  simp only [createTxhandlers, bind_ok_iff, errorIf_eq_ok, ne_eq, not_not, pure, Except.pure,
    ok.injEq, Prod.mk.injEq] at built
  obtain ⟨operatorData, operator, keys, wots, _, same, collateral, rounds, _, requested, rfl, -⟩ :=
    built
  have setup : OperatorSetup db context operatorData keys := ⟨operator, wots, same⟩
  rw [requestedTxhandlers, kickoffRequest, if_neg Bool.false_ne_true] at requested
  obtain ⟨parts, source, rfl⟩ := exists_depositParts requested
  obtain ⟨⟨round, ready⟩, pairBuilt, roundMap⟩ := collateralTxhandlers_eq_ok setup coherent rounds
  have readyToReimburse : ready = parts.parents.readyToReimburse := by
    have found := source.readyToReimburse
    rw [roundMap.readyToReimburse, some.injEq] at found
    exact found
  obtain ⟨created, roundFound⟩ := withMoveToVault_eq_ok coherent roundMap source.depositData
    source.withMove source.moveToVault
  have sameRound : round = parts.parents.round := by
    have found := source.round
    rw [roundFound, some.injEq] at found
    exact found
  cases readyToReimburse
  cases sameRound
  exact ⟨operatorData, keys, parts, ⟨setup, source.depositData, source.kickoffIdx, pairBuilt,
    created, source.hashes, source.additionalScript, source.kickoff, source.contract⟩, rfl⟩

namespace DepositParts.Valid

variable {parts : DepositParts}
  (valid : DepositParts.Valid library db request context operatorData keys parts)

include valid

theorem getElem?_kickoff : parts.txhandlers[TransactionType.kickoff]? = some parts.kickoff := by
  rw [DepositParts.txhandlers, TxHandlers.getElem?_insertAll_of_absent,
    TxHandlers.getElem?_insertHandler, if_pos (kickoffTxhandlers_type valid.kickoff)]
  intro txhandler member
  exact contractTxhandlers_ne_kickoff valid.contract member

end DepositParts.Valid

end Calls

end Clementine
