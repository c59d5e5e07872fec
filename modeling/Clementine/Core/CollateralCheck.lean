import Clementine.Core.Builder.Caching
import Clementine.Core.Operator.Payouts

/-!
# The check of an operator's collateral

`collateral_check` walks along the presigned chain of rounds as far as its transactions are
confirmed and asks whether the collateral output it ends at is unspent.  A confirmed transaction of
the chain has all earlier ones confirmed, since each spends the collateral of the one before.  So
whatever else spends a collateral output is noticed: the walk ends right there.
-/

namespace Clementine

open ExceptRun List

/-! ## The chain of the node -/

/-- The confirmed transactions that a node reports, with the heights of their blocks. -/
structure NodeChain where
  txs : List CircuitTransaction
  height : Txid → Nat

/-- The outpoint that a coinbase transaction names. -/
def OutPoint.null : OutPoint := ⟨zeroBytes, 0xFFFFFFFF⟩

namespace NodeChain

variable (library : BuilderLibrary) (chain : NodeChain)

/-- `is_tx_on_chain`. -/
def isTxOnChain (txid : Txid) : Bool := chain.txs.any fun tx => library.computeTxid tx = txid

/-- `get_tx_of_txid`. -/
def getTxOfTxid (txid : Txid) : Option CircuitTransaction :=
  chain.txs.find? fun tx => library.computeTxid tx = txid

/-- A confirmed transaction spends an output. -/
def isSpent (outpoint : OutPoint) : Bool := chain.txs.any fun tx => outpoint ∈ tx.spends

/-- `gettxout` finds an output: it exists and is not spent. -/
def getTxOut (outpoint : OutPoint) : Bool :=
  (chain.txs.any fun tx => library.computeTxid tx = outpoint.txid ∧
    outpoint.vout.toNat < tx.output.length) && !chain.isSpent outpoint

/-- `is_utxo_spent`. -/
def isUtxoSpent (outpoint : OutPoint) : BuildResult Bool := do
  errorIf (chain.isTxOnChain library outpoint.txid = false)
    (.eyre (.text "Transaction is not confirmed"))
  return !chain.getTxOut library outpoint

/-- The rules of a chain: inputs are confirmed and spent once, coinbase inputs apart. -/
structure Valid : Prop where
  closed : ∀ tx ∈ chain.txs, ∀ outpoint ∈ tx.spends, outpoint ≠ .null →
    chain.isTxOnChain library outpoint.txid = true
  single : ∀ tx ∈ chain.txs, ∀ other ∈ chain.txs, ∀ outpoint ∈ tx.spends,
    outpoint ∈ other.spends → outpoint ≠ .null → tx = other

end NodeChain

/-! ## The check -/

section Check

variable (library : BuilderLibrary) (chain : NodeChain) (operatorData : OperatorData)
  (keys : KickoffWinternitzKeys) (paramset : ProtocolParamset)

/-- The last handler of a type in a list. -/
def lastOfType (type : TransactionType) (txhandlers : List TxHandler) : Option TxHandler :=
  txhandlers.reverse.find? fun txhandler => txhandler.transactionType = type

/-- The loop of `collateral_check`: the collateral it ends at, or nothing if a round was confirmed
before the start height. -/
def collateralLoop : List RoundIndex → OutPoint → Option TxHandler → BuildResult (Option OutPoint)
  | [], current, _ => .ok (some current)
  | roundIdx :: rest, current, prevReadyToReimburse => do
      let txhandlers ← createRoundTxhandlers library paramset roundIdx operatorData keys
        prevReadyToReimburse
      match lastOfType .round txhandlers, lastOfType .readyToReimburse txhandlers with
      | some round, some readyToReimburse =>
        if chain.isTxOnChain library (round.getTxid library) = false then return some current
        else if chain.height (round.getTxid library) < paramset.startHeight.toNat then return none
        else if roundIdx = .round (paramset.numRoundTxs - 1) then
          return some (round.outpoint library .collateralInRound)
        else if chain.isTxOnChain library (readyToReimburse.getTxid library) = false then
          return some (round.outpoint library .collateralInRound)
        else
          collateralLoop rest (readyToReimburse.outpoint library .collateralInReadyToReimburse)
            (some readyToReimburse)
      | _, _ => .error (.error (.eyre
          (.text "Failed to create round and ready to reimburse txs")))

/-- `collateral_check`. -/
def collateralCheck : BuildResult Bool := do
  let tx ← okOr (.eyre (.text "Failed to find collateral utxo in chain"))
    (chain.getTxOfTxid library operatorData.collateralFundingOutpoint.txid)
  match tx.output[operatorData.collateralFundingOutpoint.vout.toNat]? with
  | none => return false
  | some output =>
    if output.value ≠ paramset.collateralFundingAmount then return false
    else do
      let address ← liftPanic (createTaprootAddress library [] (some operatorData.xonlyPk))
      if output.scriptPubkey ≠ p2trScriptPubkey address.outputKey then return false
      else if chain.isTxOnChain library operatorData.collateralFundingOutpoint.txid = false then
        return decide (paramset.network ≠ .mainnet)
      else do
        let current ← collateralLoop library chain operatorData keys paramset
          (RoundIndex.iterRounds paramset.numRoundTxs) operatorData.collateralFundingOutpoint none
        match current with
        | none => return false
        | some outpoint => do
            let spent ← chain.isUtxoSpent library outpoint
            return !spent

/-! ## The presigned chain -/

/-- The transactions of the rounds, as `create_round_txhandlers` builds them without a previous
round. -/
def roundPairs : BuildResult (List (TxHandler × TxHandler)) :=
  (range paramset.numRoundTxs).mapM fun index => do
    let _ ← createRoundTxhandlers library paramset (.round index) operatorData keys none
    roundPair library paramset (.round index) operatorData keys none

/-- A transaction of the chain of rounds, with the output that holds the collateral. -/
abbrev CollateralLink : Type := TxHandler × UtxoVout

/-- The chain of rounds: `Round 0`, `ReadyToReimburse 0`, `Round 1`, up to the last round. -/
def collateralLinks : List (TxHandler × TxHandler) → List CollateralLink
  | [] => []
  | [pair] => [(pair.1, .collateralInRound)]
  | pair :: next :: rest =>
    (pair.1, .collateralInRound) :: (pair.2, .collateralInReadyToReimburse) ::
      collateralLinks (next :: rest)

/-- The collateral output of a link. -/
def CollateralLink.outpoint (link : CollateralLink) : OutPoint := link.1.outpoint library link.2

/-- The collateral at the end of a chain. -/
def collateralAfter (funding : OutPoint) (links : List CollateralLink) : OutPoint :=
  (links.getLast?.map (CollateralLink.outpoint library)).getD funding

/-- The collateral at the end of the longest confirmed beginning of a chain. -/
def currentCollateral (funding : OutPoint) (links : List CollateralLink) : OutPoint :=
  collateralAfter library funding
    (links.takeWhile fun link => chain.isTxOnChain library (link.1.getTxid library))

/-- What the check builds for one round, after the collateral in `current`. -/
structure RoundStep (index : Nat) (previous : Option TxHandler) (current : OutPoint)
    (pair : TxHandler × TxHandler) : Prop where
  created : ∃ unspent, createRoundTxhandlers library paramset (.round index) operatorData keys
      previous = .ok (pair.1 :: pair.2 :: unspent) ∧
    ∀ txhandler ∈ unspent, ∃ idx, txhandler.transactionType = .unspentKickoff idx
  round : pair.1.transactionType = .round
  readyToReimburse : pair.2.transactionType = .readyToReimburse
  roundSpends : pair.1.spends = [current]
  readySpends : pair.2.spends = [pair.1.outpoint library .collateralInRound]
  roundOutput : pair.1.txouts ≠ []

/-- The collateral before a round: the funding, or that of the round before. -/
inductive Previous : Nat → Option TxHandler → OutPoint → Prop
  | funding : Previous 0 none operatorData.collateralFundingOutpoint
  | round {index : Nat} {before : TxHandler × TxHandler}
      (built : roundPair library paramset (.round index) operatorData keys none = .ok before) :
      Previous (index + 1) (some before.2) (before.2.outpoint library .collateralInReadyToReimburse)

/-- The rounds from an index on, each with the collateral before it. -/
inductive RoundsFrom : Nat → Option TxHandler → OutPoint → List (TxHandler × TxHandler) → Prop
  | last {index : Nat} {previous : Option TxHandler} {current : OutPoint}
      {pair : TxHandler × TxHandler}
      (step : RoundStep library operatorData keys paramset index previous current pair) :
      RoundsFrom index previous current [pair]
  | cons {index : Nat} {previous : Option TxHandler} {current : OutPoint}
      {pair next : TxHandler × TxHandler} {rest : List (TxHandler × TxHandler)}
      (step : RoundStep library operatorData keys paramset index previous current pair)
      (output : pair.2.txouts ≠ [])
      (later : RoundsFrom (index + 1) (some pair.2)
        (pair.2.outpoint library .collateralInReadyToReimburse) (next :: rest)) :
      RoundsFrom index previous current (pair :: next :: rest)

/-- Each link spends the collateral of the one before it. -/
def Linked : OutPoint → List CollateralLink → Prop
  | _, [] => True
  | current, link :: rest =>
    link.1.spends = [current] ∧ link.1.txouts ≠ [] ∧ link.2.getVout = 0 ∧
      Linked (CollateralLink.outpoint library link) rest

end Check

variable {current : OutPoint} {before after : List CollateralLink} {link : CollateralLink}
  {keys : KickoffWinternitzKeys} {operatorData : OperatorData} {library : BuilderLibrary}
  {chain : NodeChain}

section Links

variable {paramset : ProtocolParamset}

theorem collateralAfter_cons (funding : OutPoint) (link : CollateralLink)
    (rest : List CollateralLink) :
    collateralAfter library funding (link :: rest) =
      collateralAfter library (CollateralLink.outpoint library link) rest := by
  cases rest with
  | nil => rfl
  | cons next rest =>
    simp only [collateralAfter, getLast?_cons_cons]
    rw [getLast?_eq_some_getLast (cons_ne_nil next rest)]
    rfl

theorem currentCollateral_cons (funding : OutPoint) (link : CollateralLink)
    (rest : List CollateralLink) :
    currentCollateral library chain funding (link :: rest) =
      if chain.isTxOnChain library (link.1.getTxid library) = true then
        currentCollateral library chain (CollateralLink.outpoint library link) rest
      else funding := by
  unfold currentCollateral
  rw [takeWhile_cons]
  split_ifs with confirmed
  · rw [collateralAfter_cons]
  · rfl

variable {previous : Option TxHandler} {pair : TxHandler × TxHandler} {index : Nat}

theorem RoundStep.lastOfType
    (step : RoundStep library operatorData keys paramset index previous current pair) :
    ∃ txhandlers, createRoundTxhandlers library paramset (.round index) operatorData keys
        previous = .ok txhandlers ∧ lastOfType .round txhandlers = some pair.1 ∧
      lastOfType .readyToReimburse txhandlers = some pair.2 := by
  obtain ⟨unspent, created, types⟩ := step.created
  have others : ∀ type, (∀ idx, type ≠ .unspentKickoff idx) →
      unspent.reverse.find? (fun txhandler => txhandler.transactionType = type) = none := by
    intro type different
    rw [find?_eq_none]
    intro txhandler member
    obtain ⟨idx, isUnspent⟩ := types txhandler (mem_reverse.mp member)
    simpa [isUnspent] using (different idx).symm
  refine ⟨_, created, ?_, ?_⟩
  · simp [Clementine.lastOfType, find?_append, others .round, step.round, step.readyToReimburse]
  · simp [Clementine.lastOfType, find?_append, others .readyToReimburse, step.readyToReimburse]

theorem txouts_ne_nil {txhandler : TxHandler} {vout : UtxoVout} {spendable : SpendableTxIn}
    (found : txhandler.getSpendableOutput library vout = .ok spendable) :
    txhandler.txouts ≠ [] := by
  obtain ⟨txout, isOutput, -⟩ := (TxHandler.getSpendableOutput_eq_ok library).mp found
  intro empty
  rw [empty] at isOutput
  simp at isOutput

theorem withReadyToReimburse_output {operatorXonlyPk : XOnlyPublicKey} {round : TxHandler}
    (built : withReadyToReimburse library operatorXonlyPk paramset round = .ok pair) :
    pair.1.txouts ≠ [] := by
  obtain ⟨ready, created, finished⟩ := bind_ok_iff.mp built
  cases finished
  simp only [createReadyToReimburseTxhandler, HandlerInput.toSpentTxIn, bind_ok_iff]
    at created
  obtain ⟨_, ⟨_, spendable, _⟩, _⟩ := created
  exact txouts_ne_nil spendable

/-- The round after a collateral is built by the check as it is built alone. -/
theorem Previous.step (before : Previous library operatorData keys paramset index previous current)
    {txhandlers : List TxHandler}
    (built : roundPair library paramset (.round index) operatorData keys none = .ok pair)
    (created : createRoundTxhandlers library paramset (.round index) operatorData keys none =
      .ok txhandlers) :
    RoundStep library operatorData keys paramset index previous current pair ∧
      ∀ readyToReimburse, previous = some readyToReimburse → readyToReimburse.txouts ≠ [] := by
  obtain ⟨same, isBuilt, unspent, unspentBuilt, finished⟩ :
      ∃ same, roundPair library paramset (.round index) operatorData keys none = .ok same ∧
        ∃ unspent, createUnspentKickoffTxhandlers library same.1 same.2 paramset = .ok unspent ∧
          txhandlers = same.1 :: same.2 :: unspent := by
    simp only [createRoundTxhandlers, bind_ok_iff] at created
    obtain ⟨same, isBuilt, unspent, unspentBuilt, finished⟩ := created
    exact ⟨same, isBuilt, unspent, unspentBuilt, (Except.ok.inj finished).symm⟩
  cases built.symm.trans isBuilt
  have types : ∀ txhandler ∈ unspent, ∃ idx, txhandler.transactionType = .unspentKickoff idx :=
    fun txhandler member => createUnspentKickoffTxhandlers_type unspentBuilt member
  obtain ⟨roundType, readyType, readySpends⟩ := createRoundNthTxhandler_shapes built
  cases before with
  | funding =>
    have first := createRoundNthTxhandler_zero.mp built
    simp only [firstRoundTxhandlers, bind_ok_iff] at first
    obtain ⟨_, _, round, roundBuilt, paired⟩ := first
    have output := withReadyToReimburse_output paired
    obtain ⟨rfl, -⟩ := withReadyToReimburse_eq_ok paired
    have spends := (createRoundTxhandler_shape roundBuilt).2
    refine ⟨⟨⟨unspent, finished ▸ created, types⟩, roundType, readyType, spends, readySpends,
      output⟩, ?_⟩
    intro _ impossible
    cases impossible
  | round beforeBuilt =>
    obtain ⟨_, _, isBefore, next⟩ := createRoundNthTxhandler_succ.mp built
    cases beforeBuilt.symm.trans isBefore
    obtain ⟨_, roundBuilt, paired⟩ := bind_ok_iff.mp next
    have output := withReadyToReimburse_output paired
    obtain ⟨rfl, -⟩ := withReadyToReimburse_eq_ok paired
    have spends := (roundAfter_shape roundBuilt).2
    simp only [roundAfter, bind_ok_iff] at roundBuilt
    obtain ⟨_, prevout, -⟩ := roundBuilt
    refine ⟨⟨⟨unspent, ?_, types⟩, roundType, readyType, spends, readySpends, output⟩, ?_⟩
    · simp only [createRoundTxhandlers, roundPair, errorIf, reduceCtorEq,
        RoundIndex.round.injEq, Nat.succ_ne_zero, or_self, if_false, next, bind, Except.bind,
        unspentBuilt]
      rfl
    · rintro ready ⟨⟩
      exact txouts_ne_nil prevout

variable {pairs : List (TxHandler × TxHandler)}

/-- The rounds are built one after another. -/
theorem Previous.roundsFrom (some : pairs ≠ [])
    (before : Previous library operatorData keys paramset index previous current)
    (built : ∀ offset pair, pairs[offset]? = Option.some pair →
      roundPair library paramset (.round (index + offset)) operatorData keys none = .ok pair ∧
        ∃ txhandlers, createRoundTxhandlers library paramset (.round (index + offset)) operatorData
          keys none = .ok txhandlers) :
    RoundsFrom library operatorData keys paramset index previous current pairs := by
  induction pairs generalizing index previous current with
  | nil => exact absurd rfl some
  | cons pair rest ih =>
    obtain ⟨pairBuilt, txhandlers, created⟩ := built 0 pair rfl
    have step := (before.step pairBuilt created).1
    cases rest with
    | nil => exact .last step
    | cons next rest =>
      have later : Previous library operatorData keys paramset (index + 1)
          (Option.some pair.2) (pair.2.outpoint library .collateralInReadyToReimburse) :=
        .round pairBuilt
      obtain ⟨nextBuilt, others, nextCreated⟩ := built 1 next rfl
      have output := (later.step nextBuilt nextCreated).2 pair.2 rfl
      refine .cons step output (ih (cons_ne_nil _ _) later ?_)
      intro offset other isOther
      have shifted := built (offset + 1) other isOther
      rwa [show index + (offset + 1) = index + 1 + offset by omega] at shifted

/-- The rounds of the parameters are built one after another. -/
theorem roundsFrom_of_roundPairs {rounds : List (TxHandler × TxHandler)}
    (positive : 1 ≤ paramset.numRoundTxs)
    (built : roundPairs library operatorData keys paramset = .ok rounds) :
    rounds.length = paramset.numRoundTxs ∧
      RoundsFrom library operatorData keys paramset 0 none operatorData.collateralFundingOutpoint
        rounds := by
  have length : rounds.length = paramset.numRoundTxs := by
    rw [length_mapM_ok built, length_range]
  refine ⟨length, Previous.roundsFrom ?_ .funding ?_⟩
  · intro empty
    rw [empty] at length
    exact absurd length.symm (by rw [length_nil]; omega)
  · intro offset pair isPair
    have inside : offset < paramset.numRoundTxs := by
      rw [← length]
      exact (List.getElem?_eq_some_iff.mp isPair).1
    obtain ⟨same, isSame, pairBuilt⟩ := getElem?_mapM_ok built (getElem?_range inside)
    cases isPair.symm.trans isSame
    obtain ⟨txhandlers, created, roundBuilt⟩ := bind_ok_iff.mp pairBuilt
    rw [Nat.zero_add]
    exact ⟨roundBuilt, txhandlers, created⟩

theorem Linked.of_mem {links : List CollateralLink} (linked : Linked library current links)
    (member : link ∈ links) :
    link.1.txouts ≠ [] ∧ link.2.getVout = 0 := by
  induction links generalizing current with
  | nil => exact absurd member not_mem_nil
  | cons first rest ih =>
    obtain ⟨-, output, zero, later⟩ := linked
    rcases mem_cons.mp member with rfl | isRest
    · exact ⟨output, zero⟩
    · exact ih later isRest

theorem Linked.append_iff :
    Linked library current (before ++ after) ↔ Linked library current before ∧
        Linked library (collateralAfter library current before) after := by
  induction before generalizing current with
  | nil => exact ⟨fun linked => ⟨trivial, linked⟩, fun linked => linked.2⟩
  | cons first rest ih =>
    simp only [cons_append, Linked, ih, collateralAfter_cons, and_assoc]

theorem RoundsFrom.linked
    (rounds : RoundsFrom library operatorData keys paramset index previous current pairs) :
    Linked library current (collateralLinks pairs) := by
  induction rounds with
  | last step => exact ⟨step.roundSpends, step.roundOutput, rfl, trivial⟩
  | cons step output _ ih =>
    exact ⟨step.roundSpends, step.roundOutput, rfl, step.readySpends, output, rfl, ih⟩

/-- The loop ends at the collateral of the longest confirmed beginning. -/
theorem RoundsFrom.collateralLoop_eq
    (rounds : RoundsFrom library operatorData keys paramset index previous current pairs)
    (count : index + pairs.length = paramset.numRoundTxs)
    (started : ∀ link ∈ collateralLinks pairs, link.2 = .collateralInRound →
      chain.isTxOnChain library (link.1.getTxid library) = true →
        paramset.startHeight.toNat ≤ chain.height (link.1.getTxid library)) :
    collateralLoop library chain operatorData keys paramset
        ((range' index pairs.length).map .round) current previous =
      .ok (some (currentCollateral library chain current (collateralLinks pairs))) := by
  induction rounds with
  | @last index previous current pair step =>
    obtain ⟨txhandlers, created, isRound, isReady⟩ := step.lastOfType
    have lastRound : RoundIndex.round index = .round (paramset.numRoundTxs - 1) := by
      rw [← count, length_singleton, Nat.add_sub_cancel]
    have height := started (pair.1, .collateralInRound) mem_cons_self rfl
    simp only [length_singleton, range'_one, map_cons, map_nil,
      collateralLoop, created, bind, Except.bind, isRound, isReady, collateralLinks,
      currentCollateral_cons]
    by_cases confirmed : chain.isTxOnChain library (pair.1.getTxid library) = true
    · rw [if_neg (by rw [confirmed]; decide), if_neg (Nat.not_lt.mpr (height confirmed)),
        if_pos lastRound, if_pos confirmed]
      rfl
    · rw [if_pos (Bool.eq_false_iff.mpr confirmed), if_neg confirmed]
      rfl
  | @cons index previous current pair next rest step output later ih =>
    obtain ⟨txhandlers, created, isRound, isReady⟩ := step.lastOfType
    have notLast : RoundIndex.round index ≠ .round (paramset.numRoundTxs - 1) := by
      rw [← count]
      simp only [length_cons, ne_eq, RoundIndex.round.injEq]
      omega
    have height := started (pair.1, .collateralInRound) mem_cons_self rfl
    have rest := ih (by rw [← count]; simp only [length_cons]; omega) fun link member =>
      started link (mem_cons_of_mem _ (mem_cons_of_mem _ member))
    rw [length_cons, range'_succ, map_cons]
    simp only [collateralLoop, created, bind, Except.bind, isRound, isReady, collateralLinks,
      currentCollateral_cons]
    by_cases confirmed : chain.isTxOnChain library (pair.1.getTxid library) = true
    · rw [if_neg (by rw [confirmed]; decide), if_neg (Nat.not_lt.mpr (height confirmed)),
        if_neg notLast, if_pos confirmed]
      by_cases readyConfirmed : chain.isTxOnChain library (pair.2.getTxid library) = true
      · rw [if_neg (by rw [readyConfirmed]; decide), if_pos readyConfirmed]
        exact rest
      · rw [if_pos (Bool.eq_false_iff.mpr readyConfirmed), if_neg readyConfirmed]
        rfl
    · rw [if_pos (Bool.eq_false_iff.mpr confirmed), if_neg confirmed]
      rfl

end Links

/-! ## Exactness -/

/-- An operator and a chain: the funding of the collateral is confirmed with the right amount and
script, rounds are confirmed from the start height on, and an id belongs to one transaction. -/
structure CollateralSetting (library : BuilderLibrary) (chain : NodeChain)
    (operatorData : OperatorData) (keys : KickoffWinternitzKeys)
    (paramset : ProtocolParamset) where
  rounds : List (TxHandler × TxHandler)
  built : roundPairs library operatorData keys paramset = .ok rounds
  valid : chain.Valid library
  identified : ∀ tx ∈ chain.txs, ∀ link ∈ collateralLinks rounds,
    library.computeTxid tx = link.1.getTxid library →
      tx.spends = link.1.spends ∧ tx.output = link.1.getCachedTx.output
  started : ∀ link ∈ collateralLinks rounds, link.2 = .collateralInRound →
    chain.isTxOnChain library (link.1.getTxid library) = true →
      paramset.startHeight.toNat ≤ chain.height (link.1.getTxid library)
  funding : CircuitTransaction
  found : chain.getTxOfTxid library operatorData.collateralFundingOutpoint.txid = some funding
  address : TaprootSpendInfo
  addressBuilt : createTaprootAddress library [] (some operatorData.xonlyPk) = .ok address
  output : funding.output[operatorData.collateralFundingOutpoint.vout.toNat]? =
    some ⟨paramset.collateralFundingAmount, p2trScriptPubkey address.outputKey⟩
  notNull : operatorData.collateralFundingOutpoint ≠ .null

namespace CollateralSetting

variable {paramset : ProtocolParamset}
  (setting : CollateralSetting library chain operatorData keys paramset)

/-- The links of the chain of rounds. -/
def links : List CollateralLink := collateralLinks setting.rounds

/-- A link is confirmed. -/
def Confirmed (_ : CollateralSetting library chain operatorData keys paramset)
    (link : CollateralLink) : Prop :=
  chain.isTxOnChain library (link.1.getTxid library) = true

theorem funding_found : setting.funding ∈ chain.txs ∧
    library.computeTxid setting.funding = operatorData.collateralFundingOutpoint.txid := by
  have found := setting.found
  unfold NodeChain.getTxOfTxid at found
  exact ⟨mem_of_find?_eq_some found, by simpa using find?_some found⟩

theorem exists_tx (member : link ∈ setting.links) (confirmed : setting.Confirmed link) :
    ∃ tx ∈ chain.txs, library.computeTxid tx = link.1.getTxid library ∧
      tx.spends = link.1.spends ∧ tx.output = link.1.getCachedTx.output := by
  obtain ⟨tx, isTx, txid⟩ := any_eq_true.mp confirmed
  have same := of_decide_eq_true txid
  exact ⟨tx, isTx, same, setting.identified tx isTx link member same⟩

theorem outpoint_ne_null (zero : link.2.getVout = 0) :
    CollateralLink.outpoint library link ≠ .null := by
  intro same
  have vout : link.2.getVout = 0xFFFFFFFF := congrArg OutPoint.vout same
  rw [zero] at vout
  exact absurd vout (by decide)

/-- All links before a confirmed one are confirmed. -/
theorem confirmed_before (members : ∀ other ∈ before ++ link :: after, other ∈ setting.links)
    (linked : Linked library current (before ++ link :: after))
    (confirmed : setting.Confirmed link) :
    ∀ other ∈ before, setting.Confirmed other := by
  induction before generalizing current with
  | nil => exact fun _ member => absurd member not_mem_nil
  | cons first rest ih =>
    obtain ⟨-, -, zero, later⟩ := linked
    have restConfirmed := ih (fun other member => members other (mem_cons_of_mem _ member)) later
    -- the link after the first one is confirmed and spends its collateral
    obtain ⟨next, isNext, spends, nextConfirmed⟩ : ∃ next ∈ setting.links,
        next.1.spends = [CollateralLink.outpoint library first] ∧ setting.Confirmed next := by
      cases rest with
      | nil => exact ⟨link, members link (by simp), later.1, confirmed⟩
      | cons next rest =>
        exact ⟨next, members next (by simp), later.1, restConfirmed next mem_cons_self⟩
    obtain ⟨tx, isTx, -, txSpends, -⟩ := setting.exists_tx isNext nextConfirmed
    have firstConfirmed : setting.Confirmed first :=
      setting.valid.closed tx isTx (CollateralLink.outpoint library first)
        (by rw [txSpends, spends]; exact mem_singleton_self _) (outpoint_ne_null zero)
    intro other member
    rcases mem_cons.mp member with rfl | isRest
    · exact firstConfirmed
    · exact restConfirmed other isRest

variable {tx : CircuitTransaction}

/-- `is_utxo_spent` of an output that exists. -/
theorem isUtxoSpent_eq {outpoint : OutPoint} (member : tx ∈ chain.txs)
    (txid : library.computeTxid tx = outpoint.txid)
    (inside : outpoint.vout.toNat < tx.output.length) :
    chain.isUtxoSpent library outpoint = .ok (chain.isSpent outpoint) := by
  have confirmed : chain.isTxOnChain library outpoint.txid = true :=
    any_eq_true.mpr ⟨tx, member, decide_eq_true txid⟩
  have exists_output : (chain.txs.any fun tx => library.computeTxid tx = outpoint.txid ∧
      outpoint.vout.toNat < tx.output.length) = true :=
    any_eq_true.mpr ⟨tx, member, decide_eq_true ⟨txid, inside⟩⟩
  simp only [NodeChain.isUtxoSpent, errorIf, confirmed, Bool.true_eq_false, if_false,
    NodeChain.getTxOut, exists_output, Bool.true_and, Bool.not_not]
  rfl

/-- The collateral that the walk ends at is an output of the chain. -/
theorem isUtxoSpent_current (linked : Linked library operatorData.collateralFundingOutpoint
      setting.links) :
    chain.isUtxoSpent library (currentCollateral library chain
        operatorData.collateralFundingOutpoint setting.links) =
      .ok (chain.isSpent (currentCollateral library chain
        operatorData.collateralFundingOutpoint setting.links)) := by
  unfold currentCollateral collateralAfter
  cases last : (setting.links.takeWhile fun link =>
      chain.isTxOnChain library (link.1.getTxid library)).getLast? with
  | none =>
    exact isUtxoSpent_eq setting.funding_found.1 setting.funding_found.2
      (List.getElem?_eq_some_iff.mp setting.output).1
  | some link =>
    have inBeginning := mem_of_getLast? last
    have member := (takeWhile_sublist _).subset inBeginning
    have confirmed : setting.Confirmed link :=
      all_eq_true.mp all_takeWhile link inBeginning
    obtain ⟨tx, isTx, txid, -, output⟩ := setting.exists_tx member confirmed
    obtain ⟨nonempty, zero⟩ := Linked.of_mem linked member
    refine isUtxoSpent_eq isTx txid ?_
    have vout : (CollateralLink.outpoint library link).vout = 0 := zero
    rw [Option.map_some, Option.getD_some, vout, output]
    simpa [TxHandler.getCachedTx] using length_pos_iff.mpr nonempty

/-- The value of the check. -/
theorem collateralCheck_eq (positive : 1 ≤ paramset.numRoundTxs) :
    collateralCheck library chain operatorData keys paramset =
      .ok (!chain.isSpent (currentCollateral library chain
        operatorData.collateralFundingOutpoint setting.links)) := by
  obtain ⟨length, rounds⟩ := roundsFrom_of_roundPairs positive setting.built
  have loop := rounds.collateralLoop_eq (by rw [Nat.zero_add, length]) setting.started
  rw [length] at loop
  have confirmed : chain.isTxOnChain library operatorData.collateralFundingOutpoint.txid = true :=
    any_eq_true.mpr
      ⟨setting.funding, setting.funding_found.1, decide_eq_true setting.funding_found.2⟩
  have walked : collateralLoop library chain operatorData keys paramset
      (RoundIndex.iterRounds paramset.numRoundTxs) operatorData.collateralFundingOutpoint none =
        .ok (some (currentCollateral library chain operatorData.collateralFundingOutpoint
          setting.links)) := loop
  simp only [collateralCheck, setting.found, okOr, bind, Except.bind, setting.output, ne_eq,
    not_true_eq_false, if_false, setting.addressBuilt, liftPanic, confirmed, Bool.true_eq_false,
    walked, setting.isUtxoSpent_current rounds.linked]
  rfl

/-- A spend of a collateral output by anything but the next link ends the walk at that output. -/
theorem currentCollateral_of_spent (positive : 1 ≤ paramset.numRoundTxs)
    (split : setting.links = before ++ after) (isTx : tx ∈ chain.txs)
    (spends : collateralAfter library operatorData.collateralFundingOutpoint before ∈ tx.spends)
    (outside : ∀ next ∈ after.head?, library.computeTxid tx ≠ next.1.getTxid library) :
    currentCollateral library chain operatorData.collateralFundingOutpoint setting.links =
      collateralAfter library operatorData.collateralFundingOutpoint before := by
  have linked : Linked library operatorData.collateralFundingOutpoint (before ++ after) :=
    split ▸ (roundsFrom_of_roundPairs positive setting.built).2.linked
  have members : ∀ link ∈ before ++ after, link ∈ setting.links := fun link member =>
    split ▸ member
  have notNull : collateralAfter library operatorData.collateralFundingOutpoint before ≠ .null ∧
      ∀ link ∈ before, setting.Confirmed link := by
    rcases before.eq_nil_or_concat with rfl | ⟨init, last, rfl⟩
    · exact ⟨setting.notNull, fun _ member => absurd member not_mem_nil⟩
    · rw [concat_eq_append] at *
      have ends : collateralAfter library operatorData.collateralFundingOutpoint
          (init ++ [last]) = CollateralLink.outpoint library last := by
        simp [collateralAfter]
      have lastMember : last ∈ init ++ [last] ++ after := by simp
      have zero := (linked.of_mem lastMember).2
      rw [ends] at spends ⊢
      have confirmed : setting.Confirmed last :=
        setting.valid.closed tx isTx _ spends (outpoint_ne_null zero)
      rw [append_assoc] at linked members
      have earlier := setting.confirmed_before members linked confirmed
      refine ⟨outpoint_ne_null zero, fun link member => ?_⟩
      rcases mem_append.mp member with inInit | isLast
      · exact earlier link inInit
      · rw [mem_singleton.mp isLast]
        exact confirmed
  have stops : after.takeWhile (fun link =>
      chain.isTxOnChain library (link.1.getTxid library)) = [] := by
    cases after with
    | nil => rfl
    | cons next rest =>
      refine takeWhile_cons_of_neg ?_
      intro nextConfirmed
      -- the next link would spend the same output
      obtain ⟨other, isOther, txid, otherSpends, -⟩ :=
        setting.exists_tx (members next (by simp)) nextConfirmed
      have nextSpends := (Linked.append_iff.mp linked).2.1
      have same := setting.valid.single tx isTx other isOther _ spends
        (by rw [otherSpends, nextSpends]; exact mem_singleton_self _) notNull.1
      exact outside next rfl (same ▸ txid)
  rw [currentCollateral, split, takeWhile_append_of_pos notNull.2, stops, append_nil]

end CollateralSetting

/-- The check is exact: it answers whether the collateral at the end of the longest confirmed
beginning of the chain of rounds is unspent.  It answers no if a confirmed transaction spends the
collateral of the funding or of a link without being the next link, or after the last round. -/
theorem collateralCheck_exact (library : BuilderLibrary) (chain : NodeChain)
    (operatorData : OperatorData) (keys : KickoffWinternitzKeys) (paramset : ProtocolParamset)
    (positive : 1 ≤ paramset.numRoundTxs)
    (setting : CollateralSetting library chain operatorData keys paramset) :
    (collateralCheck library chain operatorData keys paramset = .ok true ↔
        chain.isSpent (currentCollateral library chain operatorData.collateralFundingOutpoint
          (collateralLinks setting.rounds)) = false) ∧
      ∀ before after, collateralLinks setting.rounds = before ++ after → ∀ tx ∈ chain.txs,
        collateralAfter library operatorData.collateralFundingOutpoint before ∈ tx.spends →
          (∀ next ∈ after.head?, library.computeTxid tx ≠ next.1.getTxid library) →
            collateralCheck library chain operatorData keys paramset = .ok false := by
  have value := setting.collateralCheck_eq positive
  refine ⟨?_, ?_⟩
  · rw [value, Except.ok.injEq, Bool.not_eq_true']
    rfl
  · intro before after split tx isTx spends outside
    have current := setting.currentCollateral_of_spent positive split isTx spends outside
    have spent : chain.isSpent (collateralAfter library operatorData.collateralFundingOutpoint
        before) = true := any_eq_true.mpr ⟨tx, isTx, decide_eq_true spends⟩
    rw [value, current, spent]
    rfl

namespace Regtest

/-- A coinbase transaction that funds the operator. -/
def fundingTx : CircuitTransaction where
  version := 2
  lockTime := 0
  input := [⟨.null, [], 0xFFFFFFFF, []⟩]
  output := [⟨99000000, p2trScriptPubkey operatorXonlyPk⟩]

/-- The operator with that funding. -/
def fundedOperator : OperatorData where
  xonlyPk := operatorXonlyPk
  reimburseAddr := p2trScriptPubkey operatorXonlyPk
  collateralFundingOutpoint := ⟨operatorLibrary.computeTxid fundingTx, 0⟩

/-- The keys of the operator for one kickoff in each round. -/
def fundedKeys : KickoffWinternitzKeys where
  keys := replicate 3 []
  numKickoffsPerRound := 1
  numRounds := 2

/-- The first round of the operator, if it can be built. -/
def firstRoundTx : List CircuitTransaction :=
  match roundPairs operatorLibrary fundedOperator fundedKeys paramset with
  | .ok (pair :: _) => [pair.1.getCachedTx]
  | _ => []

/-- A transaction that is not presigned and spends the collateral of the first round. -/
def burnTx : CircuitTransaction where
  version := 2
  lockTime := 0
  input := firstRoundTx.map fun tx => ⟨⟨operatorLibrary.computeTxid tx, 0⟩, [], 0xFFFFFFFF, []⟩
  output := [Recorded.anchorOutput]

/-- A chain with the funding and the first round, whose collateral may be burnt. -/
def fundedChain (burnt : Bool) : NodeChain :=
  ⟨fundingTx :: firstRoundTx ++ (if burnt then [burnTx] else []), fun _ => 190⟩

/-- Of the links of the operator's rounds only the first is confirmed, by its transaction, and the
collateral of that one is burnt. -/
theorem firstRound_confirmed :
    (match roundPairs operatorLibrary fundedOperator fundedKeys paramset with
      | .ok rounds => decide (
          (collateralLinks rounds).map (fun link => (fundedChain true).isTxOnChain operatorLibrary
            (link.1.getTxid operatorLibrary)) = [true, false, false] ∧
          (∀ link ∈ (collateralLinks rounds).head?,
            CollateralLink.outpoint operatorLibrary link ∈ burnTx.spends) ∧
          ∀ burnt, ∀ tx ∈ (fundedChain burnt).txs, ∀ link ∈ collateralLinks rounds,
            operatorLibrary.computeTxid tx = link.1.getTxid operatorLibrary →
              tx.spends = link.1.spends ∧ tx.output = link.1.getCachedTx.output)
      | .error _ => false) = true := by
  decide +kernel

end Regtest

open Regtest

/-- The operator is in the protocol until the collateral of its first round is burnt. -/
theorem collateralCheck_exact_burnt :
    ∃ rounds, roundPairs operatorLibrary fundedOperator fundedKeys paramset = .ok rounds ∧
      (collateralLinks rounds).map (fun link => (fundedChain true).isTxOnChain operatorLibrary
        (link.1.getTxid operatorLibrary)) = [true, false, false] ∧
      (fundedChain false).isSpent (currentCollateral operatorLibrary (fundedChain false)
        fundedOperator.collateralFundingOutpoint (collateralLinks rounds)) = false ∧
      collateralCheck operatorLibrary (fundedChain true) fundedOperator fundedKeys paramset =
        .ok false := by
  have confirmed := firstRound_confirmed
  cases built : roundPairs operatorLibrary fundedOperator fundedKeys paramset with
  | error failure =>
    rw [built] at confirmed
    cases confirmed
  | ok rounds =>
    rw [built, decide_eq_true_eq] at confirmed
    obtain ⟨first, burns, identified⟩ := confirmed
    let setting (burnt : Bool) : CollateralSetting operatorLibrary (fundedChain burnt)
        fundedOperator fundedKeys paramset := {
      rounds
      built
      valid := ⟨by revert burnt; decide +kernel, by revert burnt; decide +kernel⟩
      identified := identified burnt
      started := fun _ _ _ _ => Nat.le_refl 190
      funding := fundingTx
      found := by revert burnt; decide +kernel
      address := ⟨none, operatorXonlyPk⟩
      addressBuilt := by decide +kernel
      output := by decide +kernel
      notNull := by decide +kernel }
    have passes : collateralCheck operatorLibrary (fundedChain false) fundedOperator fundedKeys
        paramset = .ok true := by decide +kernel
    refine ⟨rounds, rfl, first,
      (collateralCheck_exact _ _ _ _ _ (by decide) (setting false)).1.mp passes, ?_⟩
    cases links : collateralLinks rounds with
    | nil => simp [links] at first
    | cons link rest =>
      rw [links, map_cons, cons.injEq] at first
      refine (collateralCheck_exact _ _ _ _ _ (by decide) (setting true)).2 [link] rest links
        burnTx (by simp [fundedChain]) (burns link (by rw [links]; rfl)) ?_
      -- a next link with the id of the burning transaction would be confirmed
      intro next isNext same
      have unconfirmed := first.2
      cases rest with
      | nil => cases isNext
      | cons other rest =>
        cases isNext
        rw [map_cons, cons.injEq] at unconfirmed
        have onChain : (fundedChain true).isTxOnChain operatorLibrary
            (next.1.getTxid operatorLibrary) = true :=
          any_eq_true.mpr ⟨burnTx, by simp [fundedChain], decide_eq_true same⟩
        rw [unconfirmed.1] at onChain
        cases onChain

end Clementine
