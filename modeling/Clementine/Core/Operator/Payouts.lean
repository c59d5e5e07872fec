import Clementine.Core.Builder.Creator
import Clementine.Core.Builder.Taproot

/-!
# Payouts and rounds of an operator

An operator that fronted a withdrawal gets its money back through a kickoff.
`handle_finalized_payout` assigns a kickoff connector to the deposit, `end_round` burns the
connectors of the round that are left over and queues the next round, and the payout checker
does both for every payout.  Each call works in one database transaction that is committed or
rolled back.

The tables that the calls read but do not change, the signer and the RPC are part of
`Operator`; the tables that they change are part of `OperatorState`.
-/

namespace Clementine

open Option

/-- Errors of the operator's calls; those with parameters stand for a text that shows them. -/
inductive OperatorError where
  | bridge (error : BridgeError)
  /-- `DatabaseError(RowNotFound)`. -/
  | rowNotFound
  /-- Internal error: expected the current round to be equal to or 1 less than the round of the
  first available kickoff for deposit reimbursement. -/
  | roundMismatch (current found : RoundIndex) (deposit : OutPoint)
  /-- Fronted withdrawal for move tx found, but the signatures for the deposit are not found in
  the db. -/
  | signaturesNotFound (moveToVaultTxid : Txid)
  deriving DecidableEq

abbrev OperatorResult (α : Type) := Except (Failure OperatorError) α

/-- A call of the transaction builder. -/
def liftBridge {α : Type} : BuildResult α → OperatorResult α
  | .ok value => .ok value
  | .error (.panic panic) => .error (.panic panic)
  | .error (.error error) => .error (.error (.bridge error))

@[simp] theorem liftBridge_eq_ok {α : Type} {result : BuildResult α} {value : α} :
    liftBridge result = .ok value ↔ result = .ok value := by
  rcases result with (panic | error) | value <;> simp [liftBridge]

/-- A row of `deposit_signatures`, without the signatures. -/
structure SignedKickoff where
  depositId : Nat
  operatorXonlyPk : XOnlyPublicKey
  roundIdx : RoundIndex
  kickoffIdx : UInt32
  deriving DecidableEq

/-- A row of `used_kickoff_connectors`. -/
structure UsedKickoffConnector where
  roundIdx : RoundIndex
  kickoffConnectorIdx : UInt32
  kickoffTxid : Option Txid
  deriving DecidableEq

/-- A row of `withdrawals`, as far as it is read. -/
structure Withdrawal where
  idx : Nat
  moveToVaultTxid : Txid
  payoutTxid : Option Txid
  payoutPayerOperatorXonlyPk : Option XOnlyPublicKey
  payoutTxBlockhash : Option Bytes32
  isPayoutHandled : Bool
  kickoffTxid : Option Txid
  deriving DecidableEq

/-- `TxMetadata`. -/
structure TxMetadata where
  txType : TransactionType
  operatorXonlyPk : Option XOnlyPublicKey
  roundIdx : Option RoundIndex
  kickoffIdx : Option UInt32
  depositOutpoint : Option OutPoint
  deriving DecidableEq

/-- A transaction in the queue of the tx sender, with the transactions and block heights that
activate it. -/
structure QueuedTx where
  metadata : TxMetadata
  tx : CircuitTransaction
  activatedWith : List (Txid × UInt32)

/-- A connector that a committed call used, and what for. -/
structure Assignment where
  depositOutpoint : OutPoint
  roundIdx : RoundIndex
  kickoffIdx : UInt32
  payoutTxBlockhash : Bytes32
  kickoffTxid : Txid

/-- What the calls of an operator read and do not change. -/
structure Operator where
  library : BuilderLibrary
  paramset : ProtocolParamset
  xonlyPublicKey : XOnlyPublicKey
  /-- The script of the signer's address. -/
  address : ScriptBuf
  collateralFundingOutpoint : OutPoint
  kickoffWinternitzPublicKeys : List WinternitzPublicKey
  depositData : OutPoint → Option (Nat × DepositData)
  depositDataWithMoveTx : Txid → Option DepositData
  depositSignatures : List SignedKickoff
  blockHeight : Bytes32 → Option Nat
  fetchValidateAndStoreLcp : Nat → Nat → BuildResult Unit
  /-- `tx_sign_and_fill_sigs`: the witnesses that it fills in. -/
  txSignAndFillSigs : TxHandler → BuildResult (List (List (List UInt8)))
  createAndSignTxs : ContractContext → Option (Vector UInt8 20) →
    BuildResult (List (TransactionType × CircuitTransaction))

/-- What the calls of an operator change. -/
structure OperatorState where
  currentRoundIndex : RoundIndex
  usedRows : List UsedKickoffConnector
  withdrawals : List Withdrawal
  queue : List QueuedTx
  /-- The calls of `handle_finalized_payout` that were committed. -/
  assignments : List Assignment

namespace OperatorState

/-- The tables as the schema sets them up. -/
def new (withdrawals : List Withdrawal) : OperatorState where
  currentRoundIndex := .collateral
  usedRows := []
  withdrawals
  queue := []
  assignments := []

/-- The kickoff of the row with a primary key in `used_kickoff_connectors`. -/
def usedKickoffConnectors (self : OperatorState) (roundIdx : RoundIndex)
    (kickoffConnectorIdx : UInt32) : Option (Option Txid) :=
  (self.usedRows.find? fun row =>
    row.roundIdx = roundIdx ∧ row.kickoffConnectorIdx = kickoffConnectorIdx).map
      UsedKickoffConnector.kickoffTxid

/-- `mark_kickoff_connector_as_used`: a row that is there stays. -/
def markKickoffConnectorAsUsed (self : OperatorState) (roundIdx : RoundIndex)
    (kickoffConnectorIdx : UInt32) (kickoffTxid : Option Txid) : OperatorState :=
  { self with
    usedRows := if (self.usedKickoffConnectors roundIdx kickoffConnectorIdx).isSome then
        self.usedRows
      else
        self.usedRows ++ [⟨roundIdx, kickoffConnectorIdx, kickoffTxid⟩] }

/-- `get_kickoff_txid_for_used_kickoff_connector`. -/
def getKickoffTxidForUsedKickoffConnector (self : OperatorState) (roundIdx : RoundIndex)
    (kickoffConnectorIdx : UInt32) : Option Txid :=
  (self.usedKickoffConnectors roundIdx kickoffConnectorIdx).join

/-- `insert_try_to_send` and `add_tx_to_queue`. -/
def insertTryToSend (self : OperatorState) (tx : QueuedTx) : OperatorState :=
  { self with queue := self.queue ++ [tx] }

/-- `mark_payout_handled`. -/
def markPayoutHandled (self : OperatorState) (citreaIdx : Nat) (kickoffTxid : Txid) :
    OperatorState :=
  { self with
    withdrawals := self.withdrawals.map fun row =>
      if row.idx = citreaIdx then
        { row with isPayoutHandled := true, kickoffTxid := some kickoffTxid }
      else
        row }

end OperatorState

namespace Operator

variable (self : Operator)

/-- The rows that `get_unused_and_signed_kickoff_connector` may return: those of the deposit
and this operator from the current round on whose connector is not used, of the first such
round. -/
def firstUnusedKickoffs (state : OperatorState) (depositId : Nat) : List SignedKickoff :=
  let rows := self.depositSignatures.filter fun row =>
    row.depositId = depositId ∧ row.operatorXonlyPk = self.xonlyPublicKey ∧
      state.currentRoundIndex.toIndex ≤ row.roundIdx.toIndex ∧
      state.usedKickoffConnectors row.roundIdx row.kickoffIdx = none
  rows.filter fun row => ∀ other ∈ rows, row.roundIdx.toIndex ≤ other.roundIdx.toIndex

/-- `get_unused_and_signed_kickoff_connector`; `pick` chooses among equally ranked rows. -/
def getUnusedAndSignedKickoffConnector (state : OperatorState) (depositId pick : Nat) :
    Option (RoundIndex × UInt32) :=
  let rows := self.firstUnusedKickoffs state depositId
  (rows[pick % rows.length]?).map fun row => (row.roundIdx, row.kickoffIdx)

/-- A transaction of this operator that belongs to no kickoff. -/
def roundMetadata (txType : TransactionType) (roundIdx : RoundIndex) : TxMetadata where
  txType
  operatorXonlyPk := some self.xonlyPublicKey
  roundIdx := some roundIdx
  kickoffIdx := none
  depositOutpoint := none

/-- `tx_sign_and_fill_sigs` and `get_cached_tx`: the transaction with its witnesses. -/
def signedTx (txhandler : TxHandler) : OperatorResult CircuitTransaction := do
  let witnesses ← liftBridge (self.txSignAndFillSigs txhandler)
  let tx := txhandler.getCachedTx
  return { tx with
    input := tx.input.mapIdx fun index txin => { txin with witness := witnesses[index]?.getD [] } }

/-- `create_round_nth_txhandler` for this operator. -/
def roundTxhandlers (kickoffWpks : KickoffWinternitzKeys) (roundIdx : RoundIndex) :
    OperatorResult (TxHandler × TxHandler) :=
  liftBridge (createRoundNthTxhandler self.library self.xonlyPublicKey
    self.collateralFundingOutpoint self.paramset.collateralFundingAmount roundIdx kickoffWpks
    self.paramset)

/-- `start_first_round`. -/
def startFirstRound (state : OperatorState) (kickoffWpks : KickoffWinternitzKeys) :
    OperatorResult OperatorState := do
  let firstRound ← self.roundTxhandlers kickoffWpks (.round 0)
  let tx ← self.signedTx firstRound.1
  let queued := state.insertTryToSend
    { metadata := { self.roundMetadata .round (.round 0) with operatorXonlyPk := none }
      tx
      activatedWith := [] }
  return { queued with currentRoundIndex := .round 0 }

/-- One turn of the loop of `end_round`: a connector without a kickoff is collected and
marked. -/
def collectUnspent (roundIdx : RoundIndex) (unspent : List Nat × OperatorState)
    (kickoffConnectorIdx : Nat) : List Nat × OperatorState :=
  match unspent.2.getKickoffTxidForUsedKickoffConnector roundIdx
      (UInt32.ofNat kickoffConnectorIdx) with
  | some _ => unspent
  | none =>
    (unspent.1 ++ [kickoffConnectorIdx],
      unspent.2.markKickoffConnectorAsUsed roundIdx (UInt32.ofNat kickoffConnectorIdx) none)

/-- The loop of `end_round`; the number of connectors is cast to `u32`. -/
def unspentKickoffConnectors (state : OperatorState) : List Nat × OperatorState :=
  (List.range (self.paramset.numKickoffsPerRound % 2 ^ 32)).foldl
    (collectUnspent state.currentRoundIndex) ([], state)

/-- `end_round` after the first round was started. -/
def endStartedRound (state : OperatorState) (kickoffWpks : KickoffWinternitzKeys) :
    OperatorResult OperatorState := do
  let current ← self.roundTxhandlers kickoffWpks state.currentRoundIndex
  let next ← self.roundTxhandlers kickoffWpks state.currentRoundIndex.nextRound
  let readyToReimburseTx ← self.signedTx current.2
  let nextRoundTx ← self.signedTx next.1
  let unspent := self.unspentKickoffConnectors state
  let burn ← liftBridge (createBurnUnusedKickoffConnectorsTxhandler self.library current.1
    unspent.1 self.address self.paramset)
  let burnTx ← self.signedTx burn
  let queued := (unspent.2.insertTryToSend
      { metadata := self.roundMetadata .burnUnusedKickoffConnectors state.currentRoundIndex
        tx := burnTx
        activatedWith := [] }).insertTryToSend
    { metadata := self.roundMetadata .round state.currentRoundIndex.nextRound
      tx := nextRoundTx
      activatedWith := [(self.library.computeTxid readyToReimburseTx,
        self.paramset.operatorReimburseTimelock.toUInt32)] }
  return { queued with currentRoundIndex := state.currentRoundIndex.nextRound }

/-- `end_round`. -/
def endRound (state : OperatorState) : OperatorResult OperatorState := do
  let kickoffWpks ← liftBridge (KickoffWinternitzKeys.new self.kickoffWinternitzPublicKeys
    self.paramset.numKickoffsPerRound self.paramset.numRoundTxs)
  if state.currentRoundIndex = .collateral then self.startFirstRound state kickoffWpks
  else self.endStartedRound state kickoffWpks

/-- With automation the round of the kickoff has to be the current one; the next one is
started first. -/
def enterRound (automation : Bool) (state : OperatorState) (roundIdx : RoundIndex)
    (depositOutpoint : OutPoint) : OperatorResult OperatorState :=
  if automation = false ∨ state.currentRoundIndex = roundIdx then .ok state
  else if state.currentRoundIndex.nextRound = roundIdx then self.endRound state
  else .error (.error (.roundMismatch state.currentRoundIndex roundIdx depositOutpoint))

/-- `last_20_bytes`. -/
def last20Bytes (bytes : Bytes32) : Vector UInt8 20 := bytes.drop 12

/-- The signed transactions that are sent without a challenge. -/
def isSentWithKickoff : TransactionType → Bool
  | .kickoff | .challengeTimeout | .disproveTimeout | .reimburse => true
  | _ => false

/-- The entries of the queue for a kickoff. -/
def kickoffQueue (depositOutpoint : OutPoint) (roundIdx : RoundIndex) (kickoffIdx : UInt32)
    (signedTxs : List (TransactionType × CircuitTransaction)) : List QueuedTx :=
  (signedTxs.filter fun signed => isSentWithKickoff signed.1).map fun signed =>
    { metadata :=
        { txType := signed.1
          operatorXonlyPk := some self.xonlyPublicKey
          roundIdx := some roundIdx
          kickoffIdx := some kickoffIdx
          depositOutpoint := some depositOutpoint }
      tx := signed.2
      activatedWith := [] }

/-- The transaction of a type among signed ones. -/
def findTx (txType : TransactionType) (text : String)
    (signedTxs : List (TransactionType × CircuitTransaction)) :
    OperatorResult CircuitTransaction :=
  okOr (.bridge (.eyre (.text text)))
    ((signedTxs.find? fun signed => signed.1 = txType).map Prod.snd)

/-- `ContractContext::new_context_for_kickoff` for this operator. -/
def kickoffContext (depositData : DepositData) (roundIdx : RoundIndex) (kickoffIdx : UInt32) :
    ContractContext where
  operatorXonlyPk := self.xonlyPublicKey
  roundIdx
  paramset := self.paramset
  kickoffIdx := some kickoffIdx
  depositData := some depositData
  signer := none

/-- `handle_finalized_payout` with the connector it found; `automation` is the feature. -/
def assignKickoff (automation : Bool) (state : OperatorState) (depositData : DepositData)
    (depositOutpoint : OutPoint) (payoutTxBlockhash : Bytes32)
    (connector : RoundIndex × UInt32) : OperatorResult (Txid × OperatorState) := do
  let entered ← self.enterRound automation state connector.1 depositOutpoint
  let signedTxs ← liftBridge (self.createAndSignTxs
    (self.kickoffContext depositData connector.1 connector.2)
    (some (last20Bytes payoutTxBlockhash)))
  let sent := if automation then
      self.kickoffQueue depositOutpoint connector.1 connector.2 signedTxs
    else
      []
  let kickoffTx ← findTx .kickoff "Couldn't find kickoff tx in signed_txs" signedTxs
  let kickoffTxid := self.library.computeTxid kickoffTx
  let marked := { entered with queue := entered.queue ++ sent }.markKickoffConnectorAsUsed
    connector.1 connector.2 (some kickoffTxid)
  return (kickoffTxid,
    { marked with
      assignments := ⟨depositOutpoint, connector.1, connector.2, payoutTxBlockhash,
        kickoffTxid⟩ :: entered.assignments })

/-- `handle_finalized_payout`. -/
def handleFinalizedPayout (automation : Bool) (pick : Nat) (state : OperatorState)
    (depositOutpoint : OutPoint) (payoutTxBlockhash : Bytes32) :
    OperatorResult (Txid × OperatorState) := do
  let deposit ← okOr .rowNotFound (self.depositData depositOutpoint)
  let connector ← okOr .rowNotFound (self.getUnusedAndSignedKickoffConnector state deposit.1 pick)
  self.assignKickoff automation state deposit.2 depositOutpoint payoutTxBlockhash connector

/-- The rows that `get_first_unhandled_payout_by_operator_xonly_pk` orders by their index. -/
def unhandledPayouts (state : OperatorState) : List Withdrawal :=
  state.withdrawals.filter fun row =>
    row.payoutTxid.isSome ∧ row.isPayoutHandled = false ∧
      row.payoutPayerOperatorXonlyPk = some self.xonlyPublicKey

/-- `get_first_unhandled_payout_by_operator_xonly_pk`. -/
def getFirstUnhandledPayout (state : OperatorState) : Option Withdrawal :=
  (self.unhandledPayouts state).find? fun row =>
    ∀ other ∈ self.unhandledPayouts state, row.idx ≤ other.idx

/-- `PayoutCheckerTask::run_once` for the payout it found. -/
def handlePayout (pick : Nat) (state : OperatorState) (payout : Withdrawal) :
    OperatorResult OperatorState := do
  let payoutTxBlockhash ← liftPanic
    (expectSome "payout_tx_blockhash Must be Some" payout.payoutTxBlockhash)
  let depositData ← okOr (.signaturesNotFound payout.moveToVaultTxid)
    (self.depositDataWithMoveTx payout.moveToVaultTxid)
  let handled ← self.handleFinalizedPayout true pick state depositData.getDepositOutpoint
    payoutTxBlockhash
  let payoutBlockHeight ← okOr
    (.bridge (.eyre (.text "Couldn't find payout blockhash in bitcoin sync")))
    (self.blockHeight payoutTxBlockhash)
  liftBridge (self.fetchValidateAndStoreLcp payoutBlockHeight payout.idx)
  let ended ← self.endRound handled.2
  return ended.markPayoutHandled payout.idx handled.1

/-- `PayoutCheckerTask::run_once`; the boolean says whether there was a payout. -/
def runOnce (pick : Nat) (state : OperatorState) : OperatorResult (Bool × OperatorState) :=
  match self.getFirstUnhandledPayout state with
  | none => .ok (false, state)
  | some payout => do
      let next ← self.handlePayout pick state payout
      return (true, next)

/-! ## Calls and runs -/

/-- The calls of an operator. -/
inductive Call where
  | runOnce (pick : Nat)
  | handleFinalizedPayout (pick : Nat) (depositOutpoint : OutPoint) (payoutTxBlockhash : Bytes32)
  | endRound

/-- The tables after a call, with automation. -/
def perform (state : OperatorState) : Call → OperatorResult OperatorState
  | .runOnce pick => do
      let result ← self.runOnce pick state
      return result.2
  | .handleFinalizedPayout pick depositOutpoint payoutTxBlockhash => do
      let handled ← self.handleFinalizedPayout true pick state depositOutpoint payoutTxBlockhash
      return handled.2
  | .endRound => self.endRound state

/-- A call in a database transaction; one that fails is rolled back. -/
def commit (state : OperatorState) (call : Call) (committed : Bool) : OperatorState :=
  match self.perform state call with
  | .ok next => if committed then next else state
  | .error _ => state

/-- What a run of calls leads to.  Payouts are found by other parts of the program. -/
inductive Reaches : OperatorState → OperatorState → Prop where
  | refl (state : OperatorState) : Reaches state state
  | call {start state : OperatorState} (before : Reaches start state) (call : Call)
      (committed : Bool) : Reaches start (self.commit state call committed)
  | payouts {start state : OperatorState} (before : Reaches start state)
      (withdrawals : List Withdrawal) : Reaches start { state with withdrawals }

variable {self}

/-! ## What the calls keep -/

/-- Rows stay and the round does not decrease. -/
structure Extends (before after : OperatorState) : Prop where
  rows : ∀ round idx row, before.usedKickoffConnectors round idx = some row →
    after.usedKickoffConnectors round idx = some row
  round_le : before.currentRoundIndex.toIndex ≤ after.currentRoundIndex.toIndex

theorem Extends.refl (state : OperatorState) : Extends state state :=
  ⟨fun _ _ _ row => row, Nat.le_refl _⟩

theorem Extends.trans {first second third : OperatorState} (left : Extends first second)
    (right : Extends second third) : Extends first third :=
  ⟨fun round idx row found => right.rows round idx row (left.rows round idx row found),
    left.round_le.trans right.round_le⟩

@[simp] theorem toIndex_nextRound (round : RoundIndex) :
    round.nextRound.toIndex = round.toIndex + 1 := by
  cases round <;> rfl

theorem toIndex_injective {left right : RoundIndex} (equal : left.toIndex = right.toIndex) :
    left = right := by
  rw [← RoundIndex.fromIndex_toIndex left, equal, RoundIndex.fromIndex_toIndex]

variable {state : OperatorState}

theorem markKickoffConnectorAsUsed_eq {roundIdx round : RoundIndex} {kickoffIdx idx : UInt32}
    {kickoffTxid : Option Txid} :
    (state.markKickoffConnectorAsUsed roundIdx kickoffIdx kickoffTxid).usedKickoffConnectors
        round idx =
      if round = roundIdx ∧ idx = kickoffIdx then
        (state.usedKickoffConnectors round idx).or (some kickoffTxid)
      else
        state.usedKickoffConnectors round idx := by
  by_cases found : (state.usedKickoffConnectors roundIdx kickoffIdx).isSome = true
  · have kept : state.markKickoffConnectorAsUsed roundIdx kickoffIdx kickoffTxid = state := by
      simp only [OperatorState.markKickoffConnectorAsUsed, found, if_true]
    rw [kept]
    split_ifs with same
    · rw [same.1, same.2, or_of_isSome found]
    · rfl
  · simp only [OperatorState.markKickoffConnectorAsUsed, if_neg found]
    rw [Bool.not_eq_true, isSome_eq_false_iff, isNone_iff_eq_none] at found
    split_ifs with same
    · rw [same.1, same.2, found]
      simp only [OperatorState.usedKickoffConnectors, map_eq_none_iff] at found
      simp only [OperatorState.usedKickoffConnectors, List.find?_append, found]
      simp
    · have other : ¬(roundIdx = round ∧ kickoffIdx = idx) := fun equal =>
        same ⟨equal.1.symm, equal.2.symm⟩
      simp [OperatorState.usedKickoffConnectors, List.find?_append, other]

theorem markKickoffConnectorAsUsed_extends (state : OperatorState) (roundIdx : RoundIndex)
    (kickoffIdx : UInt32) (kickoffTxid : Option Txid) :
    Extends state (state.markKickoffConnectorAsUsed roundIdx kickoffIdx kickoffTxid) where
  rows round idx row found := by
    rw [markKickoffConnectorAsUsed_eq]
    split_ifs <;> simp [found]
  round_le := Nat.le_refl _

/-- What marking the unspent connectors of a round changes. -/
structure MarksRound (roundIdx : RoundIndex) (before after : OperatorState) : Prop where
  rows : ∀ round idx row, before.usedKickoffConnectors round idx = some row →
    after.usedKickoffConnectors round idx = some row
  others : ∀ round, round ≠ roundIdx →
    after.usedKickoffConnectors round = before.usedKickoffConnectors round
  currentRoundIndex : after.currentRoundIndex = before.currentRoundIndex
  withdrawals : after.withdrawals = before.withdrawals
  queue : after.queue = before.queue
  assignments : after.assignments = before.assignments

variable {roundIdx : RoundIndex}

theorem collectUnspent_marksRound {before : OperatorState} {unspent : List Nat × OperatorState}
    (kickoffConnectorIdx : Nat) (marks : MarksRound roundIdx before unspent.2) :
    MarksRound roundIdx before (collectUnspent roundIdx unspent kickoffConnectorIdx).2 := by
  unfold collectUnspent
  split
  next => exact marks
  next =>
      refine ⟨?_, ?_, marks.currentRoundIndex, marks.withdrawals, marks.queue, marks.assignments⟩
      · intro round idx row found
        exact (markKickoffConnectorAsUsed_extends _ _ _ _).rows round idx row
          (marks.rows round idx row found)
      · intro round different
        funext idx
        rw [markKickoffConnectorAsUsed_eq, if_neg fun same => different same.1,
          marks.others round different]

theorem unspentKickoffConnectors_marksRound (state : OperatorState) :
    MarksRound state.currentRoundIndex state (self.unspentKickoffConnectors state).2 := by
  have start : MarksRound state.currentRoundIndex state (([] : List Nat), state).2 :=
    ⟨fun _ _ _ row => row, fun _ _ => rfl, rfl, rfl, rfl, rfl⟩
  rw [unspentKickoffConnectors]
  generalize List.range (self.paramset.numKickoffsPerRound % 2 ^ 32) = indices
  generalize (([] : List Nat), state) = unspent at start ⊢
  induction indices generalizing unspent with
  | nil => exact start
  | cons idx indices ih => exact ih _ (collectUnspent_marksRound idx start)

/-- What ending a round changes. -/
structure EndsRound (before after : OperatorState) : Prop where
  rows : ∀ round idx row, before.usedKickoffConnectors round idx = some row →
    after.usedKickoffConnectors round idx = some row
  others : ∀ round, round ≠ before.currentRoundIndex →
    after.usedKickoffConnectors round = before.usedKickoffConnectors round
  currentRoundIndex : after.currentRoundIndex = before.currentRoundIndex.nextRound
  withdrawals : after.withdrawals = before.withdrawals
  assignments : after.assignments = before.assignments

variable {state next : OperatorState}

theorem endRound_endsRound (ended : self.endRound state = .ok next) : EndsRound state next := by
  obtain ⟨kickoffWpks, -, ended⟩ := ExceptRun.bind_ok_iff.mp ended
  split_ifs at ended with collateral
  · simp only [startFirstRound, ExceptRun.bind_ok_iff, pure, Except.pure, Except.ok.injEq] at ended
    obtain ⟨_, -, _, -, rfl⟩ := ended
    exact ⟨fun _ _ _ row => row, fun _ _ => rfl, by rw [collateral]; rfl, rfl, rfl⟩
  · have marks := self.unspentKickoffConnectors_marksRound state
    simp only [endStartedRound, ExceptRun.bind_ok_iff, pure, Except.pure, Except.ok.injEq] at ended
    obtain ⟨_, -, _, -, _, -, _, -, _, -, _, -, rfl⟩ := ended
    exact ⟨marks.rows, marks.others, rfl, marks.withdrawals, marks.assignments⟩

variable {row : SignedKickoff} {depositId : Nat}

/-- A row that the query may return is signed, not used, and of the first possible round. -/
theorem mem_firstUnusedKickoffs : row ∈ self.firstUnusedKickoffs state depositId ↔
      (row ∈ self.depositSignatures ∧ row.depositId = depositId ∧
        row.operatorXonlyPk = self.xonlyPublicKey ∧
        state.currentRoundIndex.toIndex ≤ row.roundIdx.toIndex ∧
        state.usedKickoffConnectors row.roundIdx row.kickoffIdx = none) ∧
      ∀ other ∈ self.depositSignatures, other.depositId = depositId →
        other.operatorXonlyPk = self.xonlyPublicKey →
        state.currentRoundIndex.toIndex ≤ other.roundIdx.toIndex →
        state.usedKickoffConnectors other.roundIdx other.kickoffIdx = none →
        row.roundIdx.toIndex ≤ other.roundIdx.toIndex := by
  simp only [firstUnusedKickoffs, List.mem_filter, decide_eq_true_eq, and_imp]

theorem getUnusedAndSignedKickoffConnector_eq_some {pick : Nat} {connector : RoundIndex × UInt32}
    (found : self.getUnusedAndSignedKickoffConnector state depositId pick = some connector) :
    ∃ row ∈ self.firstUnusedKickoffs state depositId,
      connector = (row.roundIdx, row.kickoffIdx) := by
  obtain ⟨row, rowEq, rfl⟩ := map_eq_some_iff.mp found
  exact ⟨row, List.mem_of_getElem? rowEq, rfl⟩

/-- What handling a payout changes: the connector was free, its round is entered and it is
marked. -/
def Assigns (operator : Operator) (before : OperatorState) (depositOutpoint : OutPoint)
    (payoutTxBlockhash : Bytes32) (after : OperatorState) : Prop :=
  ∃ depositId depositData row kickoffTxid entered,
    operator.depositData depositOutpoint = some (depositId, depositData) ∧
      row ∈ operator.firstUnusedKickoffs before depositId ∧
      (entered = before ∧ before.currentRoundIndex = row.roundIdx ∨
        EndsRound before entered ∧ before.currentRoundIndex.nextRound = row.roundIdx) ∧
      after.currentRoundIndex = entered.currentRoundIndex ∧
      after.withdrawals = entered.withdrawals ∧
      after.usedKickoffConnectors = (entered.markKickoffConnectorAsUsed row.roundIdx
        row.kickoffIdx (some kickoffTxid)).usedKickoffConnectors ∧
      after.assignments = ⟨depositOutpoint, row.roundIdx, row.kickoffIdx, payoutTxBlockhash,
        kickoffTxid⟩ :: entered.assignments

variable {depositOutpoint : OutPoint} {entered : OperatorState}

theorem enterRound_eq_ok (ok : self.enterRound true state roundIdx depositOutpoint = .ok entered) :
    entered = state ∧ state.currentRoundIndex = roundIdx ∨
      EndsRound state entered ∧ state.currentRoundIndex.nextRound = roundIdx := by
  simp only [enterRound, Bool.true_eq_false, false_or] at ok
  split_ifs at ok with same next
  · cases ok
    exact .inl ⟨rfl, same⟩
  · exact .inr ⟨endRound_endsRound ok, next⟩

variable {payoutTxBlockhash : Bytes32}

theorem handleFinalizedPayout_assigns {pick : Nat} {handled : Txid × OperatorState}
    (ok : self.handleFinalizedPayout true pick state depositOutpoint payoutTxBlockhash =
      .ok handled) :
    Assigns self state depositOutpoint payoutTxBlockhash handled.2 := by
  simp only [handleFinalizedPayout, assignKickoff, ExceptRun.bind_ok_iff, okOr_eq_ok,
    liftBridge_eq_ok, pure, Except.pure, Except.ok.injEq] at ok
  obtain ⟨deposit, depositEq, connector, found, entered, enters, signedTxs, -, kickoffTx, -,
    rfl⟩ := ok
  obtain ⟨row, member, rfl⟩ := getUnusedAndSignedKickoffConnector_eq_some found
  exact ⟨deposit.1, deposit.2, row, _, entered, depositEq, member, enterRound_eq_ok enters, rfl,
    rfl, rfl, rfl⟩

/-- The tables fit together. -/
structure Sound (operator : Operator) (state : OperatorState) : Prop where
  rounds : ∀ round idx row, state.usedKickoffConnectors round idx = some row →
    round.toIndex ≤ state.currentRoundIndex.toIndex
  marked : ∀ assignment ∈ state.assignments,
    state.usedKickoffConnectors assignment.roundIdx assignment.kickoffIdx =
      some (some assignment.kickoffTxid)
  signed : ∀ assignment ∈ state.assignments, ∃ depositId depositData,
    operator.depositData assignment.depositOutpoint = some (depositId, depositData) ∧
      ⟨depositId, operator.xonlyPublicKey, assignment.roundIdx, assignment.kickoffIdx⟩ ∈
        operator.depositSignatures
  unique : (state.assignments.map fun assignment =>
    (assignment.roundIdx, assignment.kickoffIdx)).Nodup

theorem sound_new (withdrawals : List Withdrawal) : Sound self (.new withdrawals) :=
  ⟨nofun, nofun, nofun, List.nodup_nil⟩

variable {before after : OperatorState}

theorem EndsRound.extends (ends : EndsRound before after) : Extends before after :=
  ⟨ends.rows, by rw [ends.currentRoundIndex, toIndex_nextRound]; omega⟩

theorem EndsRound.sound (ends : EndsRound before after) (sound : Sound self before) :
    Sound self after where
  rounds round idx row found := by
    have later := ends.extends.round_le
    by_cases current : round = before.currentRoundIndex
    · rwa [current]
    · rw [ends.others round current] at found
      exact (sound.rounds round idx row found).trans later
  marked assignment member := by
    rw [ends.assignments] at member
    exact ends.rows _ _ _ (sound.marked assignment member)
  signed assignment member := sound.signed assignment (ends.assignments ▸ member)
  unique := ends.assignments ▸ sound.unique

/-- The connector of a row that the query returns is still free in the round that is
entered. -/
theorem entered_unused (member : row ∈ self.firstUnusedKickoffs before depositId)
    (enters : entered = before ∧ before.currentRoundIndex = row.roundIdx ∨
      EndsRound before entered ∧ before.currentRoundIndex.nextRound = row.roundIdx) :
    entered.currentRoundIndex = row.roundIdx ∧
      entered.usedKickoffConnectors row.roundIdx row.kickoffIdx = none := by
  obtain ⟨⟨-, -, -, -, unused⟩, -⟩ := mem_firstUnusedKickoffs.mp member
  rcases enters with ⟨rfl, same⟩ | ⟨ends, next⟩
  · exact ⟨same, unused⟩
  · have different : row.roundIdx ≠ before.currentRoundIndex := by
      rw [← next]
      intro equal
      have indices := congrArg RoundIndex.toIndex equal
      rw [toIndex_nextRound] at indices
      omega
    rw [ends.others _ different]
    exact ⟨ends.currentRoundIndex.trans next, unused⟩

theorem Assigns.extends (assigns : Assigns self before depositOutpoint payoutTxBlockhash after) :
    Extends before after := by
  obtain ⟨_, _, row, kickoffTxid, entered, -, -, enters, round, -, table, -⟩ := assigns
  have first : Extends before entered := by
    rcases enters with ⟨rfl, -⟩ | ⟨ends, -⟩
    · exact .refl _
    · exact ends.extends
  have second := markKickoffConnectorAsUsed_extends entered row.roundIdx row.kickoffIdx
    (some kickoffTxid)
  refine ⟨?_, round ▸ first.round_le⟩
  rw [table]
  exact (first.trans second).rows

theorem Assigns.sound (assigns : Assigns self before depositOutpoint payoutTxBlockhash after)
    (sound : Sound self before) : Sound self after := by
  obtain ⟨depositId, depositData, row, kickoffTxid, entered, deposit, member, enters, round, -,
    table, assignments⟩ := assigns
  obtain ⟨entersRow, unused⟩ := entered_unused member enters
  obtain ⟨⟨signed, rfl, operatorEq, -, -⟩, -⟩ := mem_firstUnusedKickoffs.mp member
  have enteredSound : Sound self entered := by
    rcases enters with ⟨rfl, -⟩ | ⟨ends, -⟩
    · exact sound
    · exact ends.sound sound
  have marks := markKickoffConnectorAsUsed_extends entered row.roundIdx row.kickoffIdx
    (some kickoffTxid)
  refine ⟨?_, ?_, ?_, ?_⟩
  · intro other idx state found
    rw [round]
    rw [table, markKickoffConnectorAsUsed_eq] at found
    split_ifs at found with same
    · rw [same.1, entersRow]
    · exact enteredSound.rounds other idx state found
  · rw [assignments, table]
    intro assignment isMember
    rcases List.mem_cons.mp isMember with rfl | old
    · rw [markKickoffConnectorAsUsed_eq, if_pos ⟨rfl, rfl⟩, unused]
      rfl
    · exact marks.rows _ _ _ (enteredSound.marked assignment old)
  · rw [assignments]
    intro assignment isMember
    rcases List.mem_cons.mp isMember with rfl | old
    · exact ⟨row.depositId, depositData, deposit, operatorEq ▸ signed⟩
    · exact enteredSound.signed assignment old
  · rw [assignments, List.map_cons, List.nodup_cons]
    refine ⟨?_, enteredSound.unique⟩
    intro repeated
    obtain ⟨assignment, old, same⟩ := List.mem_map.mp repeated
    obtain ⟨sameRound, sameIdx⟩ := Prod.mk.inj same
    have marked := enteredSound.marked assignment old
    rw [sameRound, sameIdx, unused] at marked
    cases marked

/-- What every call keeps. -/
theorem perform_sound {call : Call} (sound : Sound self state)
    (performed : self.perform state call = .ok next) :
    Sound self next ∧ Extends state next := by
  cases call with
  | endRound =>
    have ends := endRound_endsRound performed
    exact ⟨ends.sound sound, ends.extends⟩
  | handleFinalizedPayout pick depositOutpoint payoutTxBlockhash =>
    obtain ⟨handled, ok, finished⟩ := ExceptRun.bind_ok_iff.mp performed
    cases finished
    have assigns := handleFinalizedPayout_assigns ok
    exact ⟨assigns.sound sound, assigns.extends⟩
  | runOnce pick =>
    obtain ⟨result, ok, finished⟩ := ExceptRun.bind_ok_iff.mp performed
    cases finished
    unfold runOnce at ok
    split at ok
    next =>
        cases ok
        exact ⟨sound, .refl _⟩
    next payout found =>
        simp only [handlePayout, ExceptRun.bind_ok_iff, pure, Except.pure, Except.ok.injEq]
          at ok
        obtain ⟨_, ⟨_, -, depositData, -, handled, ok, _, -, _, -, ended, endedEq, rfl⟩, rfl⟩ :=
          ok
        have assigns := handleFinalizedPayout_assigns ok
        have ends := endRound_endsRound endedEq
        have kept := ends.sound (assigns.sound sound)
        exact ⟨⟨kept.rounds, kept.marked, kept.signed, kept.unique⟩,
          assigns.extends.trans ⟨ends.rows, ends.extends.round_le⟩⟩

theorem commit_sound {call : Call} {committed : Bool} (sound : Sound self state) :
    Sound self (self.commit state call committed) ∧
      Extends state (self.commit state call committed) := by
  unfold commit
  split
  next next performed =>
      split
      · exact perform_sound sound performed
      · exact ⟨sound, .refl state⟩
  next => exact ⟨sound, .refl state⟩

/-- What every run keeps. -/
theorem Reaches.sound {start : OperatorState} (reaches : self.Reaches start state)
    (sound : Sound self start) : Sound self state ∧ Extends start state := by
  induction reaches with
  | refl => exact ⟨sound, .refl _⟩
  | call _ call committed ih =>
    obtain ⟨before, grown⟩ := ih
    obtain ⟨after, step⟩ := commit_sound before
    exact ⟨after, grown.trans step⟩
  | payouts _ withdrawals ih =>
    obtain ⟨before, grown⟩ := ih
    exact ⟨⟨before.rounds, before.marked, before.signed, before.unique⟩,
      ⟨grown.rows, grown.round_le⟩⟩

/-- As `deposit_finalize` stores them: every deposit has a signed kickoff in every round, and
there are no others. -/
structure SignedInEveryRound (operator : Operator) : Prop where
  exists_row : ∀ depositOutpoint depositId depositData,
    operator.depositData depositOutpoint = some (depositId, depositData) →
    ∀ round < operator.paramset.numRoundTxs, ∃ kickoffIdx,
      ⟨depositId, operator.xonlyPublicKey, .round round, kickoffIdx⟩ ∈ operator.depositSignatures
  round_le : ∀ row ∈ operator.depositSignatures,
    row.roundIdx.toIndex ≤ operator.paramset.numRoundTxs

/-- No connector of the round after the current one is used. -/
theorem Sound.unused {kickoffIdx : UInt32} (sound : Sound self state) :
    state.usedKickoffConnectors (.round state.currentRoundIndex.toIndex) kickoffIdx = none := by
  by_contra used
  obtain ⟨txid, found⟩ := ne_none_iff_exists'.mp used
  have notAbove := sound.rounds _ _ _ found
  rw [RoundIndex.toIndex] at notAbove
  omega

/-- The connector that is found is of the current round or of the next one. -/
theorem firstUnusedKickoffs_round (signed : SignedInEveryRound self) (sound : Sound self state)
    {depositData : DepositData}
    (deposit : self.depositData depositOutpoint = some (depositId, depositData))
    (member : row ∈ self.firstUnusedKickoffs state depositId) :
    row.roundIdx = state.currentRoundIndex ∨ row.roundIdx = state.currentRoundIndex.nextRound := by
  obtain ⟨⟨isRow, -, -, notBefore, -⟩, first⟩ := mem_firstUnusedKickoffs.mp member
  have bound := signed.round_le row isRow
  have next : row.roundIdx.toIndex ≤ state.currentRoundIndex.toIndex + 1 := by
    by_contra later
    obtain ⟨kickoffIdx, other⟩ := signed.exists_row depositOutpoint depositId depositData deposit
      state.currentRoundIndex.toIndex (by omega)
    have notAfter := first _ other rfl rfl (by rw [RoundIndex.toIndex]; omega) sound.unused
    rw [RoundIndex.toIndex] at notAfter
    omega
  rcases Nat.lt_or_eq_of_le next with current | next
  · exact .inl (toIndex_injective (by omega))
  · exact .inr (toIndex_injective (by rw [next, toIndex_nextRound]))

/-- A computation that does not fail with a mismatch of rounds. -/
def NoMismatch {α : Type} (result : OperatorResult α) : Prop :=
  ∀ current found deposit, result ≠ .error (.error (.roundMismatch current found deposit))

theorem NoMismatch.bind {α β : Type} {first : OperatorResult α} {next : α → OperatorResult β}
    (head : NoMismatch first) (tail : ∀ value, first = .ok value → NoMismatch (next value)) :
    NoMismatch (first >>= next) := by
  cases first with
  | error cause =>
    intro current found deposit equal
    exact head current found deposit (congrArg Except.error (Except.error.inj equal))
  | ok value => exact tail value rfl

variable {α : Type}

theorem noMismatch_ok (value : α) : NoMismatch (.ok value) := nofun

theorem noMismatch_liftBridge (result : BuildResult α) : NoMismatch (liftBridge result) := by
  rcases result with (panic | error) | value <;> nofun

theorem noMismatch_okOr {error : OperatorError}
    (other : ∀ current found deposit, error ≠ .roundMismatch current found deposit)
    (option : Option α) : NoMismatch (okOr error option) := by
  intro current found deposit
  cases option with
  | none => simpa [okOr] using other current found deposit
  | some value => exact fun same => by cases same

theorem noMismatch_signedTx (txhandler : TxHandler) : NoMismatch (self.signedTx txhandler) :=
  (noMismatch_liftBridge _).bind fun _ _ => noMismatch_ok _

theorem noMismatch_endRound (state : OperatorState) : NoMismatch (self.endRound state) := by
  refine (noMismatch_liftBridge _).bind fun kickoffWpks _ => ?_
  split
  · exact (noMismatch_liftBridge _).bind fun _ _ =>
      (noMismatch_signedTx _).bind fun _ _ => noMismatch_ok _
  · exact (noMismatch_liftBridge _).bind fun _ _ => (noMismatch_liftBridge _).bind fun _ _ =>
      (noMismatch_signedTx _).bind fun _ _ => (noMismatch_signedTx _).bind fun _ _ =>
      (noMismatch_liftBridge _).bind fun _ _ => (noMismatch_signedTx _).bind fun _ _ =>
      noMismatch_ok _

/-- The check that the found round is the current or the next one never fails. -/
theorem noMismatch_handleFinalizedPayout (signed : SignedInEveryRound self)
    (sound : Sound self state) (pick : Nat) (depositOutpoint : OutPoint)
    (payoutTxBlockhash : Bytes32) :
    NoMismatch (self.handleFinalizedPayout true pick state depositOutpoint payoutTxBlockhash) := by
  refine (noMismatch_okOr (by simp) _).bind fun deposit depositEq => ?_
  refine (noMismatch_okOr (by simp) _).bind fun connector connectorEq => ?_
  rw [okOr_eq_ok] at depositEq connectorEq
  obtain ⟨row, member, rfl⟩ := getUnusedAndSignedKickoffConnector_eq_some connectorEq
  have entersNext : NoMismatch (self.enterRound true state row.roundIdx depositOutpoint) := by
    rcases firstUnusedKickoffs_round signed sound depositEq member with same | next
    · rw [enterRound, if_pos (.inr same.symm)]
      exact noMismatch_ok state
    · by_cases same : state.currentRoundIndex = row.roundIdx
      · rw [enterRound, if_pos (.inr same)]
        exact noMismatch_ok state
      · rw [enterRound, if_neg (by simpa using same), if_pos next.symm]
        exact noMismatch_endRound state
  exact entersNext.bind fun _ _ => (noMismatch_liftBridge _).bind fun _ _ =>
    (noMismatch_okOr (by simp) _).bind fun _ _ => noMismatch_ok _

/-- Connectors are never shared. -/
theorem connectors_never_shared (signed : SignedInEveryRound self) {withdrawals : List Withdrawal}
    {state : OperatorState} (reaches : self.Reaches (.new withdrawals) state) :
    (state.assignments.map fun assignment =>
        (assignment.roundIdx, assignment.kickoffIdx)).Nodup ∧
      (∀ assignment ∈ state.assignments, ∃ depositId depositData,
        self.depositData assignment.depositOutpoint = some (depositId, depositData) ∧
          ⟨depositId, self.xonlyPublicKey, assignment.roundIdx, assignment.kickoffIdx⟩ ∈
            self.depositSignatures) ∧
      (∀ round idx row, state.usedKickoffConnectors round idx = some row →
        round.toIndex ≤ state.currentRoundIndex.toIndex) ∧
      (∀ round idx later, state.usedKickoffConnectors round idx = some none →
        self.Reaches state later →
        ∀ assignment ∈ later.assignments,
          (assignment.roundIdx, assignment.kickoffIdx) ≠ (round, idx)) ∧
      (∀ later, self.Reaches state later →
        state.currentRoundIndex.toIndex ≤ later.currentRoundIndex.toIndex) ∧
      (∀ pick depositOutpoint payoutTxBlockhash current found deposit,
        self.handleFinalizedPayout true pick state depositOutpoint payoutTxBlockhash ≠
          .error (.error (.roundMismatch current found deposit))) ∧
      ∀ left ∈ state.assignments, ∀ right ∈ state.assignments,
        left.roundIdx = right.roundIdx → left.kickoffIdx = right.kickoffIdx →
          left.payoutTxBlockhash = right.payoutTxBlockhash := by
  obtain ⟨sound, -⟩ := reaches.sound (sound_new withdrawals)
  refine ⟨sound.unique, sound.signed, sound.rounds, ?_, ?_, ?_, ?_⟩
  · intro round idx later burnt reachesLater assignment member same
    obtain ⟨soundLater, grown⟩ := reachesLater.sound sound
    have marked := soundLater.marked assignment member
    rw [(Prod.mk.inj same).1, (Prod.mk.inj same).2, grown.rows round idx none burnt] at marked
    cases marked
  · intro later reachesLater
    exact (reachesLater.sound sound).2.round_le
  · exact noMismatch_handleFinalizedPayout signed sound
  · intro left leftMember right rightMember sameRound sameIdx
    have same := List.inj_on_of_nodup_map sound.unique leftMember rightMember
      (Prod.ext sameRound sameIdx)
    rw [same]

/-- The connector of an assignment keeps the id of its kickoff in every later state. -/
theorem assigned_kickoff_stays {withdrawals : List Withdrawal} {state later : OperatorState}
    (reaches : self.Reaches (.new withdrawals) state) (continues : self.Reaches state later) :
    ∀ assignment ∈ state.assignments,
      later.usedKickoffConnectors assignment.roundIdx assignment.kickoffIdx =
        some (some assignment.kickoffTxid) := by
  intro assignment member
  have sound := (reaches.sound (sound_new withdrawals)).1
  exact (continues.sound sound).2.rows _ _ _ (sound.marked assignment member)

end Operator

/-! ## An operator with two kickoffs in each round -/

namespace Regtest

/-- The functions of other crates, with transaction ids. -/
def operatorLibrary : BuilderLibrary :=
  { Recorded.treeLibrary with
    computeTxid := fun tx =>
      Sha2.sha256 (Sha2.sha256 (tx.nonWitnessBytes .bitcoin)).toList }

/-- The kickoff of a connector, which spends its output of the round. -/
def signKickoff (context : ContractContext) :
    BuildResult (List (TransactionType × CircuitTransaction)) := do
  let rounds ← createRoundNthTxhandler operatorLibrary operatorXonlyPk collateral
    paramset.collateralFundingAmount context.roundIdx ⟨List.replicate 6 [], 2, 2⟩ context.paramset
  let kickoffIdx ← okOr (.transaction .insufficientContext) context.kickoffIdx
  return [(.kickoff, {
      version := 3
      lockTime := 0
      input := [⟨rounds.1.outpoint operatorLibrary (.kickoff kickoffIdx.toNat), [], 0xFFFFFFFD, []⟩]
      output := [Recorded.anchorOutput] })]

/-- The operator, with signatures for one deposit at both connectors of both rounds. -/
def operator : Operator where
  library := operatorLibrary
  paramset := { paramset with numKickoffsPerRound := 2 }
  xonlyPublicKey := operatorXonlyPk
  address := Recorded.p2tr operatorXonlyPk
  collateralFundingOutpoint := collateral
  kickoffWinternitzPublicKeys := List.replicate 6 []
  depositData outpoint :=
    if outpoint = depositData.getDepositOutpoint then some (1, depositData) else none
  depositDataWithMoveTx _ := some depositData
  depositSignatures :=
    [⟨1, operatorXonlyPk, .round 0, 0⟩, ⟨1, operatorXonlyPk, .round 0, 1⟩,
      ⟨1, operatorXonlyPk, .round 1, 0⟩, ⟨1, operatorXonlyPk, .round 1, 1⟩]
  blockHeight _ := some 192
  fetchValidateAndStoreLcp _ _ := .ok ()
  txSignAndFillSigs txhandler :=
    match txhandler.transactionType with
    | .round | .readyToReimburse | .burnUnusedKickoffConnectors =>
      .ok (txhandler.txins.map fun _ => [List.replicate 64 0])
    | _ => .error (.error (.transaction .missingSpendInfo))
  createAndSignTxs context _ := signKickoff context

/-- A payout of the deposit. -/
def payOut : Operator.Call := .handleFinalizedPayout 0 depositData.getDepositOutpoint zeroBytes

/-- The tables after a payout in the first round. -/
def paidOut : OperatorState := operator.commit (.new []) payOut true

/-- The tables after another payout in the first round. -/
def allAssigned : OperatorState := operator.commit paidOut payOut true

/-- The tables after the first round was ended, with a payout in the second one. -/
def paidOutTwice : OperatorState :=
  operator.commit (operator.commit paidOut .endRound true) payOut true

theorem reaches_paidOut : operator.Reaches (.new []) paidOut := .call (.refl _) _ true

theorem reaches_paidOutTwice {start : OperatorState} (before : operator.Reaches start paidOut) :
    operator.Reaches start paidOutTwice :=
  .call (.call before _ true) _ true

theorem signedInEveryRound_operator : Operator.SignedInEveryRound operator where
  exists_row depositOutpoint depositId data found round inside := by
    have stored : (if depositOutpoint = depositData.getDepositOutpoint then
      some (1, depositData) else none) = some (depositId, data) := found
    split_ifs at stored
    cases stored
    have two : round < 2 := inside
    refine ⟨0, ?_⟩
    interval_cases round <;> decide
  round_le row member := by
    have two : ∀ row ∈ operator.depositSignatures, row.roundIdx.toIndex ≤ 2 := by decide
    exact two row member

end Regtest

/-- After an ended round a payout uses a connector of the next one, and the burnt one stays
unused. -/
theorem connectors_never_shared_paidOut :
    (Regtest.paidOutTwice.assignments.map fun assignment =>
        (assignment.roundIdx, assignment.kickoffIdx)) = [(.round 1, 0), (.round 0, 0)] ∧
      ∀ later, Regtest.operator.Reaches Regtest.paidOutTwice later →
        ∀ assignment ∈ later.assignments,
          (assignment.roundIdx, assignment.kickoffIdx) ≠ (.round 0, 1) :=
  ⟨by decide +kernel, fun later => (Operator.connectors_never_shared
    Regtest.signedInEveryRound_operator
    (Regtest.reaches_paidOutTwice Regtest.reaches_paidOut)).2.2.2.1 (.round 0) 1 later
      (by decide +kernel)⟩

theorem assigned_kickoff_stays_paidOut :
    Regtest.paidOut.assignments ≠ [] ∧ ∀ assignment ∈ Regtest.paidOut.assignments,
      Regtest.paidOutTwice.usedKickoffConnectors assignment.roundIdx assignment.kickoffIdx =
        some (some assignment.kickoffTxid) :=
  ⟨by decide +kernel, Operator.assigned_kickoff_stays Regtest.reaches_paidOut
      (Regtest.reaches_paidOutTwice (.refl _))⟩

end Clementine
