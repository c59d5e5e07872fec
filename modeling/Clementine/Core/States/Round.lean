import Clementine.Core.States.Context

/-!
# The round state machine

A round machine follows the collateral of one operator: from the initial collateral through the
rounds and the ready-to-reimburse transactions between them, until the collateral is spent in
another way.  During a round it records which kickoff outputs were used, which of them may have
been kickoffs, and whose finalizers were spent.

An event is handled as `statig` does it: the dispatch hook, the handler of the state, and for a
transition the exit action, the entry action of the new state and the transition hook.  A
machine that is loaded runs the entry action of the state that it was saved in.
-/

namespace Clementine

/-- `statig::Response`. -/
inductive Response (σ : Type) where
  | handled
  | super
  | transition (target : σ)

/-- What the handler of a state leaves behind. -/
structure Reaction (μ σ : Type) where
  machine : μ
  context : StateContext
  response : Response σ

/-- `ContractContext::new_context_for_round`. -/
def ContractContext.newContextForRound (operatorXonlyPk : XOnlyPublicKey) (roundIdx : RoundIndex)
    (paramset : ProtocolParamset) : ContractContext where
  operatorXonlyPk
  roundIdx
  paramset
  kickoffIdx := none
  depositData := none
  signer := none

/-- The states of `RoundStateMachine`. -/
inductive RoundState where
  | initialCollateral
  | roundTx (roundIdx : RoundIndex) (usedKickoffs : Finset Nat)
      (possibleKickoffs : AList fun _ : Nat => Txid) (kickoffFinalizersSpent : Finset Nat)
  | readyToReimburse (roundIdx : RoundIndex)
  | operatorExit
  deriving DecidableEq

/-- `RoundStateMachine`, with its current state. -/
structure RoundStateMachine where
  matchers : Matchers RoundEvent
  operatorData : OperatorData
  dirty : Bool
  challengedRounds : Finset RoundIndex
  state : RoundState
  deriving DecidableEq

namespace RoundStateMachine

/-- `RoundStateMachine::new`, in the initial state. -/
def new (operatorData : OperatorData) : RoundStateMachine where
  matchers := ∅
  operatorData
  dirty := true
  challengedRounds := ∅
  state := .initialCollateral

section Machine

variable (library : BuilderLibrary) (self : RoundStateMachine)

/-- The machine that `round_meta` names. -/
def machineId : MachineId := .round self.operatorData.xonlyPk

/-- `RoundStateMachine::on_dispatch`. -/
def onDispatch (context : StateContext) (event : RoundEvent) : RoundStateMachine :=
  if event = .savedToDb then { self with dirty := false }
  else
    { self with
      dirty := true
      matchers := self.matchers.removeEvent context.roundOrder event }

/-- `RoundStateMachine::unhandled_event`. -/
def unhandledEvent (context : StateContext) (event : RoundEvent) : StateContext :=
  context.pushError self.machineId "round unhandled event" (.unhandledRound event)

/-! ## Entry and exit actions -/

/-- The closure of an entry action: the table is built anew. -/
def rebuildMatchers (context : StateContext) (method : String)
    (entries : List (BuildResult (Matcher × RoundEvent))) : RoundStateMachine × StateContext :=
  let result := Matchers.insertUntilError entries ∅
  ({ self with matchers := result.1 }, context.captureError self.machineId method result.2)

/-- The handlers of a round of the machine's operator. -/
def roundTxhandlers (context : StateContext) (roundIdx : RoundIndex) : BuildResult TxHandlers :=
  context.owner.createTxhandlers .round (ContractContext.newContextForRound
    self.operatorData.xonlyPk roundIdx context.config.protocolParamset)

/-- The matchers of the initial collateral, for the first round's handler. -/
def initialCollateralEntries (roundTxhandler : TxHandler) : List (Matcher × RoundEvent) :=
  [(.sentTx (roundTxhandler.getTxid library), .roundSent (.round 0)),
    (.spentUtxoButNotTxid self.operatorData.collateralFundingOutpoint
      [roundTxhandler.getTxid library], .operatorExit)]

/-- `on_initial_collateral_entry`. -/
def onInitialCollateralEntry (context : StateContext) : RoundStateMachine × StateContext :=
  self.rebuildMatchers context "on_initial_collateral_entry"
    (match (self.roundTxhandlers context (.round 0)).bind (·.getTxhandler .round) with
    | .error failure => [.error failure]
    | .ok roundTxhandler => (self.initialCollateralEntries library roundTxhandler).map .ok)

/-- The matcher of a kickoff output of a round. -/
def kickoffEntry (roundTxhandler : TxHandler) (idx : Nat) : BuildResult (Matcher × RoundEvent) :=
  (roundTxhandler.getSpendableOutput library (.kickoff idx)).map fun spendable =>
    (.spentUtxo spendable.previousOutpoint, .kickoffUtxoUsed idx spendable.previousOutpoint)

/-- The matchers of the collateral of a round. -/
def roundTxEntries (roundIdx : RoundIndex) (roundTxhandler readyToReimburseTxhandler : TxHandler) :
    List (Matcher × RoundEvent) :=
  [(.sentTx (readyToReimburseTxhandler.getTxid library), .readyToReimburseSent roundIdx),
    (.spentUtxoButNotTxid (roundTxhandler.outpoint library .collateralInRound)
      [readyToReimburseTxhandler.getTxid library], .operatorExit)]

/-- The round's handler and the ready-to-reimburse handler. -/
def roundPairOf (txhandlers : BuildResult TxHandlers) : BuildResult (TxHandler × TxHandler) := do
  let txhandlers ← txhandlers
  let roundTxhandler ← txhandlers.getTxhandler .round
  let readyToReimburseTxhandler ← txhandlers.getTxhandler .readyToReimburse
  return (roundTxhandler, readyToReimburseTxhandler)

/-- `on_round_tx_entry`; nothing is watched in the round after the last one. -/
def onRoundTxEntry (roundIdx : RoundIndex) (context : StateContext) :
    RoundStateMachine × StateContext :=
  self.rebuildMatchers context "on_round_tx_entry"
    (if roundIdx = .round context.config.protocolParamset.numRoundTxs then []
    else match roundPairOf (self.roundTxhandlers context roundIdx) with
      | .error failure => [.error failure]
      | .ok txhandlers =>
        (roundTxEntries library roundIdx txhandlers.1 txhandlers.2).map .ok ++
          (List.range context.config.protocolParamset.numKickoffsPerRound).map
            (kickoffEntry library txhandlers.1))

/-- The matcher of an exit by spending the collateral of a ready-to-reimburse transaction. -/
def readyToReimburseExit (nextRoundTxid : Txid) (current : BuildResult TxHandlers) :
    BuildResult (Matcher × RoundEvent) :=
  (current.bind (·.getTxhandler .readyToReimburse)).map fun readyToReimburseTxhandler =>
    (.spentUtxoButNotTxid
      (readyToReimburseTxhandler.outpoint library .collateralInReadyToReimburse) [nextRoundTxid],
      .operatorExit)

/-- `on_ready_to_reimburse_entry`. -/
def onReadyToReimburseEntry (roundIdx : RoundIndex) (context : StateContext) :
    RoundStateMachine × StateContext :=
  self.rebuildMatchers context "on_ready_to_reimburse_entry"
    (match (self.roundTxhandlers context roundIdx.nextRound).bind (·.getTxhandler .round) with
    | .error failure => [.error failure]
    | .ok nextRound =>
      [.ok (.sentTx (nextRound.getTxid library), .roundSent roundIdx.nextRound),
        readyToReimburseExit library (nextRound.getTxid library)
          (self.roundTxhandlers context roundIdx)])

/-- `on_operator_exit_entry`. -/
def onOperatorExitEntry : RoundStateMachine := { self with matchers := ∅ }

/-- The entry action of the current state. -/
def onEntry (context : StateContext) : RoundStateMachine × StateContext :=
  match self.state with
  | .initialCollateral => self.onInitialCollateralEntry library context
  | .roundTx roundIdx _ _ _ => self.onRoundTxEntry library roundIdx context
  | .readyToReimburse roundIdx => self.onReadyToReimburseEntry library roundIdx context
  | .operatorExit => (self.onOperatorExitEntry, context)

/-- The exit action of the current state; only `round_tx` has one, `on_round_tx_exit`. -/
def onExit (context : StateContext) : StateContext :=
  match self.state with
  | .roundTx roundIdx usedKickoffs _ _ =>
    context.captureDuty self.machineId "on_round_tx_exit"
      (.newReadyToReimburse roundIdx self.operatorData.xonlyPk usedKickoffs)
  | _ => context

/-- `init_with_context` of a new or a loaded machine. -/
def initWithContext (context : StateContext) : RoundStateMachine × StateContext :=
  self.onEntry library context

/-- A transition: exit action, entry action, and `on_transition`. -/
def transition (target : RoundState) (context : StateContext) : RoundStateMachine × StateContext :=
  let entered := onEntry library { self with state := target } (self.onExit context)
  ({ entered.1 with dirty := true }, entered.2)

/-! ## Events in a round -/

variable (roundIdx : RoundIndex) (usedKickoffs : Finset Nat)
  (possibleKickoffs : AList fun _ : Nat => Txid) (kickoffFinalizersSpent : Finset Nat)

/-- `check_and_dispatch_queue_ready_to_reimburse`. -/
def checkAndDispatchQueueReadyToReimburse (method : String) (context : StateContext) :
    StateContext :=
  if usedKickoffs.card = context.config.protocolParamset.numKickoffsPerRound ∧
      ∀ idx ∈ possibleKickoffs.keys, idx ∈ kickoffFinalizersSpent then
    context.captureDuty self.machineId method
      (.queueReadyToReimburse roundIdx self.operatorData.xonlyPk)
  else context

/-- The least number of outputs of a transaction that looks like a kickoff. -/
def minOutputs : Nat := (UtxoVout.assert 0).getVout.toNat + numberOfAssertTxs + 1 + 2

/-- Whether the spending transaction of a kickoff output is tracked as a possible kickoff. -/
def isPossibleKickoff (tx : CircuitTransaction) : DutyResult → Bool
  | .checkIfKickoff true => true
  | .checkIfKickoff false => tx.input.length = 1 && minOutputs ≤ tx.output.length
  | _ => false

/-- The finalizer output of a possible kickoff. -/
def finalizerOf (txid : Txid) : OutPoint where
  txid
  vout := UtxoVout.kickoffFinalizer.getVout

/-- The machine after a kickoff output was found to be used: `possibleKickoffs` and the table
grow if the spending transaction may be a kickoff. -/
def recordKickoff (kickoffIdx : Nat) (txid : Txid) (possible : Bool) : RoundStateMachine :=
  if possible then
    { self with
      matchers := self.matchers.insert (.spentUtxo (finalizerOf txid))
        (.kickoffFinalizerSpent kickoffIdx)
      state := .roundTx roundIdx usedKickoffs (possibleKickoffs.insert kickoffIdx txid)
        kickoffFinalizersSpent }
  else { self with state := .roundTx roundIdx usedKickoffs possibleKickoffs kickoffFinalizersSpent }

/-- The check for `QueueReadyToReimburse` in the state that was reached. -/
def checkRound (method : String) (context : StateContext) : RoundStateMachine × StateContext :=
  match self.state with
  | .roundTx roundIdx usedKickoffs possibleKickoffs kickoffFinalizersSpent =>
    (self, self.checkAndDispatchQueueReadyToReimburse roundIdx usedKickoffs possibleKickoffs
      kickoffFinalizersSpent method context)
  | _ => (self, context)

/-- The answer to `CheckIfKickoff` and what follows from it. -/
def kickoffChecked (kickoffIdx : Nat) (tx : CircuitTransaction) (witness : Witness)
    (context : StateContext) : RoundStateMachine × StateContext :=
  let duty := Duty.checkIfKickoff (library.computeTxid tx) context.cache.blockHeight witness
  match context.owner.handleDuty duty with
  | .error failure =>
    ({ self with
      state := .roundTx roundIdx usedKickoffs possibleKickoffs kickoffFinalizersSpent },
      (context.dispatchDuty duty).pushError self.machineId "round_tx kickoff_utxo_used"
        (.failure failure))
  | .ok result =>
    (self.recordKickoff roundIdx usedKickoffs possibleKickoffs kickoffFinalizersSpent kickoffIdx
      (library.computeTxid tx) (isPossibleKickoff tx result)).checkRound
        "round_tx kickoff_utxo_used" (context.dispatchDuty duty)

/-- The handler of `KickoffUtxoUsed` in `round_tx`. -/
def kickoffUtxoUsed (kickoffIdx : Nat) (kickoffOutpoint : OutPoint) (context : StateContext) :
    RoundStateMachine × StateContext :=
  match context.cache.getTxOfUtxo kickoffOutpoint,
      context.cache.getWitnessOfUtxo kickoffOutpoint with
  | some tx, some witness =>
    self.kickoffChecked library roundIdx (insert kickoffIdx usedKickoffs) possibleKickoffs
      kickoffFinalizersSpent kickoffIdx tx witness context
  | _, _ =>
    ({ self with
      state := .roundTx roundIdx (insert kickoffIdx usedKickoffs) possibleKickoffs
        kickoffFinalizersSpent },
      context.pushError self.machineId "round_tx kickoff_utxo_used"
        (.expected "UTXO should be in block"))

/-! ## The handlers of the states -/

/-- An event that changes nothing but the machine and the context. -/
def handled (result : RoundStateMachine × StateContext) :
    Reaction RoundStateMachine RoundState :=
  ⟨result.1, result.2, .handled⟩

/-- The handling of `SetChallenged`, the same in all states. -/
def setChallenged (roundIdx : RoundIndex) : RoundStateMachine :=
  { self with challengedRounds := insert roundIdx self.challengedRounds }

/-- The handler of `initial_collateral`. -/
def initialCollateral (event : RoundEvent) (context : StateContext) :
    Reaction RoundStateMachine RoundState :=
  match event with
  | .roundSent roundIdx => ⟨self, context, .transition (.roundTx roundIdx ∅ ∅ ∅)⟩
  | .savedToDb => handled (self, context)
  | .setChallenged roundIdx => handled (self.setChallenged roundIdx, context)
  | .operatorExit => ⟨self, context, .transition .operatorExit⟩
  | event => handled (self, self.unhandledEvent context event)

/-- The handler of `round_tx`. -/
def roundTx (event : RoundEvent) (context : StateContext) :
    Reaction RoundStateMachine RoundState :=
  match event with
  | .kickoffUtxoUsed kickoffIdx kickoffOutpoint =>
    handled (self.kickoffUtxoUsed library roundIdx usedKickoffs possibleKickoffs
      kickoffFinalizersSpent kickoffIdx kickoffOutpoint context)
  | .readyToReimburseSent roundIdx => ⟨self, context, .transition (.readyToReimburse roundIdx)⟩
  | .kickoffFinalizerSpent kickoffIdx =>
    handled (checkRound { self with
      state := .roundTx roundIdx usedKickoffs possibleKickoffs
        (insert kickoffIdx kickoffFinalizersSpent) } "round_tx kickoff_finalizer_spent" context)
  | .savedToDb => handled (self, context)
  | .setChallenged roundIdx => handled (self.setChallenged roundIdx, context)
  | .operatorExit => ⟨self, context, .transition .operatorExit⟩
  | event => handled (self, self.unhandledEvent context event)

/-- The handler of `ready_to_reimburse`. -/
def readyToReimburse (event : RoundEvent) (context : StateContext) :
    Reaction RoundStateMachine RoundState :=
  match event with
  | .roundSent nextRoundIdx => ⟨self, context, .transition (.roundTx nextRoundIdx ∅ ∅ ∅)⟩
  | .savedToDb => handled (self, context)
  | .operatorExit => ⟨self, context, .transition .operatorExit⟩
  | .setChallenged roundIdx => handled (self.setChallenged roundIdx, context)
  | event => handled (self, self.unhandledEvent context event)

/-- The handler of `operator_exit`. -/
def operatorExit (event : RoundEvent) (context : StateContext) :
    Reaction RoundStateMachine RoundState :=
  match event with
  | .savedToDb => handled (self, context)
  | .setChallenged roundIdx => handled (self.setChallenged roundIdx, context)
  | event => handled (self, self.unhandledEvent context event)

/-- The handler of the current state. -/
def callHandler (event : RoundEvent) (context : StateContext) :
    Reaction RoundStateMachine RoundState :=
  match self.state with
  | .initialCollateral => self.initialCollateral event context
  | .roundTx roundIdx usedKickoffs possibleKickoffs kickoffFinalizersSpent =>
    self.roundTx library roundIdx usedKickoffs possibleKickoffs kickoffFinalizersSpent event context
  | .readyToReimburse _ => self.readyToReimburse event context
  | .operatorExit => self.operatorExit event context

/-- The transition that a reaction asks for. -/
def respond (reaction : Reaction RoundStateMachine RoundState) :
    RoundStateMachine × StateContext :=
  match reaction.response with
  | .transition target => reaction.machine.transition library target reaction.context
  | _ => (reaction.machine, reaction.context)

/-- `handle_with_context`. -/
def handleWithContext (event : RoundEvent) (context : StateContext) :
    RoundStateMachine × StateContext :=
  respond library ((self.onDispatch context event).callHandler library event context)

/-- `process_with_ctx`: the event of the block, if there is one, is handled. -/
def processWithCtx (context : StateContext) : Option (RoundStateMachine × StateContext) :=
  (self.matchers.matchBlock context.cache).map fun event =>
    self.handleWithContext library event context

/-! ## What events leave unchanged -/

/-- What most handlers keep: the operator, the dirty flag and the challenged rounds. -/
def kept : OperatorData × Bool × Finset RoundIndex :=
  (self.operatorData, self.dirty, self.challengedRounds)

/-- A machine as it is saved, with the flag set. -/
def saved : RoundStateMachine := { self with dirty := true }

variable {self} {context : StateContext}

theorem kept_onEntry : (self.onEntry library context).1.kept = self.kept := by
  unfold onEntry
  cases self.state <;> rfl

theorem operatorData_initWithContext :
    (self.initWithContext library context).1.operatorData = self.operatorData :=
  congrArg Prod.fst (kept_onEntry library)

theorem dirty_onEntry : (self.onEntry library context).1.dirty = self.dirty :=
  congrArg (·.2.1) (kept_onEntry library)

variable (kickoffIdx : Nat) (outpoint : OutPoint)

theorem kept_kickoffUtxoUsed :
    (self.kickoffUtxoUsed library roundIdx usedKickoffs possibleKickoffs kickoffFinalizersSpent
      kickoffIdx outpoint context).1.kept = self.kept := by
  unfold kickoffUtxoUsed kickoffChecked
  split
  · dsimp only
    split
    · rfl
    · unfold recordKickoff checkRound
      split_ifs <;> rfl
  · rfl

/-- An event adds at most the round of `SetChallenged`. -/
theorem kept_callHandler (event : RoundEvent) :
    (self.callHandler library event context).machine.kept =
      (self.operatorData, self.dirty, match event with
        | .setChallenged roundIdx => insert roundIdx self.challengedRounds
        | _ => self.challengedRounds) := by
  unfold callHandler
  cases self.state with
  | roundTx roundIdx usedKickoffs possibleKickoffs kickoffFinalizersSpent =>
    cases event with
    | kickoffUtxoUsed kickoffIdx outpoint => exact kept_kickoffUtxoUsed library _ _ _ _ _ _
    | _ => rfl
  | _ => cases event <;> rfl

/-- Every event but `SavedToDb` sets the flag. -/
theorem kept_handleWithContext (event : RoundEvent) : ∃ dirty, (event ≠ .savedToDb → dirty = true) ∧
      (self.handleWithContext library event context).1.kept =
        (self.operatorData, dirty, match event with
          | .setChallenged roundIdx => insert roundIdx self.challengedRounds
          | _ => self.challengedRounds) := by
  have dispatched : (self.onDispatch context event).operatorData = self.operatorData ∧
      (self.onDispatch context event).challengedRounds = self.challengedRounds := by
    unfold onDispatch
    split_ifs <;> exact ⟨rfl, rfl⟩
  have handled := @kept_callHandler library (self.onDispatch context event) context event
  rw [dispatched.1, dispatched.2] at handled
  unfold handleWithContext respond
  split
  · next target _ =>
      have entered := fun context' => (@kept_onEntry library { ((self.onDispatch context
        event).callHandler library event context).machine with state := target } context').trans
          handled
      exact ⟨true, fun _ => rfl, congrArg (fun kept => (kept.1, true, kept.2.2)) (entered _)⟩
  · refine ⟨(self.onDispatch context event).dirty, fun changes => ?_, handled⟩
    rw [onDispatch, if_neg changes]

@[simp] theorem operatorData_handleWithContext (event : RoundEvent) :
    (self.handleWithContext library event context).1.operatorData = self.operatorData := by
  obtain ⟨_, -, kept⟩ := @kept_handleWithContext library self context event
  exact congrArg Prod.fst kept

/-- A round machine stays the machine of its operator. -/
theorem operatorData_processWithCtx {result : RoundStateMachine × StateContext}
    (processed : self.processWithCtx library context = some result) :
    result.1.operatorData = self.operatorData := by
  rw [processWithCtx, Option.map_eq_some_iff] at processed
  obtain ⟨event, -, rfl⟩ := processed
  simp

theorem challengedRounds_handleWithContext (event : RoundEvent) :
    (self.handleWithContext library event context).1.challengedRounds = match event with
      | .setChallenged roundIdx => insert roundIdx self.challengedRounds
      | _ => self.challengedRounds := by
  obtain ⟨_, -, kept⟩ := @kept_handleWithContext library self context event
  exact congrArg (·.2.2) kept

theorem dirty_handleWithContext {event : RoundEvent} (changes : event ≠ .savedToDb) :
    (self.handleWithContext library event context).1.dirty = true := by
  obtain ⟨_, flag, kept⟩ := @kept_handleWithContext library self context event
  exact (congrArg (·.2.1) kept).trans (flag changes)

/-- `SavedToDb` only clears the flag. -/
theorem handleWithContext_savedToDb : self.handleWithContext library .savedToDb context =
      ({ self with dirty := false }, context) := by
  unfold handleWithContext onDispatch
  rw [if_pos rfl]
  unfold callHandler
  cases self.state <;> rfl

/-! ## Duties -/

open StateContext

/-- The duties of a round machine are those of round machines. -/
abbrev OfRound (before after : StateContext) : Prop :=
  Adds (fun duty => duty.ofRound = true) before after

theorem adds_onEntry : OfRound context (self.onEntry library context).2 := by
  unfold onEntry
  cases self.state with
  | operatorExit => exact .refl
  | _ => exact adds_captureError _ _ _

theorem adds_onExit : OfRound context (self.onExit context) := by
  unfold onExit
  cases self.state with
  | roundTx roundIdx usedKickoffs _ _ => exact adds_captureDuty _ _ rfl
  | _ => exact .refl

theorem adds_checkRound (method : String) : OfRound context (self.checkRound method context).2 := by
  unfold checkRound checkAndDispatchQueueReadyToReimburse
  cases self.state with
  | roundTx roundIdx usedKickoffs possibleKickoffs kickoffFinalizersSpent =>
    dsimp only
    split_ifs
    · exact adds_captureDuty _ _ rfl
    · exact .refl
  | _ => exact .refl

theorem adds_kickoffUtxoUsed :
    OfRound context (self.kickoffUtxoUsed library roundIdx usedKickoffs possibleKickoffs
      kickoffFinalizersSpent kickoffIdx outpoint context).2 := by
  unfold kickoffUtxoUsed kickoffChecked
  split
  · dsimp only
    split
    · exact Adds.trans (adds_dispatchDuty rfl) (adds_pushError _ _ _)
    · exact Adds.trans (adds_dispatchDuty rfl) (adds_checkRound _)
  · exact adds_pushError _ _ _

theorem adds_callHandler (event : RoundEvent) :
    OfRound context (self.callHandler library event context).context := by
  unfold callHandler
  cases self.state with
  | roundTx roundIdx usedKickoffs possibleKickoffs kickoffFinalizersSpent =>
    cases event with
    | kickoffUtxoUsed kickoffIdx outpoint => exact adds_kickoffUtxoUsed library _ _ _ _ _ _
    | kickoffFinalizerSpent kickoffIdx => exact adds_checkRound _
    | roundSent roundIdx => exact adds_pushError _ _ _
    | _ => exact .refl
  | _ => cases event <;> first | exact .refl | exact adds_pushError _ _ _

theorem adds_handleWithContext (event : RoundEvent) :
    OfRound context (self.handleWithContext library event context).2 := by
  unfold handleWithContext respond
  split
  · exact (adds_callHandler library event).trans (adds_onExit.trans (adds_onEntry library))
  · exact adds_callHandler library event

end Machine

end RoundStateMachine

end Clementine
