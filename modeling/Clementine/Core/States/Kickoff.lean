import Clementine.Core.States.Round

/-!
# The kickoff state machine

A kickoff machine follows one kickoff from its transaction until its finalizer or the burn
connector of the round is spent.  It collects what is revealed on the chain (watchtower
challenges, the latest block hash, the asserts and the acknowledgements), whether or not the
kickoff is challenged, and tells the owner when a step of the challenge game can be made.

The states `kickoff_started` and `challenged` share a superstate that handles most events; the
dispatch hook then runs twice.
-/

namespace Clementine

open Prod

/-- The states of `KickoffStateMachine`. -/
inductive KickoffState where
  | kickoffStarted
  | challenged
  | closed
  deriving DecidableEq

/-- `KickoffStateMachine`, with its current state. -/
structure KickoffStateMachine where
  matchers : Matchers KickoffEvent
  dirty : Bool
  kickoffData : KickoffData
  depositData : DepositData
  kickoffHeight : UInt32
  payoutBlockhash : Witness
  challenged : Bool
  spentWatchtowerUtxos : Finset Nat
  latestBlockhash : Witness
  watchtowerChallenges : AList fun _ : Nat => CircuitTransaction
  operatorAsserts : AList fun _ : Nat => Witness
  operatorChallengeAcks : AList fun _ : Nat => Witness
  state : KickoffState
  deriving DecidableEq

namespace KickoffStateMachine

/-- `KickoffStateMachine::new`, in the initial state. -/
def new (kickoffData : KickoffData) (kickoffHeight : UInt32) (depositData : DepositData)
    (payoutBlockhash : Witness) : KickoffStateMachine where
  matchers := ∅
  dirty := true
  kickoffData
  depositData
  kickoffHeight
  payoutBlockhash
  challenged := false
  spentWatchtowerUtxos := ∅
  latestBlockhash := []
  watchtowerChallenges := ∅
  operatorAsserts := ∅
  operatorChallengeAcks := ∅
  state := .kickoffStarted

section Machine

variable (library : BuilderLibrary) (self : KickoffStateMachine)

/-- The machine that `kickoff_meta` names. -/
def machineId : MachineId := .kickoff self.kickoffData

/-- `KickoffStateMachine::on_dispatch`. -/
def onDispatch (context : StateContext) (event : KickoffEvent) : KickoffStateMachine :=
  if event = .savedToDb then { self with dirty := false }
  else
    { self with
      dirty := true
      matchers := self.matchers.removeEvent context.kickoffOrder event }

/-- `KickoffStateMachine::unhandled_event`. -/
def unhandledEvent (context : StateContext) (event : KickoffEvent) : StateContext :=
  context.pushError self.machineId "kickoff unhandled event" (.unhandledKickoff event)

/-! ## Steps of the challenge game -/

/-- All watchtower challenge outputs are spent and the kickoff is challenged. -/
def watchtowersDone : Prop :=
  self.challenged = true ∧ self.spentWatchtowerUtxos.card = self.depositData.getNumWatchtowers

instance : Decidable self.watchtowersDone := inferInstanceAs (Decidable (_ ∧ _))

/-- The condition of `send_operator_asserts_if_ready`. -/
def assertsReady : Prop := self.watchtowersDone ∧ self.latestBlockhash ≠ []

instance : Decidable self.assertsReady := inferInstanceAs (Decidable (_ ∧ _))

/-- The condition of `disprove_if_ready`. -/
def disproveReady : Prop :=
  self.assertsReady ∧ self.operatorAsserts.entries.length = numberOfAssertTxs ∧
    ∀ idx ∈ self.watchtowerChallenges.keys, idx ∈ self.operatorChallengeAcks

instance : Decidable self.disproveReady := inferInstanceAs (Decidable (_ ∧ _ ∧ _))

/-- The height at which `TimeToSendLatestBlockhash` is scheduled from a block. -/
def latestBlockhashHeight (context : StateContext) : UInt32 :=
  context.cache.blockHeight + context.config.protocolParamset.finalityDepth - 1

/-- The height at which `TimeToSendWatchtowerChallenge` is scheduled. -/
def watchtowerChallengeHeight (context : StateContext) : UInt32 :=
  self.kickoffHeight + context.config.timeToSendWatchtowerChallenge.toUInt32

/-- `create_matcher_for_latest_blockhash_if_ready`. -/
def createMatcherForLatestBlockhashIfReady (context : StateContext) : KickoffStateMachine :=
  if self.watchtowersDone then
    { self with
      matchers := self.matchers.insert (.blockHeight (latestBlockhashHeight context))
        .timeToSendLatestBlockhash }
  else self

/-- `send_operator_asserts_if_ready`. -/
def sendOperatorAssertsIfReady (context : StateContext) : StateContext :=
  if self.assertsReady then
    context.captureDuty self.machineId "on send_operator_asserts"
      (.sendOperatorAsserts self.kickoffData self.depositData self.watchtowerChallenges
        self.payoutBlockhash self.latestBlockhash)
  else context

/-- `send_watchtower_challenge`. -/
def sendWatchtowerChallenge (context : StateContext) : StateContext :=
  context.captureDuty self.machineId "on send_watchtower_challenge"
    (.watchtowerChallenge self.kickoffData self.depositData)

/-- `send_disprove`. -/
def sendDisprove (context : StateContext) : StateContext :=
  context.captureDuty self.machineId "on send_disprove"
    (.verifierDisprove self.kickoffData self.depositData self.operatorAsserts
      self.operatorChallengeAcks self.payoutBlockhash self.latestBlockhash)

/-- `disprove_if_ready`. -/
def disproveIfReady (context : StateContext) : StateContext :=
  if self.disproveReady then self.sendDisprove context else context

/-- `send_latest_blockhash`. -/
def sendLatestBlockhash (context : StateContext) : StateContext :=
  context.captureDuty self.machineId "on send_latest_blockhash"
    (.sendLatestBlockhash self.kickoffData self.depositData
      (context.cache.block.header.computeBlockHash library.sha256))

/-- What is tried after a watchtower challenge output was spent or the kickoff challenged. -/
def advance (context : StateContext) : KickoffStateMachine × StateContext :=
  let machine := self.createMatcherForLatestBlockhashIfReady context
  (machine, machine.disproveIfReady (machine.sendOperatorAssertsIfReady context))

/-! ## Entry actions -/

/-- `on_challenged_entry`. -/
def onChallengedEntry (context : StateContext) : KickoffStateMachine × StateContext :=
  let machine :=
    { self with
      challenged := true
      matchers := self.matchers.insert (.blockHeight (self.watchtowerChallengeHeight context))
        .timeToSendWatchtowerChallenge }
  machine.advance (context.captureDuty self.machineId "on_challenged_entry"
    (.addRelevantTxsToTxSenderIfChallenged self.kickoffData self.depositData))

/-- The matcher of an operator assert: its output is spent, but not by the timeout. -/
def assertEntry (txhandlers : TxHandlers) (kickoffTxhandler : TxHandler) (assertIdx : Nat) :
    BuildResult (Matcher × KickoffEvent) :=
  (txhandlers.getTxhandler (.assertTimeout assertIdx)).map fun timeout =>
    (.spentUtxoButNotTxid (kickoffTxhandler.outpoint library (.assert assertIdx))
      [timeout.getTxid library],
      .operatorAssertSent assertIdx (kickoffTxhandler.outpoint library (.assert assertIdx)))

/-- The matcher of the latest block hash. -/
def latestBlockhashEntry (txhandlers : TxHandlers) (kickoffTxhandler : TxHandler) :
    BuildResult (Matcher × KickoffEvent) :=
  (txhandlers.getTxhandler .latestBlockhashTimeout).map fun timeout =>
    (.spentUtxoButNotTxid (kickoffTxhandler.outpoint library .latestBlockhash)
      [timeout.getTxid library],
      .latestBlockHashSent (kickoffTxhandler.outpoint library .latestBlockhash))

/-- The matcher of the timeout of a watchtower challenge. -/
def watchtowerTimeoutEntry (txhandlers : TxHandlers) (watchtowerIdx : Nat) :
    BuildResult (Matcher × KickoffEvent) :=
  (txhandlers.getTxhandler (.watchtowerChallengeTimeout watchtowerIdx)).map fun timeout =>
    (.sentTx (timeout.getTxid library), .watchtowerChallengeTimeoutSent watchtowerIdx)

/-- The matcher of a watchtower challenge. -/
def watchtowerChallengeEntry (txhandlers : TxHandlers) (kickoffTxhandler : TxHandler)
    (watchtowerIdx : Nat) : BuildResult (Matcher × KickoffEvent) :=
  (txhandlers.getTxhandler (.watchtowerChallengeTimeout watchtowerIdx)).map fun timeout =>
    (.spentUtxoButNotTxid (kickoffTxhandler.outpoint library (.watchtowerChallenge watchtowerIdx))
      [timeout.getTxid library],
      .watchtowerChallengeSent watchtowerIdx
        (kickoffTxhandler.outpoint library (.watchtowerChallenge watchtowerIdx)))

/-- The matcher of an acknowledgement: its output is spent, but neither by the negative
acknowledgement nor by the timeout. -/
def challengeAckEntry (txhandlers : TxHandlers) (kickoffTxhandler : TxHandler)
    (watchtowerIdx : Nat) : BuildResult (Matcher × KickoffEvent) := do
  let timeout ← txhandlers.getTxhandler (.watchtowerChallengeTimeout watchtowerIdx)
  let nack ← txhandlers.getTxhandler (.operatorChallengeNack watchtowerIdx)
  return (.spentUtxoButNotTxid
    (kickoffTxhandler.outpoint library (.watchtowerChallengeAck watchtowerIdx))
    [nack.getTxid library, timeout.getTxid library],
    .operatorChallengeAckSent watchtowerIdx
      (kickoffTxhandler.outpoint library (.watchtowerChallengeAck watchtowerIdx)))

/-- The three matchers of a watchtower. -/
def watchtowerEntries (txhandlers : TxHandlers) (kickoffTxhandler : TxHandler)
    (watchtowerIdx : Nat) : List (BuildResult (Matcher × KickoffEvent)) :=
  [watchtowerTimeoutEntry library txhandlers watchtowerIdx,
    watchtowerChallengeEntry library txhandlers kickoffTxhandler watchtowerIdx,
    challengeAckEntry library txhandlers kickoffTxhandler watchtowerIdx]

/-- The matcher of the burn connector. -/
def burnConnectorEntry (txhandlers : TxHandlers) : BuildResult (Matcher × KickoffEvent) :=
  (txhandlers.getTxhandler .round).map fun roundTxhandler =>
    (.spentUtxo (roundTxhandler.outpoint library .collateralInRound), .burnConnectorSpent)

/-- The matcher of the kickoff finalizer. -/
def finalizerEntry (kickoffTxhandler : TxHandler) : Matcher × KickoffEvent :=
  (.spentUtxo (kickoffTxhandler.outpoint library .kickoffFinalizer), .kickoffFinalizerSpent)

/-- The matcher of a challenge: the challenge output is spent, but not by the timeout. -/
def challengeEntry (txhandlers : TxHandlers) (kickoffTxhandler : TxHandler) :
    BuildResult (Matcher × KickoffEvent) :=
  (txhandlers.getTxhandler .challengeTimeout).map fun timeout =>
    (.spentUtxoButNotTxid (kickoffTxhandler.outpoint library .challenge)
      [timeout.getTxid library], .challenged)

/-- The matchers of `add_default_kickoff_matchers`, in the order of their insertion. -/
def defaultKickoffMatchers (txhandlers : TxHandlers) (kickoffTxhandler : TxHandler) :
    List (BuildResult (Matcher × KickoffEvent)) :=
  (List.range numberOfAssertTxs).map (assertEntry library txhandlers kickoffTxhandler) ++
    latestBlockhashEntry library txhandlers kickoffTxhandler ::
    (List.range self.depositData.getNumWatchtowers).flatMap
      (watchtowerEntries library txhandlers kickoffTxhandler) ++
    [burnConnectorEntry library txhandlers, .ok (finalizerEntry library kickoffTxhandler),
      challengeEntry library txhandlers kickoffTxhandler]

/-- The handlers of the kickoff. -/
def kickoffTxhandlers (context : StateContext) : BuildResult TxHandlers :=
  context.owner.createTxhandlers .allNeededForDeposit (ContractContext.newContextForKickoff
    self.kickoffData self.depositData context.config.protocolParamset)

/-- `add_default_kickoff_matchers`. -/
def addDefaultKickoffMatchers (context : StateContext) : KickoffStateMachine × BuildResult Unit :=
  let result := Matchers.insertUntilError
    (match self.kickoffTxhandlers context with
    | .error failure => [.error failure]
    | .ok txhandlers =>
      match txhandlers.getTxhandler .kickoff with
      | .error failure => [.error failure]
      | .ok kickoffTxhandler => self.defaultKickoffMatchers library txhandlers kickoffTxhandler)
    self.matchers
  ({ self with matchers := result.1 }, result.2)

/-- `on_kickoff_started_entry`. -/
def onKickoffStartedEntry (context : StateContext) : KickoffStateMachine × StateContext :=
  let added := self.addDefaultKickoffMatchers library context
  (added.1, match added.2 with
    | .error failure =>
      context.pushError self.machineId "on_kickoff_started_entry" (.failure failure)
    | .ok _ =>
      context.captureDuty self.machineId "on_kickoff_started_entry"
        (.addNecessaryTxsForKickoff self.kickoffData self.depositData))

/-- `on_closed_entry`. -/
def onClosedEntry : KickoffStateMachine := { self with matchers := ∅ }

/-- The entry action of the current state. -/
def onEntry (context : StateContext) : KickoffStateMachine × StateContext :=
  match self.state with
  | .kickoffStarted => self.onKickoffStartedEntry library context
  | .challenged => self.onChallengedEntry context
  | .closed => (self.onClosedEntry, context)

/-- `init_with_context` of a new or a loaded machine. -/
def initWithContext (context : StateContext) : KickoffStateMachine × StateContext :=
  self.onEntry library context

/-- A transition: the entry action of the target, and `on_transition`. -/
def transition (target : KickoffState) (context : StateContext) :
    KickoffStateMachine × StateContext :=
  let entered := onEntry library { self with state := target } context
  ({ entered.1 with dirty := true }, entered.2)

/-! ## The handlers of the states -/

/-- An event that changes nothing but the machine and the context. -/
def handled (result : KickoffStateMachine × StateContext) :
    Reaction KickoffStateMachine KickoffState :=
  ⟨result.1, result.2, .handled⟩

/-- `WatchtowerChallengeSent` in the superstate. -/
def watchtowerChallengeSent (watchtowerIdx : Nat) (challengeOutpoint : OutPoint)
    (context : StateContext) : KickoffStateMachine × StateContext :=
  let spent := insert watchtowerIdx self.spentWatchtowerUtxos
  match context.cache.getTxOfUtxo challengeOutpoint with
  | none => ({ self with spentWatchtowerUtxos := spent },
      context.pushError self.machineId "on_watchtower_challenge_detected"
        (.expected "Challenge outpoint that got matched should be in block"))
  | some tx =>
    advance { self with
      spentWatchtowerUtxos := spent
      watchtowerChallenges := self.watchtowerChallenges.insert watchtowerIdx tx }
      (context.captureDuty self.machineId "on_watchtower_challenge_detected"
        (.watchtowerChallengeDetected self.kickoffData self.depositData watchtowerIdx))

/-- `OperatorAssertSent` in the superstate. -/
def operatorAssertSent (assertIdx : Nat) (assertOutpoint : OutPoint) (context : StateContext) :
    KickoffStateMachine × StateContext :=
  match context.cache.getWitnessOfUtxo assertOutpoint with
  | none => (self, context.pushError self.machineId "operator_assert_sent"
      (.expected "Assert outpoint that got matched should be in block"))
  | some witness =>
    let machine :=
      { self with operatorAsserts := self.operatorAsserts.insert assertIdx witness }
    (machine, machine.disproveIfReady context)

/-- `OperatorChallengeAckSent` in the superstate. -/
def operatorChallengeAckSent (watchtowerIdx : Nat) (challengeAckOutpoint : OutPoint)
    (context : StateContext) : KickoffStateMachine × StateContext :=
  match context.cache.getWitnessOfUtxo challengeAckOutpoint with
  | none => (self, context.pushError self.machineId "operator_challenge_ack_sent"
      (.expected "Challenge ack outpoint that got matched should be in block"))
  | some witness =>
    let machine :=
      { self with
        operatorChallengeAcks := self.operatorChallengeAcks.insert watchtowerIdx witness }
    (machine, machine.disproveIfReady context)

/-- `LatestBlockHashSent` in the superstate. -/
def latestBlockHashSent (latestBlockhashOutpoint : OutPoint) (context : StateContext) :
    KickoffStateMachine × StateContext :=
  match context.cache.getWitnessOfUtxo latestBlockhashOutpoint with
  | none => (self, context.pushError self.machineId "latest_block_hash_sent"
      (.expected "Latest blockhash outpoint that got matched should be in block"))
  | some witness =>
    let machine := { self with latestBlockhash := witness }
    (machine, machine.disproveIfReady (machine.sendOperatorAssertsIfReady context))

/-- The handler of the superstate `kickoff`. -/
def kickoff (event : KickoffEvent) (context : StateContext) :
    Reaction KickoffStateMachine KickoffState :=
  match event with
  | .watchtowerChallengeSent watchtowerIdx challengeOutpoint =>
    handled (self.watchtowerChallengeSent watchtowerIdx challengeOutpoint context)
  | .operatorAssertSent assertIdx assertOutpoint =>
    handled (self.operatorAssertSent assertIdx assertOutpoint context)
  | .operatorChallengeAckSent watchtowerIdx challengeAckOutpoint =>
    handled (self.operatorChallengeAckSent watchtowerIdx challengeAckOutpoint context)
  | .kickoffFinalizerSpent => ⟨self, context, .transition .closed⟩
  | .burnConnectorSpent => ⟨self, context, .transition .closed⟩
  | .watchtowerChallengeTimeoutSent watchtowerIdx =>
    handled (advance { self with
      spentWatchtowerUtxos := insert watchtowerIdx self.spentWatchtowerUtxos } context)
  | .latestBlockHashSent latestBlockhashOutpoint =>
    handled (self.latestBlockHashSent latestBlockhashOutpoint context)
  | .timeToSendLatestBlockhash => handled (self, self.sendLatestBlockhash library context)
  | .savedToDb => handled (self, context)
  | event => handled (self, self.unhandledEvent context event)

/-- The handler of `challenged`. -/
def challengedState (event : KickoffEvent) (context : StateContext) :
    Reaction KickoffStateMachine KickoffState :=
  match event with
  | .challenged => handled (self, self.unhandledEvent context .challenged)
  | .timeToSendWatchtowerChallenge => handled (self, self.sendWatchtowerChallenge context)
  | _ => ⟨self, context, .super⟩

/-- The handler of `kickoff_started`. -/
def kickoffStarted (event : KickoffEvent) (context : StateContext) :
    Reaction KickoffStateMachine KickoffState :=
  match event with
  | .challenged => ⟨self, context, .transition .challenged⟩
  | .timeToSendWatchtowerChallenge =>
    handled (self, self.unhandledEvent context .timeToSendWatchtowerChallenge)
  | _ => ⟨self, context, .super⟩

/-- The handler of the current state. -/
def callHandler (event : KickoffEvent) (context : StateContext) :
    Reaction KickoffStateMachine KickoffState :=
  match self.state with
  | .kickoffStarted => self.kickoffStarted event context
  | .challenged => self.challengedState event context
  | .closed => handled (self, context)

/-- An event that a state leaves to the superstate. -/
def callSuperstate (event : KickoffEvent) (reaction : Reaction KickoffStateMachine KickoffState) :
    Reaction KickoffStateMachine KickoffState :=
  match reaction.response with
  | .super =>
    (reaction.machine.onDispatch reaction.context event).kickoff library event reaction.context
  | _ => reaction

/-- The transition that a reaction asks for. -/
def respond (reaction : Reaction KickoffStateMachine KickoffState) :
    KickoffStateMachine × StateContext :=
  match reaction.response with
  | .transition target => reaction.machine.transition library target reaction.context
  | _ => (reaction.machine, reaction.context)

/-- `handle_with_context`. -/
def handleWithContext (event : KickoffEvent) (context : StateContext) :
    KickoffStateMachine × StateContext :=
  respond library (callSuperstate library event
    ((self.onDispatch context event).callHandler event context))

/-- `process_with_ctx`: the event of the block, if there is one, is handled. -/
def processWithCtx (context : StateContext) : Option (KickoffStateMachine × StateContext) :=
  (self.matchers.matchBlock context.cache).map fun event =>
    self.handleWithContext library event context

/-! ## What events leave unchanged -/

/-- The data with which a machine is created: its kickoff, its deposit, the height and the
payout block hash. -/
structure Identity where
  kickoffData : KickoffData
  depositData : DepositData
  kickoffHeight : UInt32
  payoutBlockhash : Witness
  deriving DecidableEq

/-- The machine with an identity, before its first step. -/
abbrev Identity.machine (identity : Identity) : KickoffStateMachine :=
  new identity.kickoffData identity.kickoffHeight identity.depositData identity.payoutBlockhash

/-- The identity of a machine. -/
def identity : Identity :=
  ⟨self.kickoffData, self.depositData, self.kickoffHeight, self.payoutBlockhash⟩

/-- What the handlers keep: the identity and the dirty flag. -/
def kept : Identity × Bool := (self.identity, self.dirty)

variable {self} {context : StateContext}

@[simp] theorem identity_onDispatch (event : KickoffEvent) :
    (self.onDispatch context event).identity = self.identity := by
  unfold onDispatch
  split_ifs <;> rfl

theorem kept_advance : (self.advance context).1.kept = self.kept := by
  unfold advance createMatcherForLatestBlockhashIfReady
  dsimp only
  split_ifs <;> rfl

theorem kept_onEntry : (self.onEntry library context).1.kept = self.kept := by
  unfold onEntry onChallengedEntry
  cases self.state with
  | kickoffStarted => rfl
  | challenged => exact kept_advance
  | closed => rfl

@[simp] theorem identity_onEntry : (self.onEntry library context).1.identity = self.identity :=
  congrArg fst (kept_onEntry library)

@[simp] theorem identity_initWithContext :
    (self.initWithContext library context).1.identity = self.identity :=
  identity_onEntry library

@[simp] theorem identity_transition (target : KickoffState) :
    (self.transition library target context).1.identity = self.identity := by
  exact @identity_onEntry library { self with state := target } context

theorem kept_kickoff (event : KickoffEvent) :
    (self.kickoff library event context).machine.kept = self.kept := by
  cases event with
  | watchtowerChallengeSent watchtowerIdx challengeOutpoint =>
    simp only [kickoff, handled, watchtowerChallengeSent]
    split
    · rfl
    · exact kept_advance
  | operatorAssertSent assertIdx assertOutpoint =>
    simp only [kickoff, handled, operatorAssertSent]
    split <;> rfl
  | operatorChallengeAckSent watchtowerIdx challengeAckOutpoint =>
    simp only [kickoff, handled, operatorChallengeAckSent]
    split <;> rfl
  | latestBlockHashSent latestBlockhashOutpoint =>
    simp only [kickoff, handled, latestBlockHashSent]
    split <;> rfl
  | watchtowerChallengeTimeoutSent watchtowerIdx => exact kept_advance
  | _ => rfl

theorem kept_callHandler (event : KickoffEvent) :
    (self.callHandler event context).machine.kept = self.kept := by
  unfold callHandler
  cases self.state <;> cases event <;> rfl

@[simp] theorem identity_kickoff (event : KickoffEvent) :
    (self.kickoff library event context).machine.identity = self.identity :=
  congrArg fst (kept_kickoff library event)

@[simp] theorem identity_callHandler (event : KickoffEvent) :
    (self.callHandler event context).machine.identity = self.identity :=
  congrArg fst (kept_callHandler event)

@[simp] theorem identity_callSuperstate (event : KickoffEvent)
    (reaction : Reaction KickoffStateMachine KickoffState) :
    (callSuperstate library event reaction).machine.identity = reaction.machine.identity := by
  unfold callSuperstate
  split <;> simp

@[simp] theorem identity_handleWithContext (event : KickoffEvent) :
    (self.handleWithContext library event context).1.identity = self.identity := by
  unfold handleWithContext respond
  split <;> simp

/-- A kickoff machine stays the machine of its kickoff. -/
theorem identity_processWithCtx {result : KickoffStateMachine × StateContext}
    (processed : self.processWithCtx library context = some result) :
    result.1.identity = self.identity := by
  rw [processWithCtx, Option.map_eq_some_iff] at processed
  obtain ⟨event, -, rfl⟩ := processed
  simp

/-! ## The dirty flag -/

/-- A machine as it is saved, with the flag set. -/
def saved (self : KickoffStateMachine) : KickoffStateMachine := { self with dirty := true }

theorem dirty_onEntry : (self.onEntry library context).1.dirty = self.dirty :=
  congrArg snd (kept_onEntry library)

/-- Every event but `SavedToDb` sets the flag. -/
theorem dirty_handleWithContext {event : KickoffEvent} (changes : event ≠ .savedToDb) :
    (self.handleWithContext library event context).1.dirty = true := by
  have dispatched : ∀ (machine : KickoffStateMachine) (context : StateContext),
      (machine.onDispatch context event).dirty = true := by
    intro machine context
    rw [onDispatch, if_neg changes]
  unfold handleWithContext respond
  split
  · rfl
  · unfold callSuperstate
    split
    · exact (congrArg snd (kept_kickoff library event)).trans (dispatched _ _)
    · exact (congrArg snd (kept_callHandler event)).trans (dispatched _ _)

/-- `SavedToDb` only clears the flag. -/
theorem handleWithContext_savedToDb : self.handleWithContext library .savedToDb context =
      ({ self with dirty := false }, context) := by
  unfold handleWithContext onDispatch
  rw [if_pos rfl]
  unfold callHandler
  cases self.state <;> rfl

/-! ## Duties -/

open StateContext

/-- The duties of a kickoff machine are those of kickoff machines. -/
abbrev OfKickoff (before after : StateContext) : Prop :=
  Adds (fun duty => duty.ofKickoff = true) before after

theorem adds_sendOperatorAssertsIfReady :
    OfKickoff context (self.sendOperatorAssertsIfReady context) := by
  unfold sendOperatorAssertsIfReady
  split_ifs
  · exact adds_captureDuty _ _ rfl
  · exact .refl

theorem adds_disproveIfReady : OfKickoff context (self.disproveIfReady context) := by
  unfold disproveIfReady
  split_ifs
  · exact adds_captureDuty _ _ rfl
  · exact .refl

theorem adds_advance : OfKickoff context (self.advance context).2 :=
  adds_sendOperatorAssertsIfReady.trans adds_disproveIfReady

theorem adds_onEntry : OfKickoff context (self.onEntry library context).2 := by
  unfold onEntry
  cases self.state with
  | kickoffStarted =>
    dsimp only [onKickoffStartedEntry]
    split
    · exact adds_pushError _ _ _
    · exact adds_captureDuty _ _ rfl
  | challenged =>
    exact Adds.trans (adds_captureDuty _ _ rfl) adds_advance
  | closed => exact .refl

theorem adds_kickoff (event : KickoffEvent) :
    OfKickoff context (self.kickoff library event context).context := by
  cases event with
  | watchtowerChallengeSent watchtowerIdx challengeOutpoint =>
    simp only [kickoff, handled, watchtowerChallengeSent]
    split
    · exact adds_pushError _ _ _
    · exact Adds.trans (adds_captureDuty _ _ rfl) adds_advance
  | operatorAssertSent assertIdx assertOutpoint =>
    simp only [kickoff, handled, operatorAssertSent]
    split
    · exact adds_pushError _ _ _
    · exact adds_disproveIfReady
  | operatorChallengeAckSent watchtowerIdx challengeAckOutpoint =>
    simp only [kickoff, handled, operatorChallengeAckSent]
    split
    · exact adds_pushError _ _ _
    · exact adds_disproveIfReady
  | latestBlockHashSent latestBlockhashOutpoint =>
    simp only [kickoff, handled, latestBlockHashSent]
    split
    · exact adds_pushError _ _ _
    · exact adds_sendOperatorAssertsIfReady.trans adds_disproveIfReady
  | watchtowerChallengeTimeoutSent watchtowerIdx => exact adds_advance
  | timeToSendLatestBlockhash => exact adds_captureDuty _ _ rfl
  | challenged => exact adds_pushError _ _ _
  | timeToSendWatchtowerChallenge => exact adds_pushError _ _ _
  | _ => exact .refl

theorem adds_callHandler (event : KickoffEvent) :
    OfKickoff context (self.callHandler event context).context := by
  unfold callHandler
  cases self.state with
  | kickoffStarted => cases event <;> first | exact .refl | exact adds_pushError _ _ _
  | challenged =>
    cases event with
    | challenged => exact adds_pushError _ _ _
    | timeToSendWatchtowerChallenge => exact adds_captureDuty _ _ rfl
    | _ => exact .refl
  | closed => exact .refl

theorem adds_handleWithContext (event : KickoffEvent) :
    OfKickoff context (self.handleWithContext library event context).2 := by
  have called : OfKickoff context (callSuperstate library event
      ((self.onDispatch context event).callHandler event context)).context := by
    unfold callSuperstate
    split
    · exact (adds_callHandler event).trans (adds_kickoff library event)
    · exact adds_callHandler event
  unfold handleWithContext respond
  split
  · exact called.trans (adds_onEntry library)
  · exact called

end Machine

end KickoffStateMachine

end Clementine
