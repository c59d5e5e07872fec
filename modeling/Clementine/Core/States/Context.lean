import Clementine.Core.States.Matcher
import Mathlib.Data.Finset.Insert

/-!
# Events, duties and the context of a state machine

State machines react to events by changing their state and by giving duties to their owner, a
verifier or an operator.  The owner also builds the transactions that a machine looks for.
Both are parameters here.  A context records the duties that were dispatched through it, with
the owner's answers, and the errors that were captured.
-/

namespace Clementine

/-! ## Events -/

/-- `RoundEvent`. -/
inductive RoundEvent where
  | kickoffUtxoUsed (kickoffIdx : Nat) (kickoffOutpoint : OutPoint)
  | readyToReimburseSent (roundIdx : RoundIndex)
  | roundSent (roundIdx : RoundIndex)
  | operatorExit
  | savedToDb
  | setChallenged (roundIdx : RoundIndex)
  | kickoffFinalizerSpent (kickoffIdx : Nat)
  deriving DecidableEq

/-- The key of a round in the derived order. -/
def RoundIndex.key : RoundIndex → List Nat
  | .collateral => [0]
  | .round index => [1, index]

instance : EventOrder RoundEvent where
  key
    | .kickoffUtxoUsed kickoffIdx kickoffOutpoint => 0 :: kickoffIdx :: kickoffOutpoint.key
    | .readyToReimburseSent roundIdx => 1 :: roundIdx.key
    | .roundSent roundIdx => 2 :: roundIdx.key
    | .operatorExit => [3]
    | .savedToDb => [4]
    | .setChallenged roundIdx => 5 :: roundIdx.key
    | .kickoffFinalizerSpent kickoffIdx => [6, kickoffIdx]

/-- `KickoffEvent`. -/
inductive KickoffEvent where
  | challenged
  | watchtowerChallengeSent (watchtowerIdx : Nat) (challengeOutpoint : OutPoint)
  | operatorAssertSent (assertIdx : Nat) (assertOutpoint : OutPoint)
  | watchtowerChallengeTimeoutSent (watchtowerIdx : Nat)
  | operatorChallengeAckSent (watchtowerIdx : Nat) (challengeAckOutpoint : OutPoint)
  | latestBlockHashSent (latestBlockhashOutpoint : OutPoint)
  | kickoffFinalizerSpent
  | burnConnectorSpent
  | timeToSendLatestBlockhash
  | timeToSendWatchtowerChallenge
  | savedToDb
  deriving DecidableEq

instance : EventOrder KickoffEvent where
  key
    | .challenged => [0]
    | .watchtowerChallengeSent watchtowerIdx challengeOutpoint =>
      1 :: watchtowerIdx :: challengeOutpoint.key
    | .operatorAssertSent assertIdx assertOutpoint => 2 :: assertIdx :: assertOutpoint.key
    | .watchtowerChallengeTimeoutSent watchtowerIdx => [3, watchtowerIdx]
    | .operatorChallengeAckSent watchtowerIdx challengeAckOutpoint =>
      4 :: watchtowerIdx :: challengeAckOutpoint.key
    | .latestBlockHashSent latestBlockhashOutpoint => 5 :: latestBlockhashOutpoint.key
    | .kickoffFinalizerSpent => [6]
    | .burnConnectorSpent => [7]
    | .timeToSendLatestBlockhash => [8]
    | .timeToSendWatchtowerChallenge => [9]
    | .savedToDb => [10]

/-! ## Duties -/

/-- `Duty`. -/
inductive Duty where
  | newReadyToReimburse (roundIdx : RoundIndex) (operatorXonlyPk : XOnlyPublicKey)
      (usedKickoffs : Finset Nat)
  | checkIfKickoff (txid : Txid) (blockHeight : UInt32) (witness : Witness)
  | checkIfKickoffMalicious (kickoffWitness : Witness) (depositData : DepositData)
      (kickoffData : KickoffData) (challengedBefore : Bool)
  | addNecessaryTxsForKickoff (kickoffData : KickoffData) (depositData : DepositData)
  | addRelevantTxsToTxSenderIfChallenged (kickoffData : KickoffData) (depositData : DepositData)
  | watchtowerChallengeDetected (kickoffData : KickoffData) (depositData : DepositData)
      (watchtowerIdx : Nat)
  | watchtowerChallenge (kickoffData : KickoffData) (depositData : DepositData)
  | sendOperatorAsserts (kickoffData : KickoffData) (depositData : DepositData)
      (watchtowerChallenges : AList fun _ : Nat => CircuitTransaction)
      (payoutBlockhash latestBlockhash : Witness)
  | verifierDisprove (kickoffData : KickoffData) (depositData : DepositData)
      (operatorAsserts operatorAcks : AList fun _ : Nat => Witness)
      (payoutBlockhash latestBlockhash : Witness)
  | sendLatestBlockhash (kickoffData : KickoffData) (depositData : DepositData)
      (latestBlockhash : Bytes32)
  | queueReadyToReimburse (roundIdx : RoundIndex) (operatorXonlyPk : XOnlyPublicKey)
  deriving DecidableEq

/-- The duties of round machines. -/
def Duty.ofRound : Duty → Bool
  | .newReadyToReimburse _ _ _ | .checkIfKickoff _ _ _ | .queueReadyToReimburse _ _ => true
  | _ => false

/-- The duties of kickoff machines. -/
def Duty.ofKickoff : Duty → Bool
  | .addNecessaryTxsForKickoff _ _ | .addRelevantTxsToTxSenderIfChallenged _ _
  | .watchtowerChallengeDetected _ _ _ | .watchtowerChallenge _ _
  | .sendOperatorAsserts _ _ _ _ _ | .verifierDisprove _ _ _ _ _ _
  | .sendLatestBlockhash _ _ _ => true
  | _ => false

/-- `DutyResult`. -/
inductive DutyResult where
  | handled
  | checkIfKickoffMalicious (challenged : Bool)
  | checkIfKickoff (isKickoff : Bool)
  deriving DecidableEq

/-- `Owner`. -/
structure Owner where
  handleDuty : Duty → BuildResult DutyResult
  createTxhandlers : TransactionType → ContractContext → BuildResult TxHandlers
  isKickoffRelevantForOwner : KickoffData → Bool

/-- A duty that was dispatched, and the owner's answer. -/
structure DutyRecord where
  duty : Duty
  result : BuildResult DutyResult
  deriving DecidableEq

/-! ## Contexts -/

/-- The machine that an error is reported for. -/
inductive MachineId where
  | round (operatorXonlyPk : XOnlyPublicKey)
  | kickoff (kickoffData : KickoffData)
  deriving DecidableEq

/-- What an error report of a state machine wraps: an error of a closure, an event that its
state does not handle, or an output that `expect` does not find in the block. -/
inductive StateCause where
  | failure (failure : Failure BridgeError)
  | unhandledRound (event : RoundEvent)
  | unhandledKickoff (event : KickoffEvent)
  | expected (text : String)
  deriving DecidableEq

/-- `StateMachineError`, with the machine and the method of `round_meta` or `kickoff_meta`. -/
structure StateMachineError where
  machine : MachineId
  method : String
  cause : StateCause
  deriving DecidableEq

/-- `BridgeConfig`, as far as the state machines read it. -/
structure StateConfig where
  protocolParamset : ProtocolParamset
  timeToSendWatchtowerChallenge : UInt16

/-- `StateContext`, with the duties dispatched through it and the orders in which tables are
iterated. -/
structure StateContext where
  owner : Owner
  cache : BlockCache
  config : StateConfig
  roundOrder : TableOrder RoundEvent
  kickoffOrder : TableOrder KickoffEvent
  errors : List StateMachineError
  duties : List DutyRecord

namespace StateContext

variable (self : StateContext)

/-- `StateContext::dispatch_duty`, the record of the duty. -/
def dispatchDuty (duty : Duty) : StateContext :=
  { self with duties := self.duties ++ [⟨duty, self.owner.handleDuty duty⟩] }

/-- An error captured by `StateContext::capture_error`. -/
def pushError (machine : MachineId) (method : String) (cause : StateCause) : StateContext :=
  { self with errors := self.errors ++ [⟨machine, method, cause⟩] }

/-- `capture_error` of a closure that ends with the given result. -/
def captureError {α : Type} (machine : MachineId) (method : String) : BuildResult α → StateContext
  | .ok _ => self
  | .error failure => self.pushError machine method (.failure failure)

/-- `capture_error` of a closure that dispatches a duty and drops its result. -/
def captureDuty (machine : MachineId) (method : String) (duty : Duty) : StateContext :=
  (self.dispatchDuty duty).captureError machine method (self.owner.handleDuty duty)

/-- The duties that a context has in addition to another one satisfy a property. -/
def Adds (property : Duty → Prop) (before after : StateContext) : Prop :=
  ∀ record ∈ after.duties, record ∈ before.duties ∨ property record.duty

section Adds

variable {property : Duty → Prop} {self}

theorem Adds.refl : Adds property self self := fun _ => .inl

theorem Adds.trans {second third : StateContext} (left : Adds property self second)
    (right : Adds property second third) : Adds property self third :=
  fun record member => (right record member).elim (left record) .inr

theorem adds_pushError (machine : MachineId) (method : String) (cause : StateCause) :
    Adds property self (self.pushError machine method cause) := fun _ => .inl

theorem adds_captureError {α : Type} (machine : MachineId) (method : String)
    (result : BuildResult α) : Adds property self (self.captureError machine method result) := by
  cases result with
  | ok value => exact .refl
  | error failure => exact adds_pushError machine method _

theorem adds_dispatchDuty {duty : Duty} (allowed : property duty) :
    Adds property self (self.dispatchDuty duty) := by
  intro record member
  rcases List.mem_append.mp member with old | new
  · exact .inl old
  · rw [List.mem_singleton.mp new]
    exact .inr allowed

theorem adds_captureDuty (machine : MachineId) (method : String) {duty : Duty}
    (allowed : property duty) : Adds property self (self.captureDuty machine method duty) :=
  (adds_dispatchDuty allowed).trans (adds_captureError machine method _)

end Adds

end StateContext

end Clementine
