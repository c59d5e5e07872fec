import Clementine.Core.States.KickoffRun

/-!
# What a kickoff machine commits to once

The latest block hash and the asserts are signed with keys that must be used once.  A kickoff
machine that is never loaded again after its data is complete tells the operator one block hash and
one set of asserts, whatever the order of the events.  A machine that is loaded again in the state
`challenged` runs the entry action of that state, which evaluates both conditions a second time.
-/

namespace Clementine

open Matchers KickoffEvent BlockCache List UInt32

/-- The block hash of a `SendLatestBlockhash` duty. -/
def Duty.latestBlockhash : Duty → Option Bytes32
  | .sendLatestBlockhash _ _ latestBlockhash => some latestBlockhash
  | _ => none

/-- The duty `SendOperatorAsserts`. -/
def Duty.isOperatorAsserts : Duty → Bool
  | .sendOperatorAsserts _ _ _ _ _ => true
  | _ => false

/-- The outputs of a kickoff that its machine watches and that are spent by others. -/
inductive WatchedOutput where
  | watchtowerChallenge (watchtowerIdx : Nat)
  | latestBlockhash
  | assert (assertIdx : Nat)
  | challengeAck (watchtowerIdx : Nat)
  deriving DecidableEq

/-- The output that was spent. -/
def KickoffEvent.spentOutput : KickoffEvent → Option WatchedOutput
  | .watchtowerChallengeSent watchtowerIdx _ => some (.watchtowerChallenge watchtowerIdx)
  | .watchtowerChallengeTimeoutSent watchtowerIdx => some (.watchtowerChallenge watchtowerIdx)
  | .latestBlockHashSent _ => some .latestBlockhash
  | .operatorAssertSent assertIdx _ => some (.assert assertIdx)
  | .operatorChallengeAckSent watchtowerIdx _ => some (.challengeAck watchtowerIdx)
  | _ => none

variable {chain : UInt32 → Block}

namespace KickoffEntry

variable (entry : KickoffEntry)

/-- The output that was spent, according to the event. -/
def spentOutput : Option WatchedOutput :=
  match entry.cause with
  | .handled event => event.spentOutput
  | _ => none

/-- The step has a `SendOperatorAsserts` duty. -/
def sendsAsserts : Bool := entry.duties.any fun record => record.duty.isOperatorAsserts

/-- The step evaluates whether the asserts can be sent. -/
def EvaluatesAsserts : Prop :=
  match entry.cause with
  | .created => False
  | .handled event =>
    event = .challenged ∨ event.watchtower.isSome ∨ event.spentOutput = some .latestBlockhash
  | .reloaded => entry.before.state = .challenged

/-- The step schedules the latest block hash because of an event. -/
def Schedules : Prop :=
  match entry.cause with
  | .handled event =>
    (event = .challenged ∨ event.watchtower.isSome) ∧ entry.after.watchtowersDone
  | _ => False

/-- What the duties of a step say about it. -/
structure Sound (library : BuilderLibrary) (chain : UInt32 → Block) : Prop where
  blockhash : ∀ record ∈ entry.duties, ∀ hash, record.duty.latestBlockhash = some hash →
    entry.cause = .handled .timeToSendLatestBlockhash ∧
      hash = (chain entry.height).header.computeBlockHash library.sha256
  asserts : ∀ record ∈ entry.duties, record.duty.isOperatorAsserts = true →
    entry.after.assertsReady ∧ entry.EvaluatesAsserts

end KickoffEntry

/-- What was scheduled at a height for another one is not due before the position. -/
def BlockPosition.Awaits (position : BlockPosition) (height scheduled : UInt32) : Prop :=
  match position with
  | .before next => height < next ∧ next ≤ scheduled
  | .inside current => height = current ∨ (height < current ∧ current ≤ scheduled)

variable {event : KickoffEvent} {matchers : Matchers KickoffEvent} {env : StateEnvironment}
  {height : UInt32} {machine : KickoffStateMachine} {trace : List KickoffEntry}
  {position : BlockPosition}

namespace KickoffStateMachine

variable {library : BuilderLibrary} {config : StateConfig}

open StateManager StateContext

/-- The outputs that were spent in a run. -/
def spentOutputs (trace : List KickoffEntry) : List WatchedOutput :=
  trace.filterMap KickoffEntry.spentOutput

/-- Each watched output is spent at most once. -/
def SpentOnce (trace : List KickoffEntry) : Prop := (spentOutputs trace).Nodup

/-- The block hashes of all `SendLatestBlockhash` duties. -/
def latestBlockhashes (trace : List KickoffEntry) : List Bytes32 :=
  (trace.flatMap KickoffEntry.duties).filterMap fun record => record.duty.latestBlockhash

/-- The number of steps with a `SendOperatorAsserts` duty. -/
def assertsCount (trace : List KickoffEntry) : Nat :=
  trace.countP KickoffEntry.sendsAsserts

/-- No restart of a challenged machine with all watchtower challenge outputs spent. -/
def NoScheduledRestart (trace : List KickoffEntry) : Prop :=
  ∀ entry ∈ trace, entry.cause = .reloaded → entry.before.state = .challenged →
    ¬ entry.before.watchtowersDone

instance (trace : List KickoffEntry) : Decidable (NoScheduledRestart trace) :=
  inferInstanceAs (Decidable (∀ entry ∈ trace, _))

/-! ## The duties of a step -/

variable {result : KickoffStateMachine × StateContext} {self : KickoffStateMachine}
  {context : StateContext}

section Duties

variable {property : Duty → Prop}

theorem adds_asserts_of (asserts : self.assertsReady → ∀ kickoff deposit challenges payout latest,
    property (.sendOperatorAsserts kickoff deposit challenges payout latest)) :
    Adds property context (self.sendOperatorAssertsIfReady context) := by
  unfold sendOperatorAssertsIfReady
  split_ifs with ready
  · exact adds_captureDuty _ _ (asserts ready _ _ _ _ _)
  · exact .refl

theorem adds_disprove_of (disproves : ∀ kickoff deposit asserts acks payout latest,
    property (.verifierDisprove kickoff deposit asserts acks payout latest)) :
    Adds property context (self.disproveIfReady context) := by
  unfold disproveIfReady
  split_ifs
  · exact adds_captureDuty _ _ (disproves _ _ _ _ _ _)
  · exact .refl

theorem adds_advance_of (asserts : self.assertsReady → ∀ kickoff deposit challenges payout latest,
      property (.sendOperatorAsserts kickoff deposit challenges payout latest))
    (disproves : ∀ kickoff deposit asserts acks payout latest,
      property (.verifierDisprove kickoff deposit asserts acks payout latest)) :
    Adds property context (self.advance context).2 := by
  unfold advance createMatcherForLatestBlockhashIfReady
  dsimp only
  split_ifs
  · exact (adds_asserts_of asserts).trans (adds_disprove_of disproves)
  · exact (adds_asserts_of asserts).trans (adds_disprove_of disproves)

/-- The duties that an event can cause. -/
def Causes (library : BuilderLibrary) (context : StateContext) (event : KickoffEvent)
    (after : KickoffStateMachine) : Duty → Prop
  | .sendLatestBlockhash _ _ latestBlockhash =>
    event = .timeToSendLatestBlockhash ∧
      latestBlockhash = context.cache.block.header.computeBlockHash library.sha256
  | .sendOperatorAsserts _ _ _ _ _ =>
    after.assertsReady ∧ (event = .challenged ∨ event.watchtower.isSome ∨
      event.spentOutput = some .latestBlockhash)
  | _ => True

theorem Outcome.causes (outcome : self.Outcome library context matchers event result) :
    Adds (Causes library context event result.1) context result.2 := by
  cases outcome with
  | challenged =>
    have relevant : Causes library context .challenged
        (({ self.withTable matchers with state := .challenged }).onChallengedEntry context).1
        (.addRelevantTxsToTxSenderIfChallenged self.kickoffData self.depositData) := trivial
    refine Adds.trans (adds_captureDuty _ _ relevant) (adds_advance_of ?_ ?_)
    · intro ready _ _ _ _ _
      rw [onChallengedEntry_fst]
      exact ⟨ready, .inl rfl⟩
    · exact fun _ _ _ _ _ _ => trivial
  | watchtower spent adds =>
    refine Adds.trans ?_ (adds_advance_of ?_ ?_)
    · rcases adds with rfl | rfl
      · exact .refl
      · exact adds_captureDuty _ _ trivial
    · intro ready _ _ _ _ _
      rw [advance_fst]
      exact ⟨ready, .inr (.inl (by rw [spent]; rfl))⟩
    · exact fun _ _ _ _ _ _ => trivial
  | latestBlockhash latestBlockhash =>
    refine Adds.trans (adds_asserts_of ?_) (adds_disprove_of ?_)
    · exact fun ready _ _ _ _ _ => ⟨ready, .inr (.inr rfl)⟩
    · exact fun _ _ _ _ _ _ => trivial
  | asserted => exact adds_disprove_of fun _ _ _ _ _ _ => trivial
  | acknowledged => exact adds_disprove_of fun _ _ _ _ _ _ => trivial
  | closed => exact .refl
  | sendLatestBlockhash => exact adds_captureDuty _ _ ⟨rfl, rfl⟩
  | sendWatchtowerChallenge => exact adds_captureDuty _ _ trivial

/-- The entry action of a state sends no block hash, and asserts in the state `challenged`. -/
theorem causes_onEntry :
    Adds (fun duty => duty.latestBlockhash = none ∧ (duty.isOperatorAsserts = true →
        (self.onEntry library context).1.assertsReady ∧ self.state = .challenged))
      context (self.onEntry library context).2 := by
  unfold onEntry
  cases stands : self.state with
  | kickoffStarted =>
    dsimp only [onKickoffStartedEntry]
    split
    · exact adds_pushError _ _ _
    · exact adds_captureDuty _ _ ⟨rfl, fun asserts => by cases asserts⟩
  | challenged =>
    dsimp only
    refine Adds.trans (adds_captureDuty _ _ ⟨rfl, fun asserts => by cases asserts⟩)
      (adds_advance_of ?_ ?_)
    · intro ready _ _ _ _ _
      rw [onChallengedEntry_fst]
      exact ⟨rfl, fun _ => ⟨ready, rfl⟩⟩
    · exact fun _ _ _ _ _ _ => ⟨rfl, fun asserts => by cases asserts⟩
  | closed => exact .refl

end Duties

/-! ## The matchers of a new machine -/

section Defaults

/-- The outputs of a kickoff whose spending a new machine waits for. -/
def IsMatched (numWatchtowers : Nat) : UtxoVout → Prop
  | .assert assertIdx => assertIdx < numberOfAssertTxs
  | .watchtowerChallenge watchtowerIdx | .watchtowerChallengeAck watchtowerIdx =>
    watchtowerIdx < numWatchtowers
  | .latestBlockhash | .challenge => True
  | _ => False

/-- The event that an output of a kickoff was spent. -/
def spentEvent (outpoint : OutPoint) : UtxoVout → KickoffEvent
  | .assert assertIdx => .operatorAssertSent assertIdx outpoint
  | .watchtowerChallenge watchtowerIdx => .watchtowerChallengeSent watchtowerIdx outpoint
  | .watchtowerChallengeAck watchtowerIdx => .operatorChallengeAckSent watchtowerIdx outpoint
  | .latestBlockhash => .latestBlockHashSent outpoint
  | _ => .challenged

/-- A matcher of `add_default_kickoff_matchers` and its event. -/
inductive IsDefault (numWatchtowers : Nat) : Matcher → KickoffEvent → Prop where
  | output {outpoint : OutPoint} {txids : List Txid} (vout : UtxoVout)
      (matched : IsMatched numWatchtowers vout) (place : outpoint.vout = vout.getVout) :
      IsDefault numWatchtowers (.spentUtxoButNotTxid outpoint txids) (spentEvent outpoint vout)
  | timeout {txid : Txid} {watchtowerIdx : Nat} (inRange : watchtowerIdx < numWatchtowers) :
      IsDefault numWatchtowers (.sentTx txid) (.watchtowerChallengeTimeoutSent watchtowerIdx)
  | burnConnector {outpoint : OutPoint} (place : outpoint.vout = 0) :
      IsDefault numWatchtowers (.spentUtxo outpoint) .burnConnectorSpent
  | finalizer {outpoint : OutPoint} (place : outpoint.vout = 1) :
      IsDefault numWatchtowers (.spentUtxo outpoint) .kickoffFinalizerSpent

namespace IsDefault

variable {numWatchtowers : Nat} {matcher : Matcher} {event : KickoffEvent}
  (default : IsDefault numWatchtowers matcher event)

include default

theorem noHeight (height : UInt32) : matcher ≠ .blockHeight height := by
  cases default <;> simp

theorem noTime : event ≠ .timeToSendLatestBlockhash := by
  cases default with
  | output vout => cases vout <;> simp [spentEvent]
  | _ => simp

theorem noSave : event ≠ .savedToDb := by
  cases default with
  | output vout => cases vout <;> simp [spentEvent]
  | _ => simp

theorem watchtower (watchtowerIdx : Nat) (same : event.watchtower = some watchtowerIdx) :
    watchtowerIdx < numWatchtowers := by
  cases default with
  | output vout matched =>
    cases vout with
    | watchtowerChallenge => exact Option.some_inj.mp same ▸ matched
    | _ => cases same
  | timeout inRange => exact Option.some_inj.mp same ▸ inRange
  | _ => cases same

/-- Except for timeouts, the condition of a matcher determines its event. -/
theorem event_eq {other : KickoffEvent} (few : 2 * numWatchtowers + 41 ≤ 2 ^ 32)
    (noTx : ∀ txid, matcher ≠ .sentTx txid) (second : IsDefault numWatchtowers matcher other) :
    event = other := by
  cases default with
  | output vout matched place =>
    cases second with
    | output vout' matched' place' =>
      have fits : ∀ vout : UtxoVout, IsMatched numWatchtowers vout → vout.position < 2 ^ 32 := by
        intro vout matched
        cases vout <;> simp [IsMatched, numberOfAssertTxs, UtxoVout.position] at matched ⊢ <;> omega
      have position : vout.position = vout'.position := by
        rw [← vout.toNat_getVout (fits vout matched), ← place, place',
          vout'.toNat_getVout (fits vout' matched')]
      have same : vout = vout' := by
        cases vout <;> cases vout' <;>
          simp [IsMatched, numberOfAssertTxs, UtxoVout.position] at matched matched' position ⊢ <;>
          omega
      rw [same]
  | timeout => exact absurd rfl (noTx _)
  | burnConnector place =>
    cases second with
    | burnConnector => rfl
    | finalizer place' => cases place.symm.trans place'
  | finalizer place =>
    cases second with
    | burnConnector place' => cases place.symm.trans place'
    | finalizer => rfl

end IsDefault

variable {matcher : Matcher}

theorem lookup_insertUntilError {α ε : Type} {entries : List (Except α (Matcher × ε))}
    {matchers : Matchers ε} {found : ε}
    (present : (insertUntilError entries matchers).1.lookup matcher = some found) :
    matchers.lookup matcher = some found ∨ .ok (matcher, found) ∈ entries := by
  induction entries generalizing matchers with
  | nil => exact .inl present
  | cons entry rest ih =>
    cases entry with
    | error failure => exact .inl present
    | ok entry =>
      rcases ih present with before | later
      · rcases lookup_of_insert before with ⟨rfl, rfl⟩ | before
        · exact .inr mem_cons_self
        · exact .inl before
      · exact .inr (mem_cons_of_mem _ later)

theorem isDefault_of_mem {txhandlers : TxHandlers} {kickoffTxhandler : TxHandler}
    (member : .ok (matcher, event) ∈
      self.defaultKickoffMatchers library txhandlers kickoffTxhandler) :
    IsDefault self.depositData.getNumWatchtowers matcher event := by
  have of_map : ∀ {type : TransactionType} {entry : TxHandler → Matcher × KickoffEvent},
      (txhandlers.getTxhandler type).map entry = .ok (matcher, event) →
        ∃ handler, entry handler = (matcher, event) := by
    intro type entry same
    cases found : txhandlers.getTxhandler type with
    | error failure =>
      rw [found] at same
      cases same
    | ok handler =>
      rw [found] at same
      exact ⟨handler, Except.ok.inj same⟩
  simp only [defaultKickoffMatchers, mem_append, mem_map, mem_cons,
    mem_flatMap, mem_range, watchtowerEntries, not_mem_nil, or_false] at member
  rcases member with (⟨assertIdx, inRange, entry⟩ | entry | ⟨watchtowerIdx, inRange, entry⟩) | entry
  · obtain ⟨_, same⟩ := of_map entry
    cases same
    exact .output (.assert assertIdx) inRange rfl
  · obtain ⟨_, same⟩ := of_map entry.symm
    cases same
    exact .output .latestBlockhash trivial rfl
  · rcases entry with entry | entry | entry
    · obtain ⟨_, same⟩ := of_map entry.symm
      cases same
      exact .timeout inRange
    · obtain ⟨_, same⟩ := of_map entry.symm
      cases same
      exact .output (.watchtowerChallenge watchtowerIdx) inRange rfl
    · unfold challengeAckEntry at entry
      cases timeout : txhandlers.getTxhandler (.watchtowerChallengeTimeout watchtowerIdx) with
      | error failure =>
        rw [timeout] at entry
        cases entry
      | ok timeoutHandler =>
        cases nack : txhandlers.getTxhandler (.operatorChallengeNack watchtowerIdx) with
        | error failure =>
          rw [timeout, nack] at entry
          cases entry
        | ok nackHandler =>
          rw [timeout, nack] at entry
          cases entry
          exact .output (.watchtowerChallengeAck watchtowerIdx) inRange rfl
  · rcases entry with entry | entry | entry
    · obtain ⟨_, same⟩ := of_map entry.symm
      cases same
      exact .burnConnector rfl
    · cases entry
      exact .finalizer rfl
    · obtain ⟨_, same⟩ := of_map entry.symm
      cases same
      exact .output .challenge trivial rfl

theorem lookup_onKickoffStartedEntry
    (present : (self.onKickoffStartedEntry library context).1.matchers.lookup matcher =
      some event) :
    self.matchers.lookup matcher = some event ∨
      IsDefault self.depositData.getNumWatchtowers matcher event := by
  unfold onKickoffStartedEntry addDefaultKickoffMatchers at present
  refine (lookup_insertUntilError present).imp_right fun member => ?_
  split at member
  · simp at member
  · split at member
    · simp at member
    · exact isDefault_of_mem member

/-- Where the matchers after the entry action of a state come from. -/
theorem lookup_onEntry
    (present : (self.onEntry library context).1.matchers.lookup matcher = some event) :
    self.matchers.lookup matcher = some event ∨
      IsDefault self.depositData.getNumWatchtowers matcher event ∨
      (self.state = .challenged ∧ event = .timeToSendWatchtowerChallenge) ∨
      (self.state = .challenged ∧ (self.onEntry library context).1.watchtowersDone ∧
        event = .timeToSendLatestBlockhash) := by
  unfold onEntry at present ⊢
  cases stands : self.state with
  | kickoffStarted =>
    rw [stands] at present
    exact (lookup_onKickoffStartedEntry present).imp_right .inl
  | challenged =>
    rw [stands] at present
    dsimp only at present ⊢
    rw [onChallengedEntry_fst] at present ⊢
    dsimp only at present
    split_ifs at present with all
    · rcases lookup_of_insert present with ⟨-, value⟩ | before
      · exact .inr (.inr (.inr ⟨rfl, ⟨rfl, all⟩, value⟩))
      · exact (lookup_of_insert before).elim (fun new => .inr (.inr (.inl ⟨rfl, new.2⟩))) .inl
    · exact (lookup_of_insert present).elim (fun new => .inr (.inr (.inl ⟨rfl, new.2⟩))) .inl
  | closed =>
    rw [stands] at present
    dsimp only [onClosedEntry] at present
    rw [AList.lookup_empty] at present
    cases present

end Defaults

/-! ## What a run knows -/

variable {output : WatchedOutput}

section Tracked

/-- A machine agrees with the events of its trace. -/
structure Tracked (library : BuilderLibrary) (chain : UInt32 → Block) (trace : List KickoffEntry)
    (machine : KickoffStateMachine) : Prop where
  closed : machine.state = .closed → machine.matchers = ∅
  started : machine.state = .kickoffStarted → machine.challenged = false
  flagged : machine.state = .challenged → machine.challenged = true
  watchtowers : ∀ matcher event watchtowerIdx, machine.matchers.lookup matcher = some event →
    event.watchtower = some watchtowerIdx → watchtowerIdx < machine.depositData.getNumWatchtowers
  changes : ∀ matcher event, machine.matchers.lookup matcher = some event → event ≠ .savedToDb
  spent : ∀ watchtowerIdx ∈ machine.spentWatchtowerUtxos,
    watchtowerIdx < machine.depositData.getNumWatchtowers ∧
      .watchtowerChallenge watchtowerIdx ∈ spentOutputs trace
  latest : machine.latestBlockhash ≠ [] → .latestBlockhash ∈ spentOutputs trace
  sound : ∀ entry ∈ trace, entry.Sound library chain

theorem spentOutputs_append (steps : List KickoffEntry) :
    spentOutputs (trace ++ steps) = spentOutputs trace ++ spentOutputs steps :=
  filterMap_append

theorem spentOutputs_subset (steps : List KickoffEntry) :
    spentOutputs trace ⊆ spentOutputs (trace ++ steps) := by
  rw [spentOutputs_append]
  exact subset_append_left _ _

/-- A run that is at the end of a step goes on with a machine that handles events. -/
theorem Tracked.isOpen {cache : BlockCache} (tracked : Tracked library chain trace machine)
    (matched : machine.matchers.matchBlock cache = some event) : machine.state ≠ .closed := by
  intro closed
  obtain ⟨_, _, present, -⟩ := exists_of_matchBlock matched
  rw [tracked.closed closed, AList.lookup_empty] at present
  cases present

/-- What a machine does with an event that matches. -/
theorem Tracked.outcome (tracked : Tracked library chain trace machine)
    (matched : machine.matchers.matchBlock (fromBlock library (chain height) height) =
      some event) (clean : (machine.handleWithContext library event
      (blockContext library env chain height)).2.errors = []) :
    ∃ matchers, Removed event machine.matchers matchers ∧
      BlockOutcome library chain env height machine matchers event := by
  obtain ⟨matcher, _, present, -⟩ := exists_of_matchBlock matched
  exact outcome_handleWithContext (tracked.isOpen matched)
    (tracked.changes matcher event present) clean

theorem Outcome.latestBlockhash_eq (outcome : self.Outcome library context matchers event result)
    (other : event.spentOutput ≠ some .latestBlockhash) :
    result.1.latestBlockhash = self.latestBlockhash := by
  cases outcome with
  | challenged => rw [onChallengedEntry_fst]; rfl
  | watchtower => rw [advance_fst]; rfl
  | latestBlockhash => exact absurd rfl other
  | _ => rfl

theorem spentOutput_of_watchtower {watchtowerIdx : Nat}
    (spent : event.watchtower = some watchtowerIdx) :
    event.spentOutput = some (.watchtowerChallenge watchtowerIdx) := by
  cases event <;> cases spent <;> rfl

theorem Outcome.matchers_of_closed (outcome : self.Outcome library context matchers event result)
    (isOpen : self.state ≠ .closed) (closed : result.1.state = .closed) :
    result.1.matchers = ∅ := by
  cases outcome with
  | challenged =>
    rw [onChallengedEntry_fst] at closed
    cases closed
  | watchtower =>
    rw [advance_fst] at closed
    exact absurd closed isOpen
  | closed => rfl
  | _ => exact absurd closed isOpen

theorem sound_handledEntry
    (outcome : BlockOutcome library chain env height machine matchers event) :
    (handledEntry library chain env height machine event).Sound library chain := by
  have causes : ∀ record ∈ (handledEntry library chain env height machine event).duties,
      Causes library (blockContext library env chain height) event
        (handledEntry library chain env height machine event).after record.duty :=
    fun record member => (outcome.causes record member).resolve_left not_mem_nil
  refine ⟨?_, ?_⟩
  · intro record member hash blockhash
    have caused := causes record member
    cases duty : record.duty with
    | sendLatestBlockhash kickoff deposit latestBlockhash =>
      rw [duty] at caused blockhash
      cases blockhash
      refine ⟨congrArg KickoffCause.handled caused.1, caused.2.trans ?_⟩
      rw [blockContext, StateEnvironment.newContext, block_fromBlock]
      rfl
    | _ =>
      rw [duty] at blockhash
      cases blockhash
  · intro record member asserts
    have caused := causes record member
    cases duty : record.duty with
    | sendOperatorAsserts kickoff deposit challenges payout latest =>
      rw [duty] at caused
      exact caused
    | _ =>
      rw [duty] at asserts
      cases asserts

theorem mem_spentOutputs :
    output ∈ spentOutputs trace ↔ ∃ entry ∈ trace, entry.spentOutput = some output :=
  mem_filterMap

theorem Tracked.handled (tracked : Tracked library chain trace machine)
    (matched : machine.matchers.matchBlock (fromBlock library (chain height) height) =
      some event) (clean : (machine.handleWithContext library event
      (blockContext library env chain height)).2.errors = []) :
    Tracked library chain (trace ++ [handledEntry library chain env height machine event])
      (handledEntry library chain env height machine event).after := by
  obtain ⟨matcher, _, present, -⟩ := exists_of_matchBlock matched
  obtain ⟨matchers, removed, outcome⟩ := tracked.outcome matched clean
  have deposit : (machine.handleWithContext library event
    (blockContext library env chain height)).1.depositData = machine.depositData :=
      outcome.depositData
  have reported : ∀ output, event.spentOutput = some output → output ∈
      spentOutputs (trace ++ [handledEntry library chain env height machine event]) :=
    fun output spent => mem_spentOutputs.mpr ⟨_, mem_append_right _ (mem_singleton_self _), spent⟩
  refine ⟨outcome.matchers_of_closed (tracked.isOpen matched), ?_, ?_, ?_, ?_, ?_, ?_, ?_⟩
  · intro started
    have state := outcome.state.symm.trans started
    rw [handledEntry, outcome.challenges]
    split_ifs at state with ends challenged
    simp [tracked.started state, challenged]
  · intro standing
    have state := outcome.state.symm.trans standing
    rw [handledEntry, outcome.challenges]
    split_ifs at state with ends challenged
    · simp [challenged]
    · simp [tracked.flagged state]
  · intro matcher found watchtowerIdx present ofWatchtower
    rw [handledEntry, deposit]
    rcases outcome.lookup present with old | ⟨-, -, rfl⟩ | ⟨-, -, -, rfl⟩
    · exact tracked.watchtowers matcher found watchtowerIdx (removed.old old) ofWatchtower
    · cases ofWatchtower
    · cases ofWatchtower
  · intro matcher found present
    rcases outcome.lookup present with old | ⟨-, -, rfl⟩ | ⟨-, -, -, rfl⟩
    · exact tracked.changes matcher found (removed.old old)
    · simp
    · simp
  · intro watchtowerIdx spent
    rw [handledEntry, outcome.spent] at spent
    rw [handledEntry, deposit]
    have before : watchtowerIdx ∈ machine.spentWatchtowerUtxos →
        watchtowerIdx < machine.depositData.getNumWatchtowers ∧ .watchtowerChallenge watchtowerIdx ∈
          spentOutputs (trace ++ [handledEntry library chain env height machine event]) :=
      fun member => (tracked.spent _ member).imp_right fun spent => spentOutputs_subset _ spent
    cases ofWatchtower : event.watchtower with
    | none =>
      rw [ofWatchtower] at spent
      exact before spent
    | some idx =>
      rw [ofWatchtower] at spent
      rcases Finset.mem_insert.mp spent with rfl | old
      · exact ⟨tracked.watchtowers matcher event _ present ofWatchtower,
          reported _ (spentOutput_of_watchtower ofWatchtower)⟩
      · exact before old
  · intro latest
    by_cases sent : event.spentOutput = some .latestBlockhash
    · exact reported _ sent
    · rw [handledEntry, outcome.latestBlockhash_eq sent] at latest
      exact spentOutputs_subset _ (tracked.latest latest)
  · intro entry member
    rcases mem_append.mp member with old | new
    · exact tracked.sound entry old
    · rw [mem_singleton.mp new]
      exact sound_handledEntry outcome

variable {cause : KickoffCause}

/-- The entry action changes the table, and sets the flag in the state `challenged`. -/
theorem after_entered : ∃ matchers, (entered library chain cause env height machine).after =
      { machine with
        matchers
        challenged := if machine.state = .challenged then true else machine.challenged } := by
  obtain ⟨_, _, _, _, _, _, _, _, _, _, _, _, state⟩ := machine
  cases state with
  | kickoffStarted => exact ⟨_, rfl⟩
  | challenged => exact ⟨_, onChallengedEntry_fst⟩
  | closed => exact ⟨_, rfl⟩

theorem watchtowersDone_entered (done : machine.watchtowersDone) :
    (entered library chain cause env height machine).after.watchtowersDone := by
  obtain ⟨matchers, result⟩ := @after_entered chain env height machine library cause
  rw [result]
  refine ⟨?_, done.2⟩
  dsimp only
  split_ifs
  · rfl
  · exact done.1

theorem sound_entered (loaded : cause = .reloaded ∨ machine.state = .kickoffStarted) :
    (entered library chain cause env height machine).Sound library chain := by
  have causes := fun record member => (@causes_onEntry library machine
    (blockContext library env chain height) record member).resolve_left not_mem_nil
  refine ⟨?_, ?_⟩
  · intro record member hash blockhash
    have none := (causes record member).1
    rw [blockhash] at none
    cases none
  · intro record member asserts
    have caused := (causes record member).2 asserts
    refine ⟨caused.1, ?_⟩
    rcases loaded with rfl | started
    · exact caused.2
    · rw [caused.2] at started
      cases started

/-- The entry action of a state keeps what the machine knows. -/
theorem Tracked.entered (tracked : Tracked library chain trace machine)
    (loaded : cause = .reloaded ∨ machine.state = .kickoffStarted) :
    Tracked library chain (trace ++ [entered library chain cause env height machine])
      (entered library chain cause env height machine).after := by
  obtain ⟨matchers, result⟩ := @after_entered chain env height machine library cause
  refine ⟨?_, ?_, ?_, ?_, ?_, ?_, ?_, ?_⟩
  · intro closed
    rw [result] at closed
    dsimp only at closed
    change (machine.onEntry library (blockContext library env chain height)).1.matchers = ∅
    rw [onEntry, closed]
    rfl
  · intro started
    rw [result] at started ⊢
    dsimp only at started ⊢
    rw [started]
    exact tracked.started started
  · intro standing
    rw [result] at standing ⊢
    dsimp only at standing ⊢
    rw [if_pos standing]
  · intro matcher event watchtowerIdx present ofWatchtower
    have deposit : (KickoffStateMachine.entered library chain cause env height
        machine).after.depositData = machine.depositData := by rw [result]
    rw [deposit]
    rcases lookup_onEntry present with old | new | ⟨-, rfl⟩ | ⟨-, -, rfl⟩
    · exact tracked.watchtowers matcher event watchtowerIdx old ofWatchtower
    · exact new.watchtower watchtowerIdx ofWatchtower
    · cases ofWatchtower
    · cases ofWatchtower
  · intro matcher event present
    rcases lookup_onEntry present with old | new | ⟨-, rfl⟩ | ⟨-, -, rfl⟩
    · exact tracked.changes matcher event old
    · exact new.noSave
    · simp
    · simp
  · intro watchtowerIdx spent
    rw [result] at spent ⊢
    exact (tracked.spent watchtowerIdx spent).imp_right fun spent => spentOutputs_subset _ spent
  · intro latest
    rw [result] at latest
    exact spentOutputs_subset _ (tracked.latest latest)
  · intro entry member
    rcases mem_append.mp member with old | new
    · exact tracked.sound entry old
    · rw [mem_singleton.mp new]
      exact sound_entered loaded

theorem tracked_new {identity : Identity} : Tracked library chain [] identity.machine where
  closed closed := by cases closed
  started _ := rfl
  flagged standing := by cases standing
  watchtowers _ _ _ present _ := by simp [new] at present
  changes _ _ present := by simp [new] at present
  spent _ member := by simp [new] at member
  latest latest := absurd rfl latest
  sound _ member := absurd member not_mem_nil

/-- Along every run a machine agrees with the events of its trace. -/
theorem Run.tracked (run : Run library config chain trace machine position) :
    Tracked library chain trace machine := by
  induction run with
  | created => exact tracked_new.entered (.inr rfl)
  | started _ ih => exact ih
  | handled _ _ matched clean ih => exact ih.handled matched clean
  | finished _ _ _ ih => exact ih
  | saved _ ih =>
    exact ⟨ih.closed, ih.started, ih.flagged, ih.watchtowers, ih.changes, ih.spent, ih.latest,
      ih.sound⟩
  | reloaded _ _ _ ih => exact ih.entered (.inl rfl)

end Tracked

/-! ## Events of a complete machine -/

section Complete

theorem SpentOnce.of_append {steps : List KickoffEntry} (once : SpentOnce (trace ++ steps)) :
    SpentOnce trace := by
  rw [SpentOnce, spentOutputs_append] at once
  exact once.of_append_left

/-- An output that was spent before is not spent again. -/
theorem SpentOnce.not_again
    (once : SpentOnce (trace ++ [handledEntry library chain env height machine event]))
    (before : output ∈ spentOutputs trace) : event.spentOutput ≠ some output := by
  intro again
  rw [SpentOnce, spentOutputs_append] at once
  exact disjoint_of_nodup_append once before (mem_spentOutputs.mpr ⟨_, mem_singleton_self _, again⟩)

/-- When all watchtower challenge outputs are spent, no event of a watchtower follows. -/
theorem Tracked.watchtower_eq_none (tracked : Tracked library chain trace machine)
    (once : SpentOnce (trace ++ [handledEntry library chain env height machine event]))
    (matched : machine.matchers.matchBlock (fromBlock library (chain height) height) = some event)
    (done : machine.watchtowersDone) : event.watchtower = none := by
  cases ofWatchtower : event.watchtower with
  | none => rfl
  | some watchtowerIdx =>
    obtain ⟨matcher, _, present, -⟩ := exists_of_matchBlock matched
    have inRange := tracked.watchtowers matcher event watchtowerIdx present ofWatchtower
    have all : machine.spentWatchtowerUtxos =
        Finset.range machine.depositData.getNumWatchtowers := by
      refine Finset.eq_of_subset_of_card_le ?_ (by rw [done.2, Finset.card_range])
      exact fun idx member => Finset.mem_range.mpr (tracked.spent idx member).1
    have spent : watchtowerIdx ∈ machine.spentWatchtowerUtxos := by
      rw [all]
      exact Finset.mem_range.mpr inRange
    exact absurd (spentOutput_of_watchtower ofWatchtower)
      (once.not_again (tracked.spent watchtowerIdx spent).2)

/-- A machine is challenged once. -/
theorem Tracked.ne_challenged (tracked : Tracked library chain trace machine)
    (outcome : machine.Outcome library context matchers event result)
    (challenged : machine.challenged = true) : event ≠ .challenged := by
  rintro rfl
  cases outcome with
  | challenged started =>
    rw [tracked.started started] at challenged
    cases challenged
  | watchtower spent => cases spent
  | closed ends => rcases ends with ends | ends <;> cases ends

/-- A machine with all watchtower challenge outputs spent stays so. -/
theorem Outcome.watchtowersDone (outcome : machine.Outcome library context matchers event result)
    (other : event.watchtower = none) (done : machine.watchtowersDone) :
    result.1.watchtowersDone := by
  refine ⟨?_, ?_⟩
  · rw [outcome.challenges, done.1]
    rfl
  · rw [outcome.spent, outcome.depositData, other]
    exact done.2

end Complete

end KickoffStateMachine

/-! ## A challenged kickoff -/

namespace Regtest

open KickoffStateMachine

/-- The kickoff, a challenge, a watchtower challenge and a latest block hash, in consecutive
blocks. -/
def challengedChain (height : UInt32) : Block :=
  blockWith height
    (match height with
    | 191 => [spendingTx (spendsOf .kickoff)]
    | 192 => [spendingTx [kickoffOutput .challenge]]
    | 193 => [spendingTx [kickoffOutput (.watchtowerChallenge 0)]]
    | 194 => [spendingTx [kickoffOutput .latestBlockhash]]
    | _ => [])

def kickoffIdentity : Identity := ⟨kickoffData, depositData, 191, [[1]]⟩

/-- The first step of the machine of the kickoff. -/
def createdEntry (env : StateEnvironment) (chain : UInt32 → Block) : KickoffEntry :=
  entered library chain .created env (previousHeight kickoffIdentity.kickoffHeight)
    kickoffIdentity.machine

/-- The machine of the kickoff on consecutive blocks, with restarts before some of them. -/
def kickoffTrace (env : StateEnvironment) (chain : UInt32 → Block) (restarts : List Bool) :
    Option (List KickoffEntry × KickoffStateMachine) :=
  execute library chain env 8 restarts kickoffIdentity.kickoffHeight [createdEntry env chain]
    (createdEntry env chain).after

theorem run_of_kickoffTrace {restarts : List Bool}
    {result : List KickoffEntry × KickoffStateMachine}
    (clean : (kickoffIdentity.machine.initWithContext library (StateManager.blockContext library
      env chain (previousHeight kickoffIdentity.kickoffHeight))).2.errors = [])
    (bound : kickoffIdentity.kickoffHeight.toNat + restarts.length < 2 ^ 32)
    (executed : kickoffTrace env chain restarts = some result) :
    Run library env.config chain result.1 result.2
      (.before (kickoffIdentity.kickoffHeight + ofNat restarts.length)) :=
  (Run.created rfl clean).execute bound executed

/-- A restart after the challenge and before the watchtower challenge. -/
theorem early_restart :
    ∃ trace machine position, Run library config challengedChain trace machine position ∧
      SpentOnce trace ∧ NoScheduledRestart trace ∧ assertsCount trace = 1 ∧
      (latestBlockhashes trace).length = 1 := by
  have executed : (kickoffTrace (environmentOf challengedChain) challengedChain
      [false, false, true, false]).map (fun result => (spentOutputs result.1,
        decide (NoScheduledRestart result.1), assertsCount result.1,
        (latestBlockhashes result.1).length)) =
      some ([.watchtowerChallenge 0, .latestBlockhash], true, 1, 1) := by
    decide +kernel
  obtain ⟨⟨trace, machine⟩, found, values⟩ := Option.map_eq_some_iff.mp executed
  have run := run_of_kickoffTrace (by decide +kernel) (by decide) found
  simp only [Prod.mk.injEq, decide_eq_true_eq] at values
  refine ⟨trace, machine, _, run, ?_, values.2⟩
  rw [SpentOnce, values.1]
  decide

/-- A restart after the latest block hash. -/
theorem late_restart :
    ∃ trace machine position, Run library config challengedChain trace machine position ∧
      SpentOnce trace ∧ assertsCount trace = 2 ∧ latestBlockhashes trace =
        [(challengedChain 193).header.computeBlockHash library.sha256,
          (challengedChain 195).header.computeBlockHash library.sha256] := by
  have executed : (kickoffTrace (environmentOf challengedChain) challengedChain
      [false, false, false, false, true]).map (fun result => (spentOutputs result.1,
        assertsCount result.1, latestBlockhashes result.1)) =
      some ([.watchtowerChallenge 0, .latestBlockhash], 2,
        [(challengedChain 193).header.computeBlockHash library.sha256,
          (challengedChain 195).header.computeBlockHash library.sha256]) := by
    decide +kernel
  obtain ⟨⟨trace, machine⟩, found, values⟩ := Option.map_eq_some_iff.mp executed
  have run := run_of_kickoffTrace (by decide +kernel) (by decide) found
  simp only [Prod.mk.injEq] at values
  refine ⟨trace, machine, _, run, ?_, values.2⟩
  rw [SpentOnce, values.1]
  decide

end Regtest

namespace KickoffStateMachine

open StateManager

/-! ## The asserts -/

variable {library : BuilderLibrary} {config : StateConfig}

section Asserts

/-- The asserts were sent at most once, and then the machine is complete. -/
structure AssertsOnce (trace : List KickoffEntry) (machine : KickoffStateMachine) : Prop where
  count : assertsCount trace ≤ 1
  ready : ∀ entry ∈ trace, entry.sendsAsserts = true → machine.assertsReady

theorem AssertsOnce.append {entry : KickoffEntry} (once : AssertsOnce trace machine)
    (keeps : machine.assertsReady → entry.after.assertsReady ∧ entry.sendsAsserts = false)
    (sends : entry.sendsAsserts = true → entry.after.assertsReady) :
    AssertsOnce (trace ++ [entry]) entry.after := by
  have count : assertsCount (trace ++ [entry]) = assertsCount trace +
      assertsCount [entry] := countP_append
  refine ⟨?_, ?_⟩
  · rw [count]
    by_cases sent : ∃ earlier ∈ trace, earlier.sendsAsserts = true
    · obtain ⟨earlier, member, sent⟩ := sent
      have silent := (keeps (once.ready earlier member sent)).2
      have zero : assertsCount [entry] = 0 := by
        rw [assertsCount, countP_eq_zero]
        intro other inSingleton
        rw [mem_singleton.mp inSingleton]
        exact Bool.eq_false_iff.mp silent
      rw [zero]
      exact once.count
    · have zero : assertsCount trace = 0 := by
        rw [assertsCount, countP_eq_zero]
        exact fun earlier member sends => sent ⟨earlier, member, sends⟩
      rw [zero, Nat.zero_add]
      exact countP_le_length
  · intro earlier member sent
    rcases mem_append.mp member with old | new
    · exact (keeps (once.ready earlier old sent)).1
    · rw [mem_singleton.mp new] at sent
      exact sends sent

end Asserts

/-! ## The latest block hash -/

section LatestBlockhash

/-- The height that is scheduled in a block. -/
def scheduledHeight (config : StateConfig) (height : UInt32) : UInt32 :=
  height + config.protocolParamset.finalityDepth - 1

/-- The height at which an event that is scheduled for a height is delivered. -/
def deliveryHeight (height scheduled : UInt32) : UInt32 :=
  if height < scheduled then scheduled else height

theorem latestBlockhashHeight_blockContext (same : env.config = config) :
    latestBlockhashHeight (blockContext library env chain height) =
      scheduledHeight config height := by
  unfold latestBlockhashHeight scheduledHeight blockContext StateEnvironment.newContext
  rw [blockHeight_fromBlock, same]

/-- The latest block hash is scheduled in one block and delivered in one block. -/
structure BlockhashOnce (config : StateConfig) (trace : List KickoffEntry)
    (machine : KickoffStateMachine) (position : BlockPosition) : Prop where
  done : ∀ entry ∈ trace, entry.Schedules → machine.watchtowersDone
  unique : ∀ entry ∈ trace, ∀ other ∈ trace, entry.Schedules → other.Schedules →
    entry.height = other.height
  pending : ∀ matcher, machine.matchers.lookup matcher = some .timeToSendLatestBlockhash →
    ∃ entry ∈ trace, entry.Schedules ∧
      matcher = .blockHeight (scheduledHeight config entry.height) ∧
      position.Awaits entry.height (scheduledHeight config entry.height)
  delivered : ∀ delivery ∈ trace, delivery.cause = .handled .timeToSendLatestBlockhash →
    ∃ entry ∈ trace, entry.Schedules ∧
      delivery.height = deliveryHeight entry.height (scheduledHeight config entry.height)

/-- The first time that the latest block hash can be scheduled. -/
theorem BlockhashOnce.schedules (before : BlockhashOnce config trace machine (.inside height))
    (same : env.config = config) (none : ∀ entry ∈ trace, ¬ entry.Schedules)
    (removed : Matchers.Removed event machine.matchers matchers)
    (outcome : BlockOutcome library chain env height machine matchers event)
    (evaluates : event = .challenged ∨ event.watchtower.isSome) :
    BlockhashOnce config (trace ++ [handledEntry library chain env height machine event])
      (handledEntry library chain env height machine event).after (.inside height) := by
  have cases_append : ∀ entry ∈ trace ++ [handledEntry library chain env height machine event],
      entry.Schedules → entry = handledEntry library chain env height machine event := by
    intro entry member schedules
    rcases mem_append.mp member with old | new
    · exact absurd schedules (none entry old)
    · exact mem_singleton.mp new
  refine ⟨?_, ?_, ?_, ?_⟩
  · intro entry member schedules
    have new := cases_append entry member schedules
    rw [new] at schedules
    exact schedules.2
  · intro entry member other memberOther schedules schedulesOther
    rw [cases_append entry member schedules, cases_append other memberOther schedulesOther]
  · intro matcher present
    rcases outcome.lookup present with old | ⟨-, -, wrong⟩ | ⟨-, done, key, -⟩
    · obtain ⟨entry, member, schedules, -⟩ := before.pending matcher (removed.old old)
      exact absurd schedules (none entry member)
    · cases wrong
    · refine ⟨_, mem_append_right _ (mem_singleton_self _), ⟨evaluates, done⟩, ?_, .inl rfl⟩
      rw [key, latestBlockhashHeight_blockContext same]
      rfl
  · intro delivery member cause
    rcases mem_append.mp member with old | new
    · obtain ⟨entry, member, schedules, -⟩ := before.delivered delivery old cause
      exact absurd schedules (none entry member)
    · rw [mem_singleton.mp new] at cause
      cases cause
      rcases evaluates with wrong | wrong <;> cases wrong

/-- A step that schedules nothing. -/
theorem BlockhashOnce.append {entry : KickoffEntry}
    (before : BlockhashOnce config trace machine position) (silent : ¬ entry.Schedules)
    (done : machine.watchtowersDone → entry.after.watchtowersDone)
    (pending : ∀ matcher, entry.after.matchers.lookup matcher = some .timeToSendLatestBlockhash →
      machine.matchers.lookup matcher = some .timeToSendLatestBlockhash)
    (delivers : entry.cause = .handled .timeToSendLatestBlockhash → ∃ earlier ∈ trace,
      earlier.Schedules ∧
        entry.height = deliveryHeight earlier.height (scheduledHeight config earlier.height)) :
    BlockhashOnce config (trace ++ [entry]) entry.after position := by
  have old_of_schedules : ∀ other ∈ trace ++ [entry], other.Schedules → other ∈ trace := by
    intro other member schedules
    refine (mem_append.mp member).resolve_right fun new => ?_
    rw [mem_singleton.mp new] at schedules
    exact silent schedules
  refine ⟨?_, ?_, ?_, ?_⟩
  · intro other member schedules
    exact done (before.done other (old_of_schedules other member schedules) schedules)
  · intro other member later memberLater schedules schedulesLater
    exact before.unique other (old_of_schedules other member schedules) later
      (old_of_schedules later memberLater schedulesLater) schedules schedulesLater
  · intro matcher present
    obtain ⟨other, member, rest⟩ := before.pending matcher (pending matcher present)
    exact ⟨other, mem_append_left _ member, rest⟩
  · intro delivery member cause
    have found : ∃ earlier ∈ trace, earlier.Schedules ∧ delivery.height =
        deliveryHeight earlier.height (scheduledHeight config earlier.height) := by
      rcases mem_append.mp member with old | new
      · exact before.delivered delivery old cause
      · rw [mem_singleton.mp new] at cause ⊢
        exact delivers cause
    obtain ⟨other, inTrace, rest⟩ := found
    exact ⟨other, mem_append_left _ inTrace, rest⟩

/-- Other events deliver what was scheduled. -/
theorem BlockhashOnce.delivers (before : BlockhashOnce config trace machine (.inside height))
    (matched : machine.matchers.matchBlock (fromBlock library (chain height) height) =
      some event) (removed : Matchers.Removed event machine.matchers matchers)
    (outcome : BlockOutcome library chain env height machine matchers event)
    (other : ¬ (event = .challenged ∨ event.watchtower.isSome)) :
    BlockhashOnce config (trace ++ [handledEntry library chain env height machine event])
      (handledEntry library chain env height machine event).after (.inside height) := by
  have noWatchtower : event.watchtower = none := by
    rw [not_or] at other
    simpa using other.2
  refine before.append (fun schedules => other schedules.1)
    (outcome.watchtowersDone noWatchtower) ?_ ?_
  · intro matcher present
    rcases outcome.lookup present with old | ⟨-, -, wrong⟩ | ⟨evaluates, -⟩
    · exact removed.old old
    · cases wrong
    · exact absurd evaluates other
  · rintro ⟨⟩
    obtain ⟨matcher, _, present, satisfied⟩ := exists_of_matchBlock matched
    obtain ⟨entry, member, schedules, rfl, awaits⟩ := before.pending matcher present
    refine ⟨entry, member, schedules, ?_⟩
    have reached : scheduledHeight config entry.height ≤ height := by
      rw [Matcher.matches, blockHeight_fromBlock] at satisfied
      split_ifs at satisfied with reached
      exact reached
    rw [handledEntry, deliveryHeight]
    rcases awaits with same | ⟨earlier, due⟩
    · rw [if_neg]
      · exact same.symm
      · rw [same, UInt32.not_lt]
        exact same ▸ reached
    · have equal : scheduledHeight config entry.height = height := UInt32.le_antisymm reached due
      rw [equal, if_pos earlier]

/-- A height that is waited for at the end of a block comes later. -/
theorem lt_of_matchBlock_eq_none {due : UInt32}
    (quiet : machine.matchers.matchBlock (fromBlock library (chain height) height) = none)
    (present : machine.matchers.lookup (.blockHeight due) = some event) : height < due := by
  have unsatisfied := matches_eq_none_of_matchBlock quiet present
  rw [Matcher.matches, blockHeight_fromBlock] at unsatisfied
  split_ifs at unsatisfied with reached
  exact UInt32.not_le.mp reached

theorem toNat_next (bound : height.toNat + 1 < 2 ^ 32) : (height + 1).toNat = height.toNat + 1 := by
  rw [UInt32.toNat_add]
  exact Nat.mod_eq_of_lt bound

theorem BlockhashOnce.finished (before : BlockhashOnce config trace machine (.inside height))
    (quiet : machine.matchers.matchBlock (fromBlock library (chain height) height) = none)
    (bound : height.toNat + 1 < 2 ^ 32) :
    BlockhashOnce config trace machine (.before (height + 1)) := by
  refine ⟨before.done, before.unique, ?_, before.delivered⟩
  intro matcher present
  obtain ⟨entry, member, schedules, rfl, awaits⟩ := before.pending matcher present
  refine ⟨entry, member, schedules, rfl, ?_, ?_⟩
  · rw [lt_iff_toNat_lt, toNat_next bound]
    rcases awaits with same | ⟨earlier, -⟩
    · rw [same]
      exact Nat.lt_succ_self _
    · exact Nat.lt_succ_of_lt (lt_iff_toNat_lt.mp earlier)
  · rw [le_iff_toNat_le, toNat_next bound]
    exact lt_iff_toNat_lt.mp (lt_of_matchBlock_eq_none quiet present)

theorem Run.blockhashOnce (run : Run library config chain trace machine position)
    (once : SpentOnce trace) (unscheduled : NoScheduledRestart trace) :
    BlockhashOnce config trace machine position := by
  induction run with
  | @created env identity _ _ =>
    have none : BlockhashOnce config [] identity.machine (.before identity.kickoffHeight) :=
      ⟨fun _ member => absurd member not_mem_nil, fun _ member => absurd member not_mem_nil,
        fun _ present => by simp [new] at present, fun _ member => absurd member not_mem_nil⟩
    refine none.append id watchtowersDone_entered (fun matcher present => ?_) fun cause => by
      cases cause
    rcases lookup_onEntry present with old | new | ⟨wrong, -⟩ | ⟨wrong, -⟩
    · exact old
    · exact absurd rfl new.noTime
    · cases wrong
    · cases wrong
  | started _ ih =>
    have before := ih once unscheduled
    refine ⟨before.done, before.unique, ?_, before.delivered⟩
    intro matcher present
    obtain ⟨entry, member, schedules, key, awaits⟩ := before.pending matcher present
    exact ⟨entry, member, schedules, key, .inr awaits⟩
  | @handled trace machine height env event run same matched clean ih =>
    have tracked := run.tracked
    have before := ih once.of_append fun entry member =>
      unscheduled entry (mem_append_left _ member)
    obtain ⟨matchers, removed, outcome⟩ := tracked.outcome matched clean
    by_cases evaluates : event = .challenged ∨ event.watchtower.isSome
    · refine before.schedules same (fun entry member schedules => ?_) removed outcome evaluates
      have done := before.done entry member schedules
      rcases evaluates with challenged | ofWatchtower
      · exact tracked.ne_challenged outcome done.1 challenged
      · rw [tracked.watchtower_eq_none once matched done] at ofWatchtower
        cases ofWatchtower
    · exact before.delivers matched removed outcome evaluates
  | finished _ quiet bound ih => exact (ih once unscheduled).finished quiet bound
  | saved _ ih =>
    have before := ih once unscheduled
    exact ⟨before.done, before.unique, before.pending, before.delivered⟩
  | @reloaded trace machine height env run _ _ ih =>
    have before := ih once.of_append fun entry member =>
      unscheduled entry (mem_append_left _ member)
    have restart := unscheduled _ (mem_append_right _ (mem_singleton_self _)) rfl
    refine before.append id watchtowersDone_entered (fun matcher present => ?_) fun cause => by
      cases cause
    rcases lookup_onEntry present with old | new | ⟨-, wrong⟩ | ⟨challenged, done, -⟩
    · exact old
    · exact absurd rfl new.noTime
    · cases wrong
    · obtain ⟨matchers, result⟩ :=
        @after_entered chain env (previousHeight height) machine library .reloaded
      have spent : (entered library chain .reloaded env (previousHeight height)
        machine).after.watchtowersDone := done
      rw [result] at spent
      exact absurd ⟨run.tracked.flagged challenged, spent.2⟩ (restart challenged)

theorem mem_latestBlockhashes {hash : Bytes32} (member : hash ∈ latestBlockhashes trace) :
    ∃ entry ∈ trace, ∃ record ∈ entry.duties, record.duty.latestBlockhash = some hash := by
  obtain ⟨record, inDuties, found⟩ := mem_filterMap.mp member
  obtain ⟨entry, inTrace, inEntry⟩ := mem_flatMap.mp inDuties
  exact ⟨entry, inTrace, record, inEntry, found⟩

/-- Without a restart of a challenged machine with all watchtower challenge outputs spent, all
latest block hashes are the same. -/
theorem latest_blockhash_unique (run : Run library config chain trace machine position)
    (once : SpentOnce trace) (unscheduled : NoScheduledRestart trace) :
    ∀ first ∈ latestBlockhashes trace, ∀ second ∈ latestBlockhashes trace, first = second := by
  intro first memberFirst second memberSecond
  have invariant := run.blockhashOnce once unscheduled
  have sent : ∀ hash ∈ latestBlockhashes trace, ∃ entry ∈ trace, entry.Schedules ∧
      hash = (chain (deliveryHeight entry.height (scheduledHeight config
        entry.height))).header.computeBlockHash library.sha256 := by
    intro hash member
    obtain ⟨delivery, inTrace, record, inDuties, found⟩ := mem_latestBlockhashes member
    obtain ⟨cause, same⟩ :=
      (run.tracked.sound delivery inTrace).blockhash record inDuties hash found
    obtain ⟨entry, inTrace, schedules, height⟩ := invariant.delivered delivery inTrace cause
    exact ⟨entry, inTrace, schedules, height ▸ same⟩
  obtain ⟨entry, member, schedules, rfl⟩ := sent first memberFirst
  obtain ⟨other, memberOther, schedulesOther, rfl⟩ := sent second memberSecond
  rw [invariant.unique entry member other memberOther schedules schedulesOther]

/-- A kickoff whose machine is loaded again before its watchtower challenge. -/
theorem latest_blockhash_unique_after_early_restart :
    ∃ trace machine position, Run Regtest.library Regtest.config Regtest.challengedChain trace
      machine position ∧ (latestBlockhashes trace).length = 1 ∧
      ∀ first ∈ latestBlockhashes trace, ∀ second ∈ latestBlockhashes trace, first = second := by
  obtain ⟨trace, machine, position, run, once, waits, -, count⟩ := Regtest.early_restart
  exact ⟨trace, machine, position, run, count, latest_blockhash_unique run once waits⟩

/-- A machine that is loaded again after the latest block hash was sent sends another one. -/
theorem latest_blockhash_changes_after_restart :
    ∃ trace machine position, Run Regtest.library Regtest.config Regtest.challengedChain trace
      machine position ∧ SpentOnce trace ∧
      ∃ first second, latestBlockhashes trace = [first, second] ∧ first ≠ second := by
  obtain ⟨trace, machine, position, run, once, -, hashes⟩ := Regtest.late_restart
  exact ⟨trace, machine, position, run, once, _, _, hashes, by decide +kernel⟩

end LatestBlockhash

end KickoffStateMachine

end Clementine
