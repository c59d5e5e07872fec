import Clementine.Core.States.BlockProcessing

/-!
# Runs of a kickoff machine

A kickoff machine is created in the block before its kickoff and then handles the events that it
finds in each block, one after another.  Between two blocks it can be saved, and it can be loaded
again, which runs the entry action of its state in the context of the last block.  A run keeps a
trace of these steps with the duties that were dispatched.  The owner may answer differently each
time, the configuration and the blocks are fixed.
-/

namespace Clementine

open Matchers UInt32

/-- The steps in which a kickoff machine changes. -/
inductive KickoffCause where
  | created
  | handled (event : KickoffEvent)
  | reloaded
  deriving DecidableEq

/-- A step of a run: its cause, the height of the block of its context, the machine before and
after it, the duties, and the matchers in the order of their insertion. -/
structure KickoffEntry where
  cause : KickoffCause
  height : UInt32
  before : KickoffStateMachine
  after : KickoffStateMachine
  duties : List DutyRecord
  insertions : List (Matcher × KickoffEvent)

/-- Where a run stands: before the block of a height, or in it. -/
inductive BlockPosition where
  | before (height : UInt32)
  | inside (height : UInt32)

/-- The height of the block before another one. -/
def previousHeight (height : UInt32) : UInt32 := if height = 0 then 0 else height - 1

/-- The watchtower whose challenge output was spent. -/
def KickoffEvent.watchtower : KickoffEvent → Option Nat
  | .watchtowerChallengeSent watchtowerIdx _ => some watchtowerIdx
  | .watchtowerChallengeTimeoutSent watchtowerIdx => some watchtowerIdx
  | _ => none

/-- A table after matchers of an event were taken out. -/
structure Matchers.Removed {ε : Type} (event : ε) (before after : Matchers ε) : Prop where
  old : ∀ {matcher found}, after.lookup matcher = some found → before.lookup matcher = some found
  kept : ∀ {matcher found}, before.lookup matcher = some found → found ≠ event →
    after.lookup matcher = some found

theorem Matchers.removed_removeEvent {ε : Type} [DecidableEq ε] {order : TableOrder ε}
    {matchers : Matchers ε} {event : ε} :
    Removed event matchers (matchers.removeEvent order event) :=
  ⟨lookup_of_removeEvent, lookup_removeEvent⟩

theorem Matchers.Removed.trans {ε : Type} {event : ε} {first second third : Matchers ε}
    (left : Removed event first second) (right : Removed event second third) :
    Removed event first third :=
  ⟨fun found => left.old (right.old found),
    fun found other => right.kept (left.kept found other) other⟩

/-- Insertions one after another. -/
def Matchers.insertAll {ε : Type} (matchers : Matchers ε) (insertions : List (Matcher × ε)) :
    Matchers ε :=
  insertions.foldl (fun matchers insertion => matchers.insert insertion.1 insertion.2) matchers

namespace Matchers

variable {ε : Type} {matchers : Matchers ε} {insertions : List (Matcher × ε)} {matcher : Matcher}
  {event : ε}

/-- A matcher stays when every insertion for its condition carries its event. -/
theorem lookup_insertAll (present : matchers.lookup matcher = some event)
    (agree : ∀ insertion ∈ insertions, insertion.1 = matcher → insertion.2 = event) :
    (matchers.insertAll insertions).lookup matcher = some event := by
  induction insertions generalizing matchers with
  | nil => exact present
  | cons insertion rest ih =>
    refine ih ?_ fun later member => agree later (List.mem_cons_of_mem _ member)
    by_cases same : matcher = insertion.1
    · subst same
      rw [AList.lookup_insert, agree insertion List.mem_cons_self rfl]
    · rw [AList.lookup_insert_ne same]
      exact present

/-- An inserted matcher stays when every later insertion for its condition carries its event. -/
theorem lookup_insertAll_append {earlier later : List (Matcher × ε)}
    (agree : ∀ insertion ∈ later, insertion.1 = matcher → insertion.2 = event) :
    (matchers.insertAll (earlier ++ (matcher, event) :: later)).lookup matcher = some event := by
  have split : matchers.insertAll (earlier ++ (matcher, event) :: later) =
      insertAll ((matchers.insertAll earlier).insert matcher event) later := by
    rw [insertAll, List.foldl_append]
    rfl
  rw [split]
  exact lookup_insertAll (AList.lookup_insert _) agree

end Matchers

namespace KickoffStateMachine

open StateManager

/-! ## What an event does -/

variable {machine : KickoffStateMachine} {event : KickoffEvent} {matchers : Matchers KickoffEvent}

section Outcome

variable (library : BuilderLibrary) (self : KickoffStateMachine) (context : StateContext)

/-- The machine of a table without the matchers of an event. -/
def withTable (matchers : Matchers KickoffEvent) : KickoffStateMachine :=
  { self with dirty := true, matchers }

/-- The outcomes of an event that an open machine handles without errors. -/
inductive Outcome (matchers : Matchers KickoffEvent) :
    KickoffEvent → KickoffStateMachine × StateContext → Prop where
  | challenged (started : self.state = .kickoffStarted) :
      Outcome matchers .challenged
        (({ self.withTable matchers with state := .challenged }).onChallengedEntry context)
  | watchtower {event : KickoffEvent} {watchtowerIdx : Nat} {detected : StateContext}
      {watchtowerChallenges : AList fun _ : Nat => CircuitTransaction}
      (spent : event.watchtower = some watchtowerIdx)
      (adds : detected = context ∨ detected = context.captureDuty self.machineId
        "on_watchtower_challenge_detected"
        (.watchtowerChallengeDetected self.kickoffData self.depositData watchtowerIdx)) :
      Outcome matchers event
        (advance { self.withTable matchers with
          spentWatchtowerUtxos := insert watchtowerIdx self.spentWatchtowerUtxos
          watchtowerChallenges } detected)
  | latestBlockhash {outpoint : OutPoint} (latestBlockhash : Witness) :
      Outcome matchers (.latestBlockHashSent outpoint)
        ({ self.withTable matchers with latestBlockhash },
          ({ self.withTable matchers with latestBlockhash }).disproveIfReady
            (({ self.withTable matchers with latestBlockhash }).sendOperatorAssertsIfReady context))
  | asserted {assertIdx : Nat} {outpoint : OutPoint}
      (operatorAsserts : AList fun _ : Nat => Witness) :
      Outcome matchers (.operatorAssertSent assertIdx outpoint)
        ({ self.withTable matchers with operatorAsserts },
          ({ self.withTable matchers with operatorAsserts }).disproveIfReady context)
  | acknowledged {watchtowerIdx : Nat} {outpoint : OutPoint}
      (operatorChallengeAcks : AList fun _ : Nat => Witness) :
      Outcome matchers (.operatorChallengeAckSent watchtowerIdx outpoint)
        ({ self.withTable matchers with operatorChallengeAcks },
          ({ self.withTable matchers with operatorChallengeAcks }).disproveIfReady context)
  | closed {event : KickoffEvent}
      (ends : event = .kickoffFinalizerSpent ∨ event = .burnConnectorSpent) :
      Outcome matchers event ({ self.withTable ∅ with state := .closed }, context)
  | sendLatestBlockhash :
      Outcome matchers .timeToSendLatestBlockhash
        (self.withTable matchers, self.sendLatestBlockhash library context)
  | sendWatchtowerChallenge (state : self.state = .challenged) :
      Outcome matchers .timeToSendWatchtowerChallenge
        (self.withTable matchers, self.sendWatchtowerChallenge context)

variable {library self context}

theorem errors_pushError_ne {machine : MachineId} {method : String} {cause : StateCause} :
    (context.pushError machine method cause).errors ≠ [] :=
  List.append_ne_nil_of_right_ne_nil _ (List.cons_ne_nil _ _)

/-- The outcome of an event in the superstate. -/
theorem outcome_kickoff (table : machine = self.withTable matchers) (open_ : event ≠ .savedToDb)
    (clean : (respond library (machine.kickoff library event context)).2.errors = []) :
    self.Outcome library context matchers event
      (respond library (machine.kickoff library event context)) := by
  subst table
  cases event with
  | challenged => exact absurd clean errors_pushError_ne
  | timeToSendWatchtowerChallenge => exact absurd clean errors_pushError_ne
  | savedToDb => exact absurd rfl open_
  | kickoffFinalizerSpent => exact .closed (.inl rfl)
  | burnConnectorSpent => exact .closed (.inr rfl)
  | timeToSendLatestBlockhash => exact .sendLatestBlockhash
  | watchtowerChallengeTimeoutSent watchtowerIdx => exact .watchtower rfl (.inl rfl)
  | watchtowerChallengeSent watchtowerIdx outpoint =>
    simp only [respond, kickoff, handled, watchtowerChallengeSent] at clean ⊢
    split at clean
    · exact absurd clean errors_pushError_ne
    · exact .watchtower rfl (.inr rfl)
  | latestBlockHashSent outpoint =>
    simp only [respond, kickoff, handled, latestBlockHashSent] at clean ⊢
    split at clean
    · exact absurd clean errors_pushError_ne
    · next witness _ => exact .latestBlockhash witness
  | operatorAssertSent assertIdx outpoint =>
    simp only [respond, kickoff, handled, operatorAssertSent] at clean ⊢
    split at clean
    · exact absurd clean errors_pushError_ne
    · exact .asserted _
  | operatorChallengeAckSent watchtowerIdx outpoint =>
    simp only [respond, kickoff, handled, operatorChallengeAckSent] at clean ⊢
    split at clean
    · exact absurd clean errors_pushError_ne
    · exact .acknowledged _

theorem onDispatch_eq (changes : event ≠ .savedToDb) : self.onDispatch context event =
      self.withTable (self.matchers.removeEvent context.kickoffOrder event) := by
  rw [onDispatch, if_neg changes]
  rfl

theorem transition_eq_onEntry {target : KickoffState} (flagged : self.dirty = true) :
    self.transition library target context =
      onEntry library { self with state := target } context := by
  have kept : (onEntry library { self with state := target } context).1.dirty = true :=
    (dirty_onEntry library).trans flagged
  unfold transition
  dsimp only
  rw [← kept]

/-- The open states leave the other events to the superstate. -/
theorem callSuperstate_eq (challenged : event ≠ .challenged)
    (time : event ≠ .timeToSendWatchtowerChallenge) :
    callSuperstate library event (machine.kickoffStarted event context) =
        (machine.onDispatch context event).kickoff library event context ∧
      callSuperstate library event (machine.challengedState event context) =
        (machine.onDispatch context event).kickoff library event context := by
  cases event <;> first | exact ⟨rfl, rfl⟩ | exact absurd rfl challenged | exact absurd rfl time

/-- Every event that an open machine handles without errors has one of the outcomes. -/
theorem outcome_handleWithContext (isOpen : self.state ≠ .closed) (changes : event ≠ .savedToDb)
    (clean : (self.handleWithContext library event context).2.errors = []) :
    ∃ matchers, Matchers.Removed event self.matchers matchers ∧
      self.Outcome library context matchers event
        (self.handleWithContext library event context) := by
  unfold handleWithContext callHandler at clean ⊢
  rw [onDispatch_eq changes] at clean ⊢
  have state : (self.withTable (self.matchers.removeEvent context.kickoffOrder event)).state =
    self.state := rfl
  rw [state] at clean ⊢
  cases stands : self.state with
  | closed => exact absurd stands isOpen
  | kickoffStarted =>
    rw [stands] at clean
    dsimp only at clean ⊢
    by_cases challenged : event = .challenged
    · subst challenged
      have entered := @transition_eq_onEntry library (self.withTable
        (self.matchers.removeEvent context.kickoffOrder .challenged)) context .challenged rfl
      refine ⟨self.matchers.removeEvent context.kickoffOrder .challenged, removed_removeEvent, ?_⟩
      unfold callSuperstate respond
      dsimp only [kickoffStarted]
      rw [entered]
      exact .challenged stands
    by_cases time : event = .timeToSendWatchtowerChallenge
    · subst time
      exact absurd clean errors_pushError_ne
    rw [(callSuperstate_eq challenged time).1, onDispatch_eq changes] at clean ⊢
    exact ⟨_, removed_removeEvent.trans removed_removeEvent, outcome_kickoff rfl changes clean⟩
  | challenged =>
    rw [stands] at clean
    dsimp only at clean ⊢
    by_cases challenged : event = .challenged
    · subst challenged
      exact absurd clean errors_pushError_ne
    by_cases time : event = .timeToSendWatchtowerChallenge
    · subst time
      exact ⟨_, removed_removeEvent, .sendWatchtowerChallenge stands⟩
    rw [(callSuperstate_eq challenged time).2, onDispatch_eq changes] at clean ⊢
    exact ⟨_, removed_removeEvent.trans removed_removeEvent, outcome_kickoff rfl changes clean⟩

/-! ## What the outcomes keep -/

theorem advance_fst : (self.advance context).1 = { self with
      matchers := if self.watchtowersDone then
          self.matchers.insert (.blockHeight (latestBlockhashHeight context))
            .timeToSendLatestBlockhash
        else self.matchers } := by
  unfold advance createMatcherForLatestBlockhashIfReady
  dsimp only
  split_ifs <;> rfl

@[simp] theorem cache_captureDuty {machine : MachineId} {method : String} {duty : Duty} :
    (context.captureDuty machine method duty).cache = context.cache := by
  unfold StateContext.captureDuty StateContext.captureError
  split <;> rfl

@[simp] theorem config_captureDuty {machine : MachineId} {method : String} {duty : Duty} :
    (context.captureDuty machine method duty).config = context.config := by
  unfold StateContext.captureDuty StateContext.captureError
  split <;> rfl

@[simp] theorem latestBlockhashHeight_captureDuty {machine : MachineId} {method : String}
    {duty : Duty} : latestBlockhashHeight (context.captureDuty machine method duty) =
      latestBlockhashHeight context := by
  unfold latestBlockhashHeight
  rw [cache_captureDuty, config_captureDuty]

theorem onChallengedEntry_fst : (self.onChallengedEntry context).1 = { self with
      challenged := true
      matchers := if self.spentWatchtowerUtxos.card = self.depositData.getNumWatchtowers then
          (self.matchers.insert (.blockHeight (self.watchtowerChallengeHeight context))
            .timeToSendWatchtowerChallenge).insert (.blockHeight (latestBlockhashHeight context))
            .timeToSendLatestBlockhash
        else self.matchers.insert (.blockHeight (self.watchtowerChallengeHeight context))
          .timeToSendWatchtowerChallenge } := by
  unfold onChallengedEntry
  rw [advance_fst, latestBlockhashHeight_captureDuty]
  simp only [watchtowersDone, true_and]

variable {event : KickoffEvent} {result : KickoffStateMachine × StateContext}

theorem Outcome.depositData (outcome : self.Outcome library context matchers event result) :
    result.1.depositData = self.depositData := by
  cases outcome with
  | challenged => rw [onChallengedEntry_fst]; rfl
  | watchtower => rw [advance_fst]; rfl
  | _ => rfl

theorem Outcome.spent (outcome : self.Outcome library context matchers event result) :
    result.1.spentWatchtowerUtxos = event.watchtower.elim self.spentWatchtowerUtxos
      (insert · self.spentWatchtowerUtxos) := by
  cases outcome with
  | challenged => rw [onChallengedEntry_fst]; rfl
  | watchtower spent => rw [advance_fst, spent]; rfl
  | closed ends => rcases ends with rfl | rfl <;> rfl
  | _ => rfl

theorem Outcome.challenges (outcome : self.Outcome library context matchers event result) :
    result.1.challenged = (self.challenged || event = .challenged) := by
  cases outcome with
  | challenged => rw [onChallengedEntry_fst]; simp
  | watchtower spent =>
    have other : event ≠ .challenged := by
      rintro rfl
      cases spent
    rw [advance_fst]
    simp [other, withTable]
  | closed ends => rcases ends with rfl | rfl <;> simp [withTable]
  | _ => simp [withTable]

/-- A machine is closed by its finalizer or the burn connector, and challenged by a challenge. -/
theorem Outcome.state (outcome : self.Outcome library context matchers event result) :
    result.1.state = if event = .kickoffFinalizerSpent ∨ event = .burnConnectorSpent then .closed
      else if event = .challenged then .challenged else self.state := by
  cases outcome with
  | challenged => rw [onChallengedEntry_fst]; simp
  | watchtower spent =>
    have remains : ¬ (event = .kickoffFinalizerSpent ∨ event = .burnConnectorSpent) := by
      rintro (rfl | rfl) <;> cases spent
    have other : event ≠ .challenged := by
      rintro rfl
      cases spent
    rw [advance_fst, if_neg remains, if_neg other]
    rfl
  | closed ends => simp [ends]
  | _ => simp [withTable]

/-- Where the matchers after an outcome come from. -/
theorem Outcome.lookup (outcome : self.Outcome library context matchers event result)
    {matcher : Matcher} {found : KickoffEvent}
    (present : result.1.matchers.lookup matcher = some found) :
    matchers.lookup matcher = some found ∨
      (event = .challenged ∧ matcher = .blockHeight (self.watchtowerChallengeHeight context) ∧
        found = .timeToSendWatchtowerChallenge) ∨
      ((event = .challenged ∨ event.watchtower.isSome) ∧ result.1.watchtowersDone ∧
        matcher = .blockHeight (latestBlockhashHeight context) ∧
        found = .timeToSendLatestBlockhash) := by
  cases outcome with
  | challenged =>
    rw [onChallengedEntry_fst] at present ⊢
    dsimp only at present
    split_ifs at present with all
    · rcases lookup_of_insert present with ⟨key, value⟩ | before
      · exact .inr (.inr ⟨.inl rfl, ⟨rfl, all⟩, key, value⟩)
      · rcases lookup_of_insert before with ⟨key, value⟩ | before
        · exact .inr (.inl ⟨rfl, key, value⟩)
        · exact .inl before
    · rcases lookup_of_insert present with ⟨key, value⟩ | before
      · exact .inr (.inl ⟨rfl, key, value⟩)
      · exact .inl before
  | @watchtower _ _ detected _ spent adds =>
    have height : latestBlockhashHeight detected = latestBlockhashHeight context := by
      rcases adds with rfl | rfl
      · rfl
      · exact latestBlockhashHeight_captureDuty
    rw [advance_fst] at present ⊢
    dsimp only at present
    split_ifs at present with done
    · rcases lookup_of_insert present with ⟨key, value⟩ | before
      · exact .inr (.inr ⟨.inr (by rw [spent]; rfl), done, height ▸ key, value⟩)
      · exact .inl before
    · exact .inl present
  | closed =>
    rw [withTable, AList.lookup_empty] at present
    cases present
  | _ => exact .inl present

end Outcome

/-! ## Inserted matchers -/

/-- The values up to the first error. -/
def untilError {α β : Type} : List (Except α β) → List β
  | [] => []
  | .error _ :: _ => []
  | .ok value :: rest => value :: untilError rest

section Insertions

variable (library : BuilderLibrary) (self : KickoffStateMachine) (context : StateContext)

/-- The matchers that `add_default_kickoff_matchers` inserts, or its error. -/
def defaultEntries : List (BuildResult (Matcher × KickoffEvent)) :=
  match self.kickoffTxhandlers context with
  | .error failure => [.error failure]
  | .ok txhandlers =>
    match txhandlers.getTxhandler .kickoff with
    | .error failure => [.error failure]
    | .ok kickoffTxhandler => self.defaultKickoffMatchers library txhandlers kickoffTxhandler

/-- The matchers that `on_challenged_entry` inserts. -/
def challengedInsertions : List (Matcher × KickoffEvent) :=
  (.blockHeight (self.watchtowerChallengeHeight context), .timeToSendWatchtowerChallenge) ::
    if self.spentWatchtowerUtxos.card = self.depositData.getNumWatchtowers then
      [(.blockHeight (latestBlockhashHeight context), .timeToSendLatestBlockhash)]
    else []

/-- The matchers that the entry action of the current state inserts. -/
def entryInsertions : List (Matcher × KickoffEvent) :=
  match self.state with
  | .kickoffStarted => untilError (self.defaultEntries library context)
  | .challenged => self.challengedInsertions context
  | .closed => []

/-- The matchers that an open machine inserts when it handles an event. -/
def handledInsertions (event : KickoffEvent) : List (Matcher × KickoffEvent) :=
  if event = .challenged then self.challengedInsertions context
  else match event.watchtower with
    | none => []
    | some watchtowerIdx =>
      if self.challenged = true ∧ (insert watchtowerIdx self.spentWatchtowerUtxos).card =
          self.depositData.getNumWatchtowers then
        [(.blockHeight (latestBlockhashHeight context), .timeToSendLatestBlockhash)]
      else []

variable {library self context}

/-- An event that leaves the machine open takes out its matchers and inserts new ones. -/
theorem Outcome.matchers_eq {result : KickoffStateMachine × StateContext}
    (outcome : self.Outcome library context matchers event result)
    (isOpen : result.1.state ≠ .closed) :
    result.1.matchers = matchers.insertAll (self.handledInsertions context event) := by
  cases outcome with
  | challenged =>
    rw [onChallengedEntry_fst, handledInsertions, if_pos rfl, challengedInsertions]
    dsimp only [withTable]
    by_cases all : self.spentWatchtowerUtxos.card = self.depositData.getNumWatchtowers
    · refine (if_pos all).trans ?_
      rw [if_pos all]
      rfl
    · refine (if_neg all).trans ?_
      rw [if_neg all]
      rfl
  | @watchtower _ watchtowerIdx detected _ spent adds =>
    have height : latestBlockhashHeight detected = latestBlockhashHeight context := by
      rcases adds with rfl | rfl
      · rfl
      · exact latestBlockhashHeight_captureDuty
    have other : event ≠ .challenged := by
      rintro rfl
      cases spent
    rw [advance_fst, handledInsertions, if_neg other, spent, height]
    dsimp only [withTable, watchtowersDone]
    by_cases done : self.challenged = true ∧ (insert watchtowerIdx
        self.spentWatchtowerUtxos).card = self.depositData.getNumWatchtowers
    · refine (if_pos done).trans ?_
      rw [if_pos done]
      rfl
    · refine (if_neg done).trans ?_
      rw [if_neg done]
      rfl
  | closed => exact absurd rfl isOpen
  | _ => rfl

end Insertions

/-! ## Runs -/

section Runs

variable (library : BuilderLibrary) (config : StateConfig) (chain : UInt32 → Block)

/-- The entry of a machine that runs the entry action of its state. -/
def entered (cause : KickoffCause) (env : StateEnvironment) (height : UInt32)
    (machine : KickoffStateMachine) : KickoffEntry :=
  let result := machine.initWithContext library (blockContext library env chain height)
  ⟨cause, height, machine, result.1, result.2.duties,
    machine.entryInsertions library (blockContext library env chain height)⟩

/-- The entry of a machine that handles an event. -/
def handledEntry (env : StateEnvironment) (height : UInt32) (machine : KickoffStateMachine)
    (event : KickoffEvent) : KickoffEntry :=
  let result := machine.handleWithContext library event (blockContext library env chain height)
  ⟨.handled event, height, machine, result.1, result.2.duties,
    machine.handledInsertions (blockContext library env chain height) event⟩

/-- The outcome of an event in the block of a height. -/
abbrev BlockOutcome (env : StateEnvironment) (height : UInt32) (machine : KickoffStateMachine)
    (matchers : Matchers KickoffEvent) (event : KickoffEvent) : Prop :=
  machine.Outcome library (blockContext library env chain height) matchers event
    (machine.handleWithContext library event (blockContext library env chain height))

/-- The runs of a kickoff machine. -/
inductive Run : List KickoffEntry → KickoffStateMachine → BlockPosition → Prop where
  | created {env : StateEnvironment} {identity : Identity} (same : env.config = config)
      (clean : (identity.machine.initWithContext library (blockContext library env chain
          (previousHeight identity.kickoffHeight))).2.errors = []) :
      Run [entered library chain .created env (previousHeight identity.kickoffHeight)
          identity.machine]
        (entered library chain .created env (previousHeight identity.kickoffHeight)
          identity.machine).after (.before identity.kickoffHeight)
  | started {trace : List KickoffEntry} {machine : KickoffStateMachine} {height : UInt32}
      (run : Run trace machine (.before height)) : Run trace machine (.inside height)
  | handled {trace : List KickoffEntry} {machine : KickoffStateMachine} {height : UInt32}
      {env : StateEnvironment} {event : KickoffEvent} (run : Run trace machine (.inside height))
      (same : env.config = config)
      (matched : machine.matchers.matchBlock (BlockCache.fromBlock library (chain height) height) =
        some event)
      (clean : (machine.handleWithContext library event
        (blockContext library env chain height)).2.errors = []) :
      Run (trace ++ [handledEntry library chain env height machine event])
        (handledEntry library chain env height machine event).after (.inside height)
  | finished {trace : List KickoffEntry} {machine : KickoffStateMachine} {height : UInt32}
      (run : Run trace machine (.inside height))
      (quiet : machine.matchers.matchBlock (BlockCache.fromBlock library (chain height) height) =
        none)
      (bound : height.toNat + 1 < 2 ^ 32) : Run trace machine (.before (height + 1))
  | saved {trace : List KickoffEntry} {machine : KickoffStateMachine} {height : UInt32}
      (run : Run trace machine (.before height)) :
      Run trace { machine with dirty := false } (.before height)
  | reloaded {trace : List KickoffEntry} {machine : KickoffStateMachine} {height : UInt32}
      {env : StateEnvironment} (run : Run trace machine (.before height))
      (same : env.config = config)
      (clean : (machine.initWithContext library (blockContext library env chain
        (previousHeight height))).2.errors = []) :
      Run (trace ++ [entered library chain .reloaded env (previousHeight height) machine])
        (entered library chain .reloaded env (previousHeight height) machine).after
        (.before height)

/-- A run without restarts. -/
def Uninterrupted (trace : List KickoffEntry) : Prop :=
  ∀ entry ∈ trace, entry.cause ≠ .reloaded

variable {library config chain}

/-! ## Running on given blocks -/

section Execute

variable (library) (chain) (env : StateEnvironment)

/-- The events of a block, up to a number of them. -/
def executeBlock (height : UInt32) : Nat → List KickoffEntry → KickoffStateMachine →
    Option (List KickoffEntry × KickoffStateMachine)
  | 0, _, _ => none
  | fuel + 1, trace, machine =>
    match machine.matchers.matchBlock (BlockCache.fromBlock library (chain height) height) with
    | none => some (trace, machine)
    | some event =>
      if (machine.handleWithContext library event
          (blockContext library env chain height)).2.errors = [] then
        executeBlock height fuel (trace ++ [handledEntry library chain env height machine event])
          (handledEntry library chain env height machine event).after
      else none

/-- Blocks from a height on, with a restart before each block for which the flag is set. -/
def execute (fuel : Nat) : List Bool → UInt32 → List KickoffEntry → KickoffStateMachine →
    Option (List KickoffEntry × KickoffStateMachine)
  | [], _, trace, machine => some (trace, machine)
  | false :: rest, height, trace, machine =>
    (executeBlock library chain env height fuel trace machine).bind fun result =>
      execute fuel rest (height + 1) result.1 result.2
  | true :: rest, height, trace, machine =>
    if (machine.initWithContext library (blockContext library env chain
        (previousHeight height))).2.errors = [] then
      (executeBlock library chain env height fuel
        (trace ++ [entered library chain .reloaded env (previousHeight height) machine])
        (entered library chain .reloaded env (previousHeight height) machine).after).bind
          fun result => execute fuel rest (height + 1) result.1 result.2
    else none

variable {library chain env} {result : List KickoffEntry × KickoffStateMachine}
variable {trace : List KickoffEntry}

theorem Run.executeBlock {fuel : Nat} {height : UInt32}
    (run : Run library env.config chain trace machine (.inside height))
    (bound : height.toNat + 1 < 2 ^ 32)
    (executed : executeBlock library chain env height fuel trace machine = some result) :
    Run library env.config chain result.1 result.2 (.before (height + 1)) := by
  induction fuel generalizing trace machine with
  | zero => cases executed
  | succ fuel ih =>
    unfold KickoffStateMachine.executeBlock at executed
    split at executed
    · next quiet =>
        cases executed
        exact run.finished quiet bound
    · next event matched =>
        split_ifs at executed with clean
        exact ih (run.handled rfl matched clean) executed

/-- What is executed is a run. -/
theorem Run.execute {fuel : Nat} {restarts : List Bool} {height : UInt32}
    (run : Run library env.config chain trace machine (.before height))
    (bound : height.toNat + restarts.length < 2 ^ 32)
    (executed : execute library chain env fuel restarts height trace machine = some result) :
    Run library env.config chain result.1 result.2 (.before (height + ofNat restarts.length)) := by
  induction restarts generalizing trace machine height with
  | nil =>
    cases executed
    have final : height + ofNat 0 = height := UInt32.add_zero height
    rw [List.length_nil, final]
    exact run
  | cons restart rest ih =>
    rw [List.length_cons] at bound
    have next : (height + 1).toNat = height.toNat + 1 := by
      rw [UInt32.toNat_add]
      exact Nat.mod_eq_of_lt (by simp; omega)
    have final : height + ofNat (rest.length + 1) = height + 1 + ofNat rest.length := by
      rw [ofNat_add, UInt32.add_comm (ofNat rest.length), ← UInt32.add_assoc]
      rfl
    rw [List.length_cons, final]
    cases restart with
    | false =>
      rw [KickoffStateMachine.execute, Option.bind_eq_some_iff] at executed
      obtain ⟨middle, block, later⟩ := executed
      exact ih (run.started.executeBlock (by omega) block) (by omega) later
    | true =>
      rw [KickoffStateMachine.execute] at executed
      split_ifs at executed with clean
      rw [Option.bind_eq_some_iff] at executed
      obtain ⟨middle, block, later⟩ := executed
      exact ih ((run.reloaded rfl clean).started.executeBlock (by omega) block) (by omega) later

end Execute

end Runs

end KickoffStateMachine

end Clementine
