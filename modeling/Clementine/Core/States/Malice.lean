import Clementine.Core.States.Recovery

/-!
# Checks for malice

A kickoff can be checked for malice when its machine exists and the light client proof of its
block was processed, whichever comes last.  Each handler is described here by its effect: the
kickoffs that get a machine and the kickoffs that are checked.  The round machine of an operator
remembers the rounds that were found to be challenged, so a later check of the same round is told
about it.
-/

namespace Clementine

open RoundStateMachine List

/-! ## Checks in a log -/

/-- A check for malice: its kickoff, whether the round was challenged before, and the answer. -/
structure MaliceCheck where
  kickoffData : KickoffData
  challengedBefore : Bool
  result : BuildResult DutyResult

/-- The check that an entry of a log records. -/
def LogEntry.check (entry : LogEntry) : Option MaliceCheck :=
  match entry.record.duty with
  | .checkIfKickoffMalicious _ _ kickoffData challengedBefore =>
    some ⟨kickoffData, challengedBefore, entry.record.result⟩
  | _ => none

/-- The checks of a log. -/
def checksIn (log : List LogEntry) : List MaliceCheck := log.filterMap LogEntry.check

@[simp] theorem checksIn_append (first second : List LogEntry) :
    checksIn (first ++ second) = checksIn first ++ checksIn second :=
  filterMap_append

/-- The duties that machines dispatch. -/
def Duty.ofMachine (duty : Duty) : Prop := duty.ofRound = true ∨ duty.ofKickoff = true

variable {log : List LogEntry}

/-- Machines check no kickoff. -/
theorem checksIn_eq_nil (machines : ∀ entry ∈ log, entry.record.duty.ofMachine) :
    checksIn log = [] := by
  refine filterMap_eq_nil_iff.mpr fun entry member => ?_
  have ofMachine := machines entry member
  unfold LogEntry.check
  split
  · next same =>
      rw [same] at ofMachine
      exact ofMachine.elim nofun nofun
  · rfl

/-- The kickoff was found to be challenged. -/
def MaliceCheck.challenged (check : MaliceCheck) : Prop :=
  check.result = .ok (.checkIfKickoffMalicious true)

/-- A check of the same round comes later than one that found it challenged only if it is told
so. -/
def MaliceCheck.Respects (first later : MaliceCheck) : Prop :=
  first.challenged → later.kickoffData.operatorXonlyPk = first.kickoffData.operatorXonlyPk →
    later.kickoffData.roundIdx = first.kickoffData.roundIdx → later.challengedBefore = true

namespace StateManager

variable {library : BuilderLibrary} {env : StateEnvironment} {self : StateManager}
  {rows : StateRows} {faults : Faults} {context : StateContext}

/-! ## Blocks -/

variable {machine : RoundStateMachine} {result : RoundStateMachine × StateContext}

theorem duties_processRound (empty : context.duties = [])
    (processed : machine.processWithCtx library context = some result) :
    ∀ record ∈ result.2.duties, record.duty.ofMachine := by
  rw [processWithCtx, Option.map_eq_some_iff] at processed
  obtain ⟨event, -, rfl⟩ := processed
  intro record member
  rcases adds_handleWithContext library event record member with old | new
  · rw [empty] at old
    cases old
  · exact .inl new

theorem duties_processKickoff {machine : KickoffStateMachine}
    {result : KickoffStateMachine × StateContext} (empty : context.duties = [])
    (processed : machine.processWithCtx library context = some result) :
    ∀ record ∈ result.2.duties, record.duty.ofMachine := by
  rw [KickoffStateMachine.processWithCtx, Option.map_eq_some_iff] at processed
  obtain ⟨event, -, rfl⟩ := processed
  intro record member
  rcases KickoffStateMachine.adds_handleWithContext library event record member with old | new
  · rw [empty] at old
    cases old
  · exact .inr new

theorem duties_update {μ : Type} {process : μ → Option (μ × StateContext)} {machines : List μ}
    (each : ∀ machine result, process machine = some result →
      ∀ record ∈ result.2.duties, record.duty.ofMachine) :
    ∀ pending ∈ (updateMachines process machines).2, ∀ record ∈ pending.2.duties,
      record.duty.ofMachine := by
  intro pending member
  obtain ⟨machine, -, processed⟩ := mem_filterMap.mp member
  exact each machine pending processed

theorem checksIn_logOf {μ : Type} {name : μ → MachineId} {processed : List (μ × StateContext)}
    (duties : ∀ pending ∈ processed, ∀ record ∈ pending.2.duties, record.duty.ofMachine) :
    checksIn (logOf name processed) = [] := by
  refine checksIn_eq_nil fun entry member => ?_
  simp only [logOf, mem_flatMap, mem_map] at member
  obtain ⟨pending, inProcessed, record, inDuties, rfl⟩ := member
  exact duties pending inProcessed record inDuties

theorem checksIn_settle {fuel : Nat} {settled result : Settled}
    {kickoffs : List (KickoffStateMachine × StateContext)}
    {rounds : List (RoundStateMachine × StateContext)} (empty : context.duties = [])
    (ofKickoffs : ∀ pending ∈ kickoffs, ∀ record ∈ pending.2.duties, record.duty.ofMachine)
    (ofRounds : ∀ pending ∈ rounds, ∀ record ∈ pending.2.duties, record.duty.ofMachine)
    (finished : settle library context fuel settled kickoffs rounds = .ok result) :
    checksIn result.log = checksIn settled.log := by
  induction fuel generalizing settled kickoffs rounds with
  | zero =>
    unfold settle at finished
    split_ifs at finished
    cases finished
    rfl
  | succ fuel ih =>
    unfold settle at finished
    split_ifs at finished
    · cases finished
      rfl
    · refine (ih (duties_update fun _ _ => duties_processKickoff empty)
        (duties_update fun _ _ => duties_processRound empty) finished).trans ?_
      simp [Settled.add, checksIn_logOf ofKickoffs, checksIn_logOf ofRounds]

/-- Processing a block checks no kickoff. -/
theorem checksIn_processBlockParallel (empty : context.duties = []) :
    checksIn (self.processBlockParallel library context rows).log = [] := by
  unfold processBlockParallel
  dsimp only
  split
  · rfl
  · next settled finished =>
      exact (checksIn_settle empty (duties_update fun _ _ => duties_processKickoff empty)
        (duties_update fun _ _ => duties_processRound empty) finished).trans rfl

/-! ## Challenged rounds -/

/-- The round machine of an operator knows that a round is challenged. -/
def Knows (manager : StateManager) (operatorXonlyPk : XOnlyPublicKey) (roundIdx : RoundIndex) :
    Prop :=
  ∃ machine ∈ manager.roundMachines, machine.operatorData.xonlyPk = operatorXonlyPk ∧
    roundIdx ∈ machine.challengedRounds

/-- What is known stays known. -/
def Remembers (before after : StateManager) : Prop :=
  ∀ operatorXonlyPk roundIdx, before.Knows operatorXonlyPk roundIdx →
    after.Knows operatorXonlyPk roundIdx

theorem exists_completes {μ : Type} {process : μ → Option (μ × StateContext)} {bound : Nat}
    {machines : List μ} {outs : List (μ × List DutyRecord)} {machine : μ}
    (complete : List.Forall₂ (Completes process bound) machines outs)
    (member : machine ∈ machines) : ∃ out ∈ outs, Completes process bound machine out := by
  induction complete with
  | nil => cases member
  | @cons first out rest outs head _ ih =>
    rcases mem_cons.mp member with rfl | later
    · exact ⟨out, mem_cons_self, head⟩
    · obtain ⟨other, inOuts, completes⟩ := ih later
      exact ⟨other, mem_cons_of_mem _ inOuts, completes⟩

theorem challengedRounds_processWithCtx
    (processed : machine.processWithCtx library context = some result) :
    machine.challengedRounds ⊆ result.1.challengedRounds := by
  rw [processWithCtx, Option.map_eq_some_iff] at processed
  obtain ⟨event, -, rfl⟩ := processed
  rw [challengedRounds_handleWithContext]
  split
  · exact Finset.subset_insert _ _
  · exact subset_rfl

variable {handling : Handling}

theorem BlockDone.remembers {kickoffOuts : List (KickoffStateMachine × List DutyRecord)}
    {roundOuts : List (RoundStateMachine × List DutyRecord)}
    (done : BlockDone library context self handling kickoffOuts roundOuts) :
    Remembers self handling.manager := by
  rintro _ roundIdx ⟨machine, member, rfl, challenged⟩
  obtain ⟨out, inOuts, count, -, settles⟩ := exists_completes done.rounds member
  refine ⟨out.1, done.roundMachines.mem_iff.mpr (mem_map_of_mem inOuts), ?_, ?_⟩
  · refine settles.induct (fun before after : RoundStateMachine =>
      after.operatorData.xonlyPk = before.operatorData.xonlyPk) (fun _ => rfl)
      (fun _ _ _ first second => second.trans first) fun _ _ processed => ?_
    rw [operatorData_processWithCtx library processed]
  · exact settles.induct (fun before after => before.challengedRounds ⊆ after.challengedRounds)
      (fun _ => subset_rfl) (fun _ _ _ => subset_trans)
      (fun _ _ => challengedRounds_processWithCtx) challenged

/-- The checks of a log are known to the round machines and respect one another. -/
structure Marked (manager : StateManager) (log : List LogEntry) : Prop where
  rounds : manager.roundKeys.Nodup
  known : ∀ check ∈ checksIn log, check.challenged →
    manager.Knows check.kickoffData.operatorXonlyPk check.kickoffData.roundIdx
  ordered : (checksIn log).Pairwise MaliceCheck.Respects

theorem Marked.of_silent {added : List LogEntry} {after : StateManager} (marked : Marked self log)
    (silent : checksIn added = []) (remembers : Remembers self after)
    (rounds : after.roundKeys.Nodup) : Marked after (log ++ added) := by
  refine ⟨rounds, ?_, ?_⟩ <;> rw [checksIn_append, silent, append_nil]
  · exact fun check member challenged => remembers _ _ (marked.known check member challenged)
  · exact marked.ordered

/-! ## The effect of handlers -/

/-- What a handler does about kickoffs: those that get a machine and those that are checked. -/
structure Effect (before : StateManager) (handling : Handling)
    (added : List KickoffStateMachine.Identity) (checked : List KickoffData) : Prop where
  identities : (handling.manager.kickoffMachines.map KickoffStateMachine.identity).Perm
    (before.kickoffMachines.map KickoffStateMachine.identity ++ added)
  checks : (checksIn handling.log).map MaliceCheck.kickoffData = checked
  lastLcp : handling.manager.lastProcessedLcp = before.lastProcessedLcp
  marked : ∀ log, Marked before log → Marked handling.manager (log ++ handling.log)

/-- A handler without effect on kickoffs. -/
theorem Effect.none
    (identities : (handling.manager.kickoffMachines.map KickoffStateMachine.identity).Perm
      (self.kickoffMachines.map KickoffStateMachine.identity)) (silent : checksIn handling.log = [])
    (lastLcp : handling.manager.lastProcessedLcp = self.lastProcessedLcp)
    (remembers : Remembers self handling.manager)
    (rounds : handling.manager.roundKeys.Perm self.roundKeys) :
    Effect self handling [] [] where
  identities := by rwa [append_nil]
  checks := by rw [silent, map_nil]
  lastLcp
  marked _ marked := marked.of_silent silent remembers (rounds.nodup_iff.mpr marked.rounds)

theorem Effect.unchanged : Effect self ⟨self, rows, [], .ok ()⟩ [] [] :=
  .none (.refl _) rfl rfl (fun _ _ => id) (.refl _)

theorem Effect.andThen {next : StateManager → StateRows → Handling}
    {added added' : List KickoffStateMachine.Identity} {checked checked' : List KickoffData}
    (first : Effect self handling added checked) (succeeded : handling.outcome = .ok ())
    (second : Effect handling.manager (next handling.manager handling.rows) added' checked') :
    Effect self (handling.andThen next) (added ++ added') (checked ++ checked') := by
  rw [andThen_of_ok succeeded]
  refine ⟨?_, ?_, second.lastLcp.trans first.lastLcp, fun log marked => ?_⟩
  · rw [← append_assoc]
    exact second.identities.trans (first.identities.append_right _)
  · rw [checksIn_append, map_append, first.checks, second.checks]
  · rw [← append_assoc]
    exact second.marked _ (first.marked log marked)

theorem effect_processBlockParallel (empty : context.duties = [])
    (succeeded : (self.processBlockParallel library context rows).outcome = .ok ()) :
    Effect self (self.processBlockParallel library context rows) [] [] := by
  obtain ⟨_, _, done⟩ := processBlockParallel_ok succeeded
  refine .none ?_ (checksIn_processBlockParallel empty) done.lastLcp done.remembers
    done.sameKeys.rounds
  refine (done.kickoffMachines.map _).trans (.of_eq ?_)
  exact map_completes KickoffStateMachine.identity
    (fun _ _ processed => KickoffStateMachine.identity_processWithCtx library processed)
    done.kickoffs

variable {heights : List UInt32}

theorem effect_catchUp (succeeded : (catchUp library env heights self rows).outcome = .ok ()) :
    Effect self (catchUp library env heights self rows) [] [] := by
  induction heights generalizing self rows with
  | nil => exact .unchanged
  | cons height rest ih =>
    rw [catchUp] at succeeded ⊢
    obtain ⟨first, second⟩ := andThen_outcome succeeded
    refine @Effect.andThen self _ _ [] [] [] [] ?_ first (ih second)
    unfold catchUpBlock at first ⊢
    split at first
    · cases first
    · exact effect_processBlockParallel rfl first

/-- New machines that catch up. -/
theorem effect_processAndAdd {newRoundMachines : List RoundStateMachine}
    {newKickoffMachines : List KickoffStateMachine} {startHeight : UInt32}
    (distinct : self.roundKeys.Nodup → (self.roundKeys ++
      newRoundMachines.map fun machine => machine.operatorData.xonlyPk).Nodup)
    (succeeded : (self.processAndAddNewStatesFromHeight library env rows newRoundMachines
      newKickoffMachines startHeight).outcome = .ok ()) :
    Effect self (self.processAndAddNewStatesFromHeight library env rows newRoundMachines
      newKickoffMachines startHeight) (newKickoffMachines.map KickoffStateMachine.identity) [] := by
  unfold processAndAddNewStatesFromHeight at succeeded ⊢
  dsimp only at succeeded ⊢
  split at succeeded
  · cases succeeded
  · next caught =>
      have effect := effect_catchUp caught
      have silent := map_eq_nil_iff.mp effect.checks
      refine ⟨?_, effect.checks, rfl, fun log marked => marked.of_silent silent ?_ ?_⟩
      · rw [map_append]
        refine List.Perm.append_left _ (effect.identities.trans ?_)
        rw [append_nil]
      · rintro _ roundIdx ⟨machine, member, rfl, challenged⟩
        exact ⟨machine, mem_append_left _ member, rfl, challenged⟩
      · simp only [roundKeys, map_append]
        refine List.Perm.nodup_iff ?_ |>.mpr (distinct marked.rounds)
        exact (catchUp_sameKeys caught).rounds.append_left _

variable {operatorXonlyPk : XOnlyPublicKey} {change : RoundStateMachine → RoundStateMachine}
variable {machines : List RoundStateMachine} {wasChallengedBefore challenged : Bool}
  {kickoffData : KickoffData}

theorem exists_updateRoundMachine (member : machine ∈ machines) :
    machine ∈ updateRoundMachine operatorXonlyPk change machines ∨
      change machine ∈ updateRoundMachine operatorXonlyPk change machines := by
  induction machines with
  | nil => cases member
  | cons first rest ih =>
    unfold updateRoundMachine
    split_ifs
    · rcases mem_cons.mp member with rfl | later
      · exact .inr mem_cons_self
      · exact .inl (mem_cons_of_mem _ later)
    · rcases mem_cons.mp member with rfl | later
      · exact .inl mem_cons_self
      · exact (ih later).imp (mem_cons_of_mem _) (mem_cons_of_mem _)

theorem mem_updateRoundMachine_of_find
    (found : machines.find? (fun machine => machine.operatorData.xonlyPk = operatorXonlyPk) =
      some machine) : change machine ∈ updateRoundMachine operatorXonlyPk change machines := by
  induction machines with
  | nil => cases found
  | cons first rest ih =>
    unfold updateRoundMachine
    by_cases same : first.operatorData.xonlyPk = operatorXonlyPk
    · rw [find?_cons_of_pos (by simpa using same)] at found
      rw [if_pos same, Option.some.inj found]
      exact mem_cons_self
    · rw [find?_cons_of_neg (by simpa using same)] at found
      rw [if_neg same]
      exact mem_cons_of_mem _ (ih found)

section SetChallenged

theorem remembers_setChallenged :
    Remembers self (self.setChallenged library context kickoffData wasChallengedBefore
      challenged) := by
  unfold setChallenged
  split_ifs
  · rintro _ roundIdx ⟨machine, member, rfl, known⟩
    rcases exists_updateRoundMachine member with same | changed
    · exact ⟨machine, same, rfl, known⟩
    · refine ⟨_, changed, ?_, ?_⟩
      · rw [operatorData_handleWithContext]
      · rw [challengedRounds_handleWithContext]
        exact Finset.mem_insert_of_mem known
  · exact fun _ _ => id

/-- After a kickoff was found to be challenged its round is known. -/
theorem knows_setChallenged (found : self.roundMachines.find? (fun machine =>
      machine.operatorData.xonlyPk = kickoffData.operatorXonlyPk) = some machine) :
    (self.setChallenged library context kickoffData
      (decide (kickoffData.roundIdx ∈ machine.challengedRounds)) true).Knows
        kickoffData.operatorXonlyPk kickoffData.roundIdx := by
  have key : machine.operatorData.xonlyPk = kickoffData.operatorXonlyPk := by
    simpa using find?_some found
  unfold setChallenged
  by_cases before : kickoffData.roundIdx ∈ machine.challengedRounds
  · rw [if_neg (by simp [before])]
    exact ⟨machine, mem_of_find?_eq_some found, key, before⟩
  · rw [if_pos (by simp [before])]
    refine ⟨_, mem_updateRoundMachine_of_find found, ?_, ?_⟩
    · rw [operatorData_handleWithContext, key]
    · rw [challengedRounds_handleWithContext]
      exact Finset.mem_insert_self _ _

end SetChallenged

theorem kickoffMachines_setChallenged :
    (self.setChallenged library context kickoffData wasChallengedBefore
      challenged).kickoffMachines = self.kickoffMachines := by
  unfold setChallenged
  split_ifs <;> rfl

theorem lastProcessedLcp_setChallenged :
    (self.setChallenged library context kickoffData wasChallengedBefore
      challenged).lastProcessedLcp = self.lastProcessedLcp := by
  unfold setChallenged
  split_ifs <;> rfl

/-- The machine that is found for an operator is the only one. -/
theorem Knows.of_find {roundIdx : RoundIndex} (rounds : self.roundKeys.Nodup)
    (found : self.roundMachines.find? (fun machine =>
      machine.operatorData.xonlyPk = operatorXonlyPk) = some machine)
    (knows : self.Knows operatorXonlyPk roundIdx) : roundIdx ∈ machine.challengedRounds := by
  obtain ⟨other, member, key, known⟩ := knows
  have sameKey : machine.operatorData.xonlyPk = operatorXonlyPk := by
    simpa using find?_some found
  have same := inj_on_of_nodup_map rounds member (mem_of_find?_eq_some found)
    (key.trans sameKey.symm)
  exact same ▸ known

variable {payoutBlockhash : Witness} {depositData : DepositData}

/-- A check of a kickoff. -/
theorem effect_checkIfKickoffMalicious
    (succeeded : (self.checkIfKickoffMalicious library context payoutBlockhash kickoffData
      depositData rows).outcome = .ok ()) :
    Effect self (self.checkIfKickoffMalicious library context payoutBlockhash kickoffData
      depositData rows) [] [kickoffData] := by
  unfold checkIfKickoffMalicious at succeeded ⊢
  split at succeeded
  · cases succeeded
  · next machine found =>
      dsimp only at succeeded ⊢
      split at succeeded
      · cases succeeded
      · next challenged answer =>
          have keys := @setChallenged_sameKeys library self context kickoffData
            (decide (kickoffData.roundIdx ∈ machine.challengedRounds)) challenged
          refine ⟨?_, rfl, lastProcessedLcp_setChallenged, fun log marked =>
            ⟨keys.rounds.nodup_iff.mpr marked.rounds, ?_, ?_⟩⟩
          · rw [kickoffMachines_setChallenged, append_nil]
          · intro check member found'
            rw [checksIn_append] at member
            rcases mem_append.mp member with old | new
            · exact remembers_setChallenged _ _ (marked.known check old found')
            · cases mem_singleton.mp new
              cases answer.symm.trans found'
              exact knows_setChallenged found
          · rw [checksIn_append]
            refine pairwise_append.mpr
              ⟨marked.ordered, pairwise_singleton _ _, fun first inLog later new => ?_⟩
            cases mem_singleton.mp new
            intro found' operator round
            refine decide_eq_true (Knows.of_find marked.rounds found ?_)
            rw [operator, round]
            exact marked.known first inLog found'
      · cases succeeded

theorem effect_checkKickoffs {kickoffs : List (Witness × KickoffData × DepositData)}
    (succeeded : (checkKickoffs library context kickoffs self rows).outcome = .ok ()) :
    Effect self (checkKickoffs library context kickoffs self rows) []
      (kickoffs.map fun kickoff => kickoff.2.1) := by
  induction kickoffs generalizing self rows with
  | nil => exact .unchanged
  | cons kickoff rest ih =>
    rw [checkKickoffs] at succeeded ⊢
    obtain ⟨first, second⟩ := andThen_outcome succeeded
    exact Effect.andThen (effect_checkIfKickoffMalicious first) first (ih second)

variable {height : UInt32}

theorem effect_checkHeight
    (succeeded : (self.checkHeight library env rows height).outcome = .ok ()) :
    Effect self (self.checkHeight library env rows height) []
      ((self.kickoffsToCheck height).map fun kickoff => kickoff.2.1) := by
  unfold checkHeight at succeeded ⊢
  split at succeeded
  · next empty =>
      rw [empty]
      exact .unchanged
  · cases succeeded
  · next kickoffs _ =>
      rw [kickoffs]
      exact effect_checkKickoffs succeeded

theorem effect_saveAfterEvent
    (succeeded : (self.saveAfterEvent library env faults rows).outcome = .ok ()) :
    Effect self (self.saveAfterEvent library env faults rows) [] [] := by
  unfold saveAfterEvent saveStateToDb at succeeded ⊢
  split at succeeded
  · cases succeeded
  · split at succeeded
    · cases succeeded
    · cases succeeded
    · refine .none (.of_eq ?_) rfl rfl ?_ markSaved_sameKeys.rounds
      · simp only [markSaved, map_map]
        refine map_congr_left fun machine _ => ?_
        rw [Function.comp_apply]
        split_ifs
        · exact KickoffStateMachine.identity_handleWithContext library _
        · rfl
      · rintro _ roundIdx ⟨machine, member, rfl, known⟩
        refine ⟨_, mem_map_of_mem member, ?_, ?_⟩
        · split_ifs
          · rw [operatorData_handleWithContext]
          · rfl
        · split_ifs
          · rw [challengedRounds_handleWithContext]
            exact known
          · exact known

theorem effect_newFinalizedBlock {block : Block}
    (succeeded : (self.newFinalizedBlock library env rows block height).outcome = .ok ()) :
    Effect self (self.newFinalizedBlock library env rows block height) [] [] := by
  unfold newFinalizedBlock at succeeded ⊢
  split_ifs at succeeded ⊢
  obtain ⟨first, -⟩ := andThen_outcome succeeded
  refine Effect.andThen (effect_processBlockParallel rfl first) first ?_
  exact .none (.refl _) rfl rfl (fun _ _ => id) (.refl _)

theorem checksIn_initLog {machine : MachineId} (duties : ∀ record ∈ context.duties,
    record.duty.ofMachine) : checksIn (initLog machine context) = [] := by
  refine checksIn_eq_nil fun entry member => ?_
  obtain ⟨record, inDuties, rfl⟩ := mem_map.mp member
  exact duties record inDuties

/-- An effect with a log that begins with duties of a machine. -/
theorem Effect.prepend {added : List KickoffStateMachine.Identity} {checked : List KickoffData}
    (effect : Effect self handling added checked) (silent : checksIn log = []) :
    Effect self { handling with log := log ++ handling.log } added checked := by
  refine ⟨effect.identities, ?_, effect.lastLcp, fun before marked => ?_⟩
  · rw [checksIn_append, silent, nil_append, effect.checks]
  · rw [← append_assoc]
    refine effect.marked _ (marked.of_silent silent (fun _ _ => id) marked.rounds)

theorem duties_initContext {startHeight : UInt32}
    (created : initContext library env startHeight = .ok context) : context.duties = [] := by
  unfold initContext at created
  dsimp only at created
  split at created
  · cases created
  · cases created
    rfl

theorem effect_newOperator {operatorData : OperatorData}
    (absent : operatorData.xonlyPk ∉ self.roundKeys)
    (succeeded : (self.newOperator library env rows operatorData).outcome = .ok ()) :
    Effect self (self.newOperator library env rows operatorData) [] [] := by
  unfold newOperator at succeeded ⊢
  split at succeeded
  · cases succeeded
  · next context created =>
      dsimp only at succeeded ⊢
      split_ifs at succeeded ⊢
      refine Effect.prepend (effect_processAndAdd ?_ succeeded) (checksIn_initLog ?_)
      · intro rounds
        refine nodup_append.mpr ⟨rounds, nodup_singleton _, ?_⟩
        rintro key member _ (_ | ⟨_, ⟨⟩⟩) rfl
        refine absent ?_
        dsimp only at member
        rw [operatorData_initWithContext] at member
        exact member
      · intro record member
        rcases adds_onEntry library record member with old | new
        · rw [duties_initContext created] at old
          cases old
        · exact .inl new

/-- The checks that `NewKickoff` makes. -/
def checkedAtOnce (lastProcessedLcp : Option UInt32) (kickoffData : KickoffData)
    (kickoffHeight : UInt32) : List KickoffData :=
  match lastProcessedLcp with
  | some lastLcpHeight => if kickoffHeight ≤ lastLcpHeight then [kickoffData] else []
  | none => []

variable {kickoffHeight : UInt32}

theorem effect_checkNewKickoff
    (succeeded : (self.checkNewKickoff library context kickoffData kickoffHeight depositData
      payoutBlockhash rows).outcome = .ok ()) :
    Effect self (self.checkNewKickoff library context kickoffData kickoffHeight depositData
      payoutBlockhash rows) [] (checkedAtOnce self.lastProcessedLcp kickoffData kickoffHeight) := by
  unfold checkNewKickoff at succeeded ⊢
  unfold checkedAtOnce
  cases last : self.lastProcessedLcp with
  | none => exact .unchanged
  | some lastLcpHeight =>
    rw [last] at succeeded
    dsimp only at succeeded ⊢
    split_ifs at succeeded ⊢
    · exact effect_checkIfKickoffMalicious succeeded
    · exact .unchanged

theorem effect_newKickoff
    (succeeded : (self.newKickoff library env rows kickoffData kickoffHeight depositData
      payoutBlockhash).outcome = .ok ()) :
    Effect self (self.newKickoff library env rows kickoffData kickoffHeight depositData
      payoutBlockhash) [⟨kickoffData, depositData, kickoffHeight, payoutBlockhash⟩]
      (checkedAtOnce self.lastProcessedLcp kickoffData kickoffHeight) := by
  unfold newKickoff at succeeded ⊢
  split at succeeded
  · cases succeeded
  · next context created =>
      dsimp only at succeeded ⊢
      split_ifs at succeeded ⊢
      obtain ⟨first, second⟩ := andThen_outcome succeeded
      have silent : checksIn (initLog ((KickoffStateMachine.new kickoffData kickoffHeight
          depositData payoutBlockhash).initWithContext library context).1.machineId
          ((KickoffStateMachine.new kickoffData kickoffHeight depositData
            payoutBlockhash).initWithContext library context).2) = [] := by
        refine checksIn_initLog fun record member => ?_
        rcases KickoffStateMachine.adds_onEntry library record member with old | new
        · rw [duties_initContext created] at old
          cases old
        · exact .inr new
      have added := (effect_processAndAdd (fun rounds => by simpa using rounds) first).prepend
        silent
      have identity : [((KickoffStateMachine.new kickoffData kickoffHeight depositData
          payoutBlockhash).initWithContext library context).1].map KickoffStateMachine.identity =
          [⟨kickoffData, depositData, kickoffHeight, payoutBlockhash⟩] := by
        rw [map_singleton, KickoffStateMachine.identity_initWithContext]
        rfl
      rw [identity] at added
      have checked := effect_checkNewKickoff second
      rw [added.lastLcp] at checked
      exact added.andThen first checked

/-! ## Events -/

/-- The light client proof of a height: the kickoffs of that height are checked. -/
theorem lcpProcessed_ok (succeeded : (self.lcpProcessed library env rows height).outcome = .ok ()) :
    ∃ handling, Effect self handling [] ((self.kickoffsToCheck height).map fun kickoff =>
        kickoff.2.1) ∧
      (self.lcpProcessed library env rows height).log = handling.log ∧
      (self.lcpProcessed library env rows height).manager =
        { handling.manager with lastProcessedLcp := some height } := by
  unfold lcpProcessed at succeeded ⊢
  obtain ⟨first, -⟩ := andThen_outcome succeeded
  refine ⟨_, effect_checkHeight first, ?_, ?_⟩ <;> rw [andThen_of_ok first]
  exact append_nil _

/-- Whether an announced kickoff gets a machine. -/
def createsMachine (env : StateEnvironment) (self : StateManager) (kickoffData : KickoffData) :
    Bool :=
  env.owner.isKickoffRelevantForOwner kickoffData &&
    (self.kickoffMachines.find? fun machine => machine.kickoffData = kickoffData).isNone

/-- The kickoffs that get a machine. -/
def addedBy (env : StateEnvironment) (self : StateManager) :
    SystemEvent → List KickoffStateMachine.Identity
  | .newKickoff kickoffData kickoffHeight depositData payoutBlockhash =>
    if createsMachine env self kickoffData then
      [⟨kickoffData, depositData, kickoffHeight, payoutBlockhash⟩]
    else []
  | _ => []

/-- The kickoffs that are checked. -/
def checkedBy (env : StateEnvironment) (self : StateManager) : SystemEvent → List KickoffData
  | .newKickoff kickoffData kickoffHeight _ _ =>
    if createsMachine env self kickoffData then
      checkedAtOnce self.lastProcessedLcp kickoffData kickoffHeight
    else []
  | .lcpProcessed height => (self.kickoffsToCheck height).map fun kickoff => kickoff.2.1
  | _ => []

/-- The last light client proof after an event. -/
def lcpAfter (self : StateManager) : SystemEvent → Option UInt32
  | .lcpProcessed height => some height
  | _ => self.lastProcessedLcp

/-- What an event that is handled without error does about kickoffs. -/
structure Stepped (env : StateEnvironment) (before : StateManager) (event : SystemEvent)
    (handling : Handling) : Prop where
  identities : (handling.manager.kickoffMachines.map KickoffStateMachine.identity).Perm
    (before.kickoffMachines.map KickoffStateMachine.identity ++ addedBy env before event)
  checks : (checksIn handling.log).map MaliceCheck.kickoffData = checkedBy env before event
  lastLcp : handling.manager.lastProcessedLcp = before.lcpAfter event
  marked : ∀ log, Marked before log → Marked handling.manager (log ++ handling.log)

variable {event : SystemEvent}

theorem Effect.stepped
    (effect : Effect self handling (addedBy env self event) (checkedBy env self event))
    (lastLcp : self.lcpAfter event = self.lastProcessedLcp) :
    Stepped env self event handling :=
  ⟨effect.identities, effect.checks, effect.lastLcp.trans lastLcp.symm, effect.marked⟩

theorem handleEvent_stepped
    (succeeded : (self.handleEvent library env faults rows event).outcome = .ok ()) :
    Stepped env self event (self.handleEvent library env faults rows event) := by
  have unchanged : ∀ {rows : StateRows}, Effect self ⟨self, rows, [], .ok ()⟩ [] [] := .unchanged
  cases event with
  | newFinalizedBlock block height =>
    rw [handleEvent] at succeeded ⊢
    obtain ⟨first, second⟩ := andThen_outcome succeeded
    refine Effect.stepped ?_ rfl
    exact (effect_newFinalizedBlock first).andThen first (effect_saveAfterEvent second)
  | newOperator operatorData =>
    unfold handleEvent at succeeded ⊢
    dsimp only at succeeded ⊢
    refine Effect.stepped ?_ rfl
    split_ifs at succeeded ⊢ with known
    · exact unchanged
    · obtain ⟨first, second⟩ := andThen_outcome succeeded
      have absent : operatorData.xonlyPk ∉ self.roundKeys := by
        simpa [roundKeys] using known
      exact (effect_newOperator absent first).andThen first (effect_saveAfterEvent second)
  | newKickoff kickoffData kickoffHeight depositData payoutBlockhash =>
    have skipped : createsMachine env self kickoffData = false →
        Effect self ⟨self, rows, [], .ok ()⟩ (addedBy env self (.newKickoff kickoffData
          kickoffHeight depositData payoutBlockhash)) (checkedBy env self (.newKickoff
            kickoffData kickoffHeight depositData payoutBlockhash)) := by
      intro creates
      simp only [addedBy, checkedBy, creates, Bool.false_eq_true, if_false]
      exact unchanged
    refine Effect.stepped ?_ rfl
    unfold handleEvent at succeeded ⊢
    dsimp only at succeeded ⊢
    by_cases irrelevant : env.owner.isKickoffRelevantForOwner kickoffData = false
    · rw [if_pos irrelevant]
      exact skipped (by simp [createsMachine, irrelevant])
    · rw [if_neg irrelevant] at succeeded ⊢
      rw [Bool.not_eq_false] at irrelevant
      split at succeeded
      · next machine found =>
          split_ifs at succeeded with matching
          rw [if_pos matching]
          exact skipped (by simp [createsMachine, found])
      · next found =>
          obtain ⟨first, second⟩ := andThen_outcome succeeded
          have creates : createsMachine env self kickoffData = true := by
            simp [createsMachine, irrelevant, found]
          simp only [addedBy, checkedBy, creates, if_true]
          have effect : Effect self ((self.newKickoff library env rows kickoffData kickoffHeight
              depositData payoutBlockhash).andThen fun manager rows =>
                manager.saveAfterEvent library env faults rows) _ _ :=
            (effect_newKickoff first).andThen first (effect_saveAfterEvent second)
          rw [append_nil, append_nil] at effect
          exact effect
  | lcpProcessed height =>
    rw [handleEvent] at succeeded ⊢
    obtain ⟨first, second⟩ := andThen_outcome succeeded
    obtain ⟨checked, effect, log, manager⟩ := lcpProcessed_ok first
    have saved := effect_saveAfterEvent second
    rw [andThen_of_ok first]
    refine ⟨?_, ?_, ?_, fun before marked => ?_⟩
    · rw [manager] at saved ⊢
      exact saved.identities.trans ((List.Perm.of_eq (append_nil _)).trans effect.identities)
    · rw [checksIn_append, map_append, log, effect.checks, saved.checks]
      exact append_nil _
    · rw [saved.lastLcp, manager]
      rfl
    · have marked' := effect.marked before marked
      rw [log, ← append_assoc]
      refine saved.marked _ ?_
      rw [manager]
      exact ⟨marked'.rounds, marked'.known, marked'.ordered⟩

/-- A kickoff that is announced again has the data of its machine. -/
theorem announced_again (relevant : env.owner.isKickoffRelevantForOwner kickoffData = true)
    (succeeded : (self.handleEvent library env faults rows (.newKickoff kickoffData kickoffHeight
      depositData payoutBlockhash)).outcome = .ok ()) :
    KickoffStateMachine.Identity.mk kickoffData depositData kickoffHeight payoutBlockhash ∈
      self.kickoffMachines.map KickoffStateMachine.identity ++
        addedBy env self (.newKickoff kickoffData kickoffHeight depositData payoutBlockhash) := by
  unfold handleEvent at succeeded
  dsimp only at succeeded
  rw [if_neg (by simp [relevant])] at succeeded
  split at succeeded
  · next machine found =>
      split_ifs at succeeded with matching
      have key : machine.kickoffData = kickoffData := by
        simpa using find?_some found
      have all := count_eq_length.mp matching
      refine mem_append_left _ (mem_map.mpr ⟨machine, mem_of_find?_eq_some found, ?_⟩)
      simp only [mem_cons, not_mem_nil, or_false, forall_eq_or_imp, forall_eq,
        true_eq_decide_iff] at all
      obtain ⟨rfl, rfl, rfl⟩ := all
      subst key
      rfl
  · next found =>
      have creates : createsMachine env self kickoffData = true := by
        simp [createsMachine, relevant, found]
      simp [addedBy, creates]

/-! ## Runs -/

/-- An event, with what the manager reads from outside while it handles it. -/
structure EventCall where
  env : StateEnvironment
  faults : Faults
  event : SystemEvent

/-- The events of a run, one after another until one fails. -/
def handleAll (library : BuilderLibrary) : List EventCall → StateManager → StateRows → Handling
  | [], manager, rows => ⟨manager, rows, [], .ok ()⟩
  | call :: rest, manager, rows =>
    (manager.handleEvent library call.env call.faults rows call.event).andThen
      (handleAll library rest)

/-- The heights of the light client proofs. -/
def lcpHeights (calls : List EventCall) : List UInt32 :=
  calls.filterMap fun call =>
    match call.event with
    | .lcpProcessed height => some height
    | _ => none

/-- How often a kickoff is checked. -/
def checkCount (kickoffData : KickoffData) (log : List LogEntry) : Nat :=
  ((checksIn log).map MaliceCheck.kickoffData).count kickoffData

/-- Consecutive heights. -/
def Consecutive (heights : List UInt32) : Prop :=
  heights.IsChain fun height next => next.toNat = height.toNat + 1

theorem Consecutive.lt_last {last : UInt32} (consecutive : Consecutive (heights ++ [last])) :
    ∀ height ∈ heights, height < last := by
  have increasing : (heights ++ [last]).IsChain (· < ·) := by
    refine List.IsChain.imp (fun height next successor => ?_) consecutive
    exact UInt32.lt_iff_toNat_lt.mpr (by omega)
  rw [isChain_iff_pairwise] at increasing
  intro height member
  exact (pairwise_append.mp increasing).2.2 height member last mem_cons_self

/-- The checks of a relevant kickoff after the events of a run. -/
structure Audited (kickoffData : KickoffData) (calls : List EventCall) (manager : StateManager)
    (log : List LogEntry) : Prop where
  unique : manager.Unique
  lastLcp : manager.lastProcessedLcp = (lcpHeights calls).getLast?
  announced : ∀ call ∈ calls, ∀ kickoffHeight depositData payoutBlockhash,
    call.event = .newKickoff kickoffData kickoffHeight depositData payoutBlockhash →
      KickoffStateMachine.Identity.mk kickoffData depositData kickoffHeight payoutBlockhash ∈
        manager.kickoffMachines.map KickoffStateMachine.identity
  origin : kickoffData ∈ manager.kickoffKeys → ∃ call ∈ calls,
    ∃ kickoffHeight depositData payoutBlockhash,
      call.event = .newKickoff kickoffData kickoffHeight depositData payoutBlockhash
  unannounced : kickoffData ∉ manager.kickoffKeys → checkCount kickoffData log = 0
  counted : ∀ machine ∈ manager.kickoffMachines, machine.kickoffData = kickoffData →
    checkCount kickoffData log ≤ 1 ∧
      (machine.kickoffHeight ∈ lcpHeights calls → checkCount kickoffData log = 1) ∧
      ((∀ height ∈ lcpHeights calls, height < machine.kickoffHeight) →
        checkCount kickoffData log = 0)

theorem lcpHeights_append (first second : List EventCall) :
    lcpHeights (first ++ second) = lcpHeights first ++ lcpHeights second :=
  filterMap_append

theorem checkCount_append (kickoffData : KickoffData) (first second : List LogEntry) :
    checkCount kickoffData (first ++ second) =
      checkCount kickoffData first + checkCount kickoffData second := by
  rw [checkCount, checksIn_append, map_append, count_append]
  rfl

theorem map_kickoffsToCheck (height : UInt32) :
    ((self.kickoffsToCheck height).map fun kickoff => kickoff.2.1) =
      (self.kickoffMachines.filter fun machine => machine.kickoffHeight = height).map
        KickoffStateMachine.kickoffData := by
  rw [kickoffsToCheck, map_map]
  rfl

/-- The proof of a height checks each kickoff of that height once. -/
theorem count_kickoffsToCheck {machine : KickoffStateMachine} (unique : self.Unique)
    (member : machine ∈ self.kickoffMachines) :
    ((self.kickoffsToCheck height).map fun kickoff => kickoff.2.1).count machine.kickoffData =
      if machine.kickoffHeight = height then 1 else 0 := by
  rw [map_kickoffsToCheck]
  split_ifs with same
  · refine count_eq_one_of_mem (unique.kickoffs.sublist (filter_sublist.map _)) ?_
    exact mem_map_of_mem (mem_filter.mpr ⟨member, by simpa using same⟩)
  · refine count_eq_zero_of_not_mem fun inFilter => ?_
    obtain ⟨other, filtered, key⟩ := mem_map.mp inFilter
    obtain ⟨inMachines, atHeight⟩ := mem_filter.mp filtered
    have equal := inj_on_of_nodup_map unique.kickoffs inMachines member key
    rw [equal] at atHeight
    exact same (by simpa using atHeight)

theorem mem_checkedBy_newKickoff {other : KickoffData}
    (checked : kickoffData ∈ checkedBy env self (.newKickoff other kickoffHeight depositData
      payoutBlockhash)) : createsMachine env self other = true ∧ kickoffData = other := by
  unfold checkedBy checkedAtOnce at checked
  dsimp only at checked
  split_ifs at checked with creates
  · refine ⟨creates, ?_⟩
    split at checked
    · split_ifs at checked
      · exact mem_singleton.mp checked
      · cases checked
    · cases checked
  · cases checked

/-- A kickoff without a machine is not checked by an event after which it has none. -/
theorem count_checkedBy_of_not_mem (absent : kickoffData ∉ self.kickoffKeys)
    (notAdded : kickoffData ∉ (addedBy env self event).map
      KickoffStateMachine.Identity.kickoffData) :
    (checkedBy env self event).count kickoffData = 0 := by
  refine count_eq_zero_of_not_mem fun checked => ?_
  cases event with
  | newFinalizedBlock block height => cases checked
  | newOperator operatorData => cases checked
  | newKickoff other kickoffHeight depositData payoutBlockhash =>
    obtain ⟨creates, rfl⟩ := mem_checkedBy_newKickoff checked
    simp [addedBy, creates] at notAdded
  | lcpProcessed height =>
    rw [checkedBy, map_kickoffsToCheck] at checked
    exact absent ((filter_sublist.map _).subset checked)

/-- The height of a new kickoff against the proofs that were processed before. -/
theorem count_checkedAtOnce (consecutive : Consecutive heights) :
    (checkedAtOnce heights.getLast? kickoffData kickoffHeight).count kickoffData ≤ 1 ∧
      (kickoffHeight ∈ heights →
        (checkedAtOnce heights.getLast? kickoffData kickoffHeight).count kickoffData = 1) ∧
      ((∀ height ∈ heights, height < kickoffHeight) →
        (checkedAtOnce heights.getLast? kickoffData kickoffHeight).count kickoffData = 0) := by
  rcases eq_nil_or_concat heights with rfl | ⟨front, last, rfl⟩
  · simp [checkedAtOnce]
  · rw [concat_eq_append] at consecutive ⊢
    rw [getLast?_concat, checkedAtOnce]
    have below := consecutive.lt_last
    split_ifs with processed
    · refine ⟨by simp, fun _ => by simp, fun all => ?_⟩
      exact absurd (all last (by simp)) (UInt32.not_lt.mpr processed)
    · refine ⟨by simp, fun member => absurd ?_ processed, fun _ => by simp⟩
      rcases mem_append.mp member with earlier | final
      · exact UInt32.le_of_lt (below kickoffHeight earlier)
      · rw [mem_singleton.mp final]
        exact UInt32.le_refl last

variable {calls : List EventCall} {call : EventCall}

/-- The checks of a kickoff with a machine, after an event. -/
theorem Audited.counted_old {machine : KickoffStateMachine}
    (audited : Audited kickoffData calls self log)
    (consecutive : Consecutive (lcpHeights (calls ++ [call])))
    (member : machine ∈ self.kickoffMachines) (key : machine.kickoffData = kickoffData)
    {count : Nat} (total : count = checkCount kickoffData log +
      (checkedBy call.env self call.event).count kickoffData) :
    count ≤ 1 ∧ (machine.kickoffHeight ∈ lcpHeights (calls ++ [call]) → count = 1) ∧
      ((∀ height ∈ lcpHeights (calls ++ [call]), height < machine.kickoffHeight) → count = 0) := by
  have counted := audited.counted machine member key
  rw [lcpHeights_append] at consecutive ⊢
  obtain ⟨env, faults, event⟩ := call
  cases event with
  | newFinalizedBlock block height =>
    simp only [checkedBy, count_nil, Nat.add_zero] at total
    simpa [total, lcpHeights] using counted
  | newOperator operatorData =>
    simp only [checkedBy, count_nil, Nat.add_zero] at total
    simpa [total, lcpHeights] using counted
  | newKickoff other kickoffHeight depositData payoutBlockhash =>
    have none : (checkedBy env self (.newKickoff other kickoffHeight depositData
        payoutBlockhash)).count kickoffData = 0 := by
      refine count_eq_zero_of_not_mem fun checked => ?_
      obtain ⟨creates, same⟩ := mem_checkedBy_newKickoff checked
      simp only [createsMachine, Bool.and_eq_true, Option.isNone_iff_eq_none,
        find?_eq_none] at creates
      exact creates.2 machine member (by simpa using key.trans same)
    rw [none, Nat.add_zero] at total
    simpa [total, lcpHeights] using counted
  | lcpProcessed height =>
    have proofs : lcpHeights [⟨env, faults, .lcpProcessed height⟩] = [height] := rfl
    rw [proofs] at consecutive ⊢
    rw [checkedBy, ← key, count_kickoffsToCheck audited.unique member, key] at total
    obtain ⟨atMost, exact, before⟩ := counted
    split_ifs at total with same
    · have zero := before fun earlier inCalls => same ▸ consecutive.lt_last earlier inCalls
      refine ⟨by omega, fun _ => by omega, fun all => ?_⟩
      have impossible := all height (by simp)
      rw [same] at impossible
      exact absurd impossible (UInt32.lt_irrefl height)
    · rw [Nat.add_zero] at total
      rw [total]
      refine ⟨atMost, fun inHeights => exact ?_, fun all => before fun earlier inCalls =>
        all earlier (mem_append_left _ inCalls)⟩
      exact (mem_append.mp inHeights).resolve_right fun last => same (mem_singleton.mp last)

theorem announces_of_addedBy
    (added : kickoffData ∈ (addedBy env self event).map KickoffStateMachine.Identity.kickoffData) :
    ∃ kickoffHeight depositData payoutBlockhash,
      event = .newKickoff kickoffData kickoffHeight depositData payoutBlockhash := by
  cases event with
  | newKickoff other kickoffHeight depositData payoutBlockhash =>
    unfold addedBy at added
    dsimp only at added
    split_ifs at added
    · rw [map_singleton, mem_singleton] at added
      exact ⟨kickoffHeight, depositData, payoutBlockhash, by rw [added]⟩
    · cases added
  | _ => cases added

/-- The checks of a kickoff that gets its machine. -/
theorem Audited.counted_new {machine : KickoffStateMachine}
    (audited : Audited kickoffData calls self log)
    (consecutive : Consecutive (lcpHeights (calls ++ [call])))
    (new : machine.identity ∈ addedBy call.env self call.event)
    (key : machine.kickoffData = kickoffData) {count : Nat}
    (total : count = checkCount kickoffData log +
      (checkedBy call.env self call.event).count kickoffData) :
    count ≤ 1 ∧ (machine.kickoffHeight ∈ lcpHeights (calls ++ [call]) → count = 1) ∧
      ((∀ height ∈ lcpHeights (calls ++ [call]), height < machine.kickoffHeight) → count = 0) := by
  obtain ⟨env, faults, event⟩ := call
  cases event with
  | newKickoff other kickoffHeight depositData payoutBlockhash =>
    have proofs : lcpHeights (calls ++ [⟨env, faults, .newKickoff other kickoffHeight depositData
        payoutBlockhash⟩]) = lcpHeights calls := by
      rw [lcpHeights_append]
      exact append_nil _
    simp only [addedBy, checkedBy] at new total
    split_ifs at new total with creates
    · have same := mem_singleton.mp new
      have sameKey : machine.kickoffData = other :=
        congrArg KickoffStateMachine.Identity.kickoffData same
      have sameHeight : machine.kickoffHeight = kickoffHeight :=
        congrArg KickoffStateMachine.Identity.kickoffHeight same
      have absent : kickoffData ∉ self.kickoffKeys := by
        simp only [createsMachine, Bool.and_eq_true, Option.isNone_iff_eq_none,
          find?_eq_none] at creates
        intro inMemory
        obtain ⟨before, member, beforeKey⟩ := mem_map.mp inMemory
        exact creates.2 before member (by simpa using beforeKey.trans (key.symm.trans sameKey))
      rw [audited.unannounced absent, Nat.zero_add, ← sameKey, key, audited.lastLcp] at total
      rw [proofs] at consecutive ⊢
      rw [total, sameHeight]
      exact count_checkedAtOnce consecutive
    · cases new
  | _ => cases new

theorem Audited.step (audited : Audited kickoffData calls self log)
    (relevant : call.env.owner.isKickoffRelevantForOwner kickoffData = true)
    (consecutive : Consecutive (lcpHeights (calls ++ [call])))
    (succeeded : (self.handleEvent library call.env call.faults rows call.event).outcome = .ok ()) :
    Audited kickoffData (calls ++ [call])
      (self.handleEvent library call.env call.faults rows call.event).manager
      (log ++ (self.handleEvent library call.env call.faults rows call.event).log) := by
  have stepped := handleEvent_stepped succeeded
  have added : checkCount kickoffData
      (self.handleEvent library call.env call.faults rows call.event).log =
      (checkedBy call.env self call.event).count kickoffData := by
    rw [checkCount, stepped.checks]
  have keys :
      (self.handleEvent library call.env call.faults rows call.event).manager.kickoffKeys.Perm
      (self.kickoffKeys ++ (addedBy call.env self call.event).map
        KickoffStateMachine.Identity.kickoffData) := by
    have mapped := stepped.identities.map KickoffStateMachine.Identity.kickoffData
    rw [map_append, map_map, map_map] at mapped
    exact mapped
  refine ⟨handleEvent_unique audited.unique, ?_, ?_, ?_, ?_, ?_⟩
  · rw [stepped.lastLcp, lcpHeights_append]
    obtain ⟨env, faults, event⟩ := call
    cases event with
    | lcpProcessed height => exact getLast?_concat.symm
    | _ => exact audited.lastLcp.trans (by simp [lcpHeights])
  · intro other member kickoffHeight depositData payoutBlockhash announces
    rw [stepped.identities.mem_iff]
    rcases mem_append.mp member with earlier | last
    · exact mem_append_left _
        (audited.announced other earlier kickoffHeight depositData payoutBlockhash announces)
    · cases mem_singleton.mp last
      rw [announces] at succeeded ⊢
      exact announced_again relevant succeeded
  · intro present
    rw [keys.mem_iff, mem_append] at present
    rcases present with old | new
    · obtain ⟨other, member, announces⟩ := audited.origin old
      exact ⟨other, mem_append_left _ member, announces⟩
    · exact ⟨call, mem_append_right _ mem_cons_self, announces_of_addedBy new⟩
  · intro absent
    rw [keys.mem_iff, mem_append, not_or] at absent
    rw [checkCount_append, added, audited.unannounced absent.1,
      count_checkedBy_of_not_mem absent.1 absent.2]
  · intro machine member key
    have total := (checkCount_append kickoffData log _).trans
      (congrArg (checkCount kickoffData log + ·) added)
    have identity := stepped.identities.mem_iff.mp (mem_map_of_mem member)
    rcases mem_append.mp identity with old | new
    · obtain ⟨before, inMemory, same⟩ := mem_map.mp old
      have sameKey := congrArg KickoffStateMachine.Identity.kickoffData same
      have sameHeight := congrArg KickoffStateMachine.Identity.kickoffHeight same
      rw [← show before.kickoffHeight = machine.kickoffHeight from sameHeight]
      exact audited.counted_old consecutive inMemory (Eq.trans sameKey key) total
    · exact audited.counted_new consecutive new key total

/-- A manager without machines, before a run. -/
theorem audited_of_empty (kickoffData : KickoffData) (noRounds : self.roundMachines = [])
    (noKickoffs : self.kickoffMachines = []) (noLcp : self.lastProcessedLcp = none) :
    Audited kickoffData [] self [] ∧ Marked self [] := by
  have unique := unique_of_empty noRounds noKickoffs
  refine ⟨⟨unique, noLcp, ?_, ?_, fun _ => rfl, ?_⟩, unique.rounds, ?_, .nil⟩
  · exact fun _ member => absurd member not_mem_nil
  · simp [kickoffKeys, noKickoffs]
  · simp [noKickoffs]
  · exact fun _ member => absurd member not_mem_nil

/-- What holds after the first events of a run holds after all of them. -/
theorem Audited.run {done : List EventCall} (audited : Audited kickoffData done self log)
    (marked : Marked self log)
    (relevant : ∀ call ∈ calls, call.env.owner.isKickoffRelevantForOwner kickoffData = true)
    (consecutive : Consecutive (lcpHeights (done ++ calls)))
    (succeeded : (handleAll library calls self rows).outcome = .ok ()) :
    Audited kickoffData (done ++ calls) (handleAll library calls self rows).manager
        (log ++ (handleAll library calls self rows).log) ∧
      Marked (handleAll library calls self rows).manager
        (log ++ (handleAll library calls self rows).log) := by
  induction calls generalizing done self rows log with
  | nil =>
    rw [append_nil]
    have nothing : (handleAll library [] self rows).log = [] := rfl
    rw [nothing, append_nil]
    exact ⟨audited, marked⟩
  | cons call rest ih =>
    rw [handleAll] at succeeded ⊢
    obtain ⟨first, second⟩ := andThen_outcome succeeded
    rw [forall_mem_cons] at relevant
    have split : done ++ call :: rest = done ++ [call] ++ rest := by simp
    rw [split] at consecutive ⊢
    have soFar : Consecutive (lcpHeights (done ++ [call])) := by
      rw [lcpHeights_append] at consecutive
      exact (isChain_append.mp consecutive).1
    rw [andThen_of_ok first, ← append_assoc]
    exact ih (audited.step relevant.1 soFar first) ((handleEvent_stepped first).marked log marked)
      relevant.2 consecutive second

end StateManager

namespace ConsumerTask

open StateManager

variable (library : BuilderLibrary)

/-- The run of a manager that is started on an empty database. -/
def runFromStart (env : StateEnvironment) (faults : Faults) (calls : List EventCall) : Handling :=
  handleAll library calls (start library env faults ⟨∅, ∅, none⟩).task.inner ⟨∅, ∅, none⟩

variable {library}

/-- A manager that was started on an empty database handles events without error, with proofs of
consecutive heights.  Each relevant kickoff that was announced is checked at most once; exactly
once if the proof of its height was processed, whichever came first; and not at all while only
proofs of lower heights were processed.  A kickoff that was not announced is not checked.  No check
of a round that comes after one that found it challenged is made without telling so. -/
theorem kickoff_checked_once {env : StateEnvironment} {faults : Faults} {calls : List EventCall}
    {kickoffData : KickoffData}
    (started : (start library env faults ⟨∅, ∅, none⟩).outcome = .ok ())
    (relevant : ∀ call ∈ calls, call.env.owner.isKickoffRelevantForOwner kickoffData = true)
    (consecutive : Consecutive (lcpHeights calls))
    (succeeded : (runFromStart library env faults calls).outcome = .ok ()) :
    (∀ call ∈ calls, ∀ kickoffHeight depositData payoutBlockhash,
      call.event = .newKickoff kickoffData kickoffHeight depositData payoutBlockhash →
        checkCount kickoffData (runFromStart library env faults calls).log ≤ 1 ∧
          (kickoffHeight ∈ lcpHeights calls →
            checkCount kickoffData (runFromStart library env faults calls).log = 1) ∧
          ((∀ height ∈ lcpHeights calls, height < kickoffHeight) →
            checkCount kickoffData (runFromStart library env faults calls).log = 0)) ∧
      ((∀ call ∈ calls, ∀ kickoffHeight depositData payoutBlockhash,
        call.event ≠ .newKickoff kickoffData kickoffHeight depositData payoutBlockhash) →
          checkCount kickoffData (runFromStart library env faults calls).log = 0) ∧
      (checksIn (runFromStart library env faults calls).log).Pairwise MaliceCheck.Respects := by
  obtain ⟨noRounds, noKickoffs, noLcp, -⟩ := start_empty started
  obtain ⟨audited, marked⟩ := audited_of_empty kickoffData noRounds noKickoffs noLcp
  unfold runFromStart at succeeded ⊢
  obtain ⟨after, ordered⟩ := audited.run marked relevant consecutive succeeded
  rw [nil_append, nil_append] at after
  rw [nil_append] at ordered
  refine ⟨?_, ?_, ordered.ordered⟩
  · intro call member kickoffHeight depositData payoutBlockhash announces
    obtain ⟨machine, inMemory, same⟩ := mem_map.mp
      (after.announced call member kickoffHeight depositData payoutBlockhash announces)
    have height : machine.kickoffHeight = kickoffHeight :=
      congrArg KickoffStateMachine.Identity.kickoffHeight same
    have counted := after.counted machine inMemory
      (congrArg KickoffStateMachine.Identity.kickoffData same)
    rw [height] at counted
    exact counted
  · intro silent
    refine after.unannounced fun present => ?_
    obtain ⟨call, member, kickoffHeight, depositData, payoutBlockhash, announces⟩ :=
      after.origin present
    exact silent call member kickoffHeight depositData payoutBlockhash announces

/-- An operator, a kickoff that is announced twice, and the proof of its height in between. -/
def Regtest.announcements : List EventCall :=
  [.newOperator Regtest.operatorData, .newKickoff Regtest.kickoffData 189 Regtest.depositData [],
    .lcpProcessed 189,
    .newKickoff Regtest.kickoffData 189 Regtest.depositData []].map (.mk Regtest.environment {})

theorem kickoff_checked_once_announced_twice :
    checkCount Regtest.kickoffData (runFromStart Regtest.library Regtest.environment {}
      Regtest.announcements).log = 1 := by
  have checked := @kickoff_checked_once Regtest.library Regtest.environment {}
    Regtest.announcements Regtest.kickoffData (by decide +kernel) (by decide +kernel)
    (.singleton _) (by decide +kernel)
  exact (checked.1 ⟨Regtest.environment, {}, .newKickoff Regtest.kickoffData 189
    Regtest.depositData []⟩ (mem_cons_of_mem _ mem_cons_self) 189 Regtest.depositData []
    rfl).2.1 mem_cons_self

end ConsumerTask

end Clementine
