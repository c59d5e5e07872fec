import Clementine.Core.States.Manager

/-!
# What processing a block does

`process_block_parallel` moves all machines at once, in rounds.  Here it is described machine by
machine: a machine handles the events that it finds in the block one after another until it
finds none, without errors and without regard to the other machines.  The block is processed
exactly if each machine settles in this sense within the number of iterations; the machines of
the manager are then the settled ones, and each machine dispatched the duties of its own events.
-/

namespace Clementine

open StateManager List

/-! ## A single machine -/

variable {duties : List DutyRecord} {bound : Nat}

section Machine

variable {μ : Type} (process : μ → Option (μ × StateContext))

/-- A machine settles in a block after a number of events, having dispatched duties. -/
inductive Settles : Nat → μ → List DutyRecord → μ → Prop where
  | done {machine : μ} (quiet : process machine = none) : Settles 0 machine [] machine
  | step {count : Nat} {machine final : μ} {result : μ × StateContext} {duties : List DutyRecord}
      (processed : process machine = some result) (clean : result.2.errors = [])
      (rest : Settles count result.1 duties final) :
      Settles (count + 1) machine (result.2.duties ++ duties) final

variable {process}

theorem Settles.unique {count count' : Nat} {machine final final' : μ} {duties' : List DutyRecord}
    (first : Settles process count machine duties final)
    (second : Settles process count' machine duties' final') :
    count = count' ∧ duties = duties' ∧ final = final' := by
  induction first generalizing count' duties' final' with
  | done quiet =>
    cases second with
    | done => exact ⟨rfl, rfl, rfl⟩
    | step processed => simp [quiet] at processed
  | step processed _ _ ih =>
    cases second with
    | done quiet => simp [quiet] at processed
    | step processed' _ rest =>
      cases Option.some.inj (processed.symm.trans processed')
      obtain ⟨rfl, rfl, rfl⟩ := ih rest
      exact ⟨rfl, rfl, rfl⟩

/-- A relation between a machine and itself after an event relates a machine and its settled
state. -/
theorem Settles.induct (relation : μ → μ → Prop) (refl : ∀ machine, relation machine machine)
    (trans : ∀ machine middle final, relation machine middle → relation middle final →
      relation machine final)
    (step : ∀ machine result, process machine = some result → relation machine result.1)
    {count : Nat} {machine final : μ} (settles : Settles process count machine duties final) :
    relation machine final := by
  induction settles with
  | done => exact refl _
  | step processed _ _ ih => exact trans _ _ _ (step _ _ processed) ih

/-- What stays the same under an event stays the same in a block. -/
theorem Settles.preserves {κ : Type} {key : μ → κ}
    (keeps : ∀ machine result, process machine = some result → key result.1 = key machine)
    {count : Nat} {machine final : μ} (settles : Settles process count machine duties final) :
    key final = key machine :=
  settles.induct (fun start result => key result = key start) (fun _ => rfl)
    (fun _ _ _ first second => second.trans first) keeps

variable (process)

/-- A machine settles within a number of events. -/
def Completes (bound : Nat) (machine : μ) (out : μ × List DutyRecord) : Prop :=
  ∃ count ≤ bound, Settles process count machine out.2 out.1

/-- A machine that handled an event settles before a number of further events. -/
def Finishes (bound : Nat) (pending : μ × StateContext) (out : μ × List DutyRecord) : Prop :=
  pending.2.errors = [] ∧ ∃ count < bound, ∃ duties,
    Settles process count pending.1 duties out.1 ∧ out.2 = pending.2.duties ++ duties

variable {process}

theorem Finishes.completes {machine : μ} {pending : μ × StateContext} {out : μ × List DutyRecord}
    (processed : process machine = some pending) (finishes : Finishes process bound pending out) :
    Completes process bound machine out := by
  obtain ⟨clean, count, below, duties, settles, dispatched⟩ := finishes
  refine ⟨count + 1, below, ?_⟩
  rw [dispatched]
  exact .step processed clean settles

theorem Completes.finishes {pending : μ × StateContext} {out : μ × List DutyRecord}
    (clean : pending.2.errors = []) (completes : Completes process bound pending.1 out) :
    Finishes process (bound + 1) pending (out.1, pending.2.duties ++ out.2) := by
  obtain ⟨count, below, settles⟩ := completes
  exact ⟨clean, count, Nat.lt_succ_of_le below, out.2, settles, rfl⟩

/-- The machines that settle are those without an event and those that finish. -/
theorem completes_of_update {machines : List μ} {outs : List (μ × List DutyRecord)}
    (finishes : List.Forall₂ (Finishes process bound) (updateMachines process machines).2 outs) :
    ∃ all, List.Forall₂ (Completes process bound) machines all ∧ (all.map Prod.fst).Perm
        ((updateMachines process machines).1 ++ outs.map Prod.fst) := by
  induction machines generalizing outs with
  | nil =>
    cases finishes
    exact ⟨[], .nil, .nil⟩
  | cons machine rest ih =>
    cases processed : process machine with
    | none =>
      simp only [updateMachines, filterMap_cons_none processed] at finishes
      obtain ⟨all, complete, perm⟩ := ih finishes
      refine ⟨(machine, []) :: all, .cons ⟨0, Nat.zero_le _, .done processed⟩ complete, ?_⟩
      simpa [updateMachines, processed] using perm
    | some pending =>
      simp only [updateMachines, filterMap_cons_some processed] at finishes
      cases finishes with
      | @cons _ out _ outs first others =>
        obtain ⟨all, complete, perm⟩ := ih others
        refine ⟨out :: all, .cons (first.completes processed) complete, ?_⟩
        simp only [updateMachines, processed, map_cons,
          Option.isNone_some, Bool.false_eq_true, not_false_eq_true, filter_cons_of_neg]
        exact (perm.cons _).trans perm_middle.symm

end Machine

/-! ## All machines -/

namespace StateManager

variable {library : BuilderLibrary} {context : StateContext} {μ : Type}

theorem errorsOf_eq_nil {processed : List (μ × StateContext)} :
    errorsOf processed = [] ↔ ∀ pending ∈ processed, pending.2.errors = [] := by
  simp [errorsOf, flatMap_eq_nil_iff]

/-- Machines that settle after their last event finish together with it. -/
theorem finishes_of_map {process : μ → Option (μ × StateContext)}
    {pending : List (μ × StateContext)} {outs : List (μ × List DutyRecord)}
    (clean : ∀ entry ∈ pending, entry.2.errors = [])
    (complete : List.Forall₂ (Completes process bound) (pending.map Prod.fst) outs) :
    ∃ all, List.Forall₂ (Finishes process (bound + 1)) pending all ∧
      all.map Prod.fst = outs.map Prod.fst := by
  induction pending generalizing outs with
  | nil =>
    cases complete
    exact ⟨[], .nil, rfl⟩
  | cons entry rest ih =>
    cases complete with
    | @cons _ out _ outs first others =>
      obtain ⟨all, finishes, same⟩ :=
        ih (fun other member => clean other (mem_cons_of_mem _ member)) others
      refine ⟨(out.1, entry.2.duties ++ out.2) :: all,
        .cons (first.finishes (clean entry mem_cons_self)) finishes, ?_⟩
      rw [map_cons, map_cons, same]

/-- The machines that a finished loop adds to the settled ones. -/
structure LoopDone (library : BuilderLibrary) (context : StateContext) (fuel : Nat)
    (settled : Settled) (kickoffs : List (KickoffStateMachine × StateContext))
    (rounds : List (RoundStateMachine × StateContext)) (result : Settled)
    (kickoffOuts : List (KickoffStateMachine × List DutyRecord))
    (roundOuts : List (RoundStateMachine × List DutyRecord)) : Prop where
  kickoffs : List.Forall₂ (Finishes (·.processWithCtx library context) fuel) kickoffs kickoffOuts
  rounds : List.Forall₂ (Finishes (·.processWithCtx library context) fuel) rounds roundOuts
  kickoffMachines : result.kickoffMachines.Perm
    (settled.kickoffMachines ++ kickoffOuts.map Prod.fst)
  roundMachines : result.roundMachines.Perm (settled.roundMachines ++ roundOuts.map Prod.fst)

variable {kickoffs : List (KickoffStateMachine × StateContext)}
  {rounds : List (RoundStateMachine × StateContext)} {settled result : Settled}

/-- The loop ends well only if each machine settles. -/
theorem settle_eq_ok {fuel : Nat}
    (finished : settle library context fuel settled kickoffs rounds = .ok result) :
    ∃ kickoffOuts roundOuts,
      LoopDone library context fuel settled kickoffs rounds result kickoffOuts roundOuts := by
  induction fuel generalizing settled kickoffs rounds with
  | zero =>
    unfold settle at finished
    split_ifs at finished with empty erroneous
    · cases finished
      obtain ⟨rfl, rfl⟩ := empty
      exact ⟨[], [], .nil, .nil, by simp, by simp⟩
  | succ fuel ih =>
    unfold settle at finished
    split_ifs at finished with empty erroneous
    · cases finished
      obtain ⟨rfl, rfl⟩ := empty
      exact ⟨[], [], .nil, .nil, by simp, by simp⟩
    · simp only [ne_eq, append_eq_nil_iff, not_not, errorsOf_eq_nil] at erroneous
      obtain ⟨kickoffOuts, roundOuts, done⟩ := ih finished
      obtain ⟨allKickoffs, kickoffsComplete, kickoffPerm⟩ := completes_of_update done.kickoffs
      obtain ⟨allRounds, roundsComplete, roundPerm⟩ := completes_of_update done.rounds
      obtain ⟨finalKickoffs, kickoffsFinish, sameKickoffs⟩ :=
        finishes_of_map erroneous.1 kickoffsComplete
      obtain ⟨finalRounds, roundsFinish, sameRounds⟩ :=
        finishes_of_map erroneous.2 roundsComplete
      refine ⟨finalKickoffs, finalRounds, kickoffsFinish, roundsFinish, ?_, ?_⟩
      · rw [sameKickoffs]
        refine done.kickoffMachines.trans ?_
        rw [Settled.add, append_assoc]
        exact kickoffPerm.symm.append_left _
      · rw [sameRounds]
        refine done.roundMachines.trans ?_
        rw [Settled.add, append_assoc]
        exact roundPerm.symm.append_left _

/-! ## The duties of a machine -/

/-- The duties in a log that a machine dispatched. -/
def dutiesOf (machine : MachineId) (log : List LogEntry) : List DutyRecord :=
  log.filterMap fun entry => if entry.machine = some machine then some entry.record else none

@[simp] theorem dutiesOf_append (machine : MachineId) (first second : List LogEntry) :
    dutiesOf machine (first ++ second) = dutiesOf machine first ++ dutiesOf machine second :=
  filterMap_append

/-- The duties of a machine that is not among the processed ones. -/
theorem dutiesOf_logOf_of_not_mem {name : μ → MachineId} {machine : MachineId}
    {processed : List (μ × StateContext)} (absent : ∀ entry ∈ processed, name entry.1 ≠ machine) :
    dutiesOf machine (logOf name processed) = [] := by
  simp only [dutiesOf, logOf, filterMap_eq_nil_iff, mem_flatMap, mem_map]
  rintro _ ⟨entry, member, record, -, rfl⟩
  simp [absent entry member]

/-- The duties of one of the processed machines, if they have different names. -/
theorem dutiesOf_logOf {name : μ → MachineId} {entry : μ × StateContext}
    {processed : List (μ × StateContext)}
    (distinct : (processed.map fun entry => name entry.1).Nodup) (member : entry ∈ processed) :
    dutiesOf (name entry.1) (logOf name processed) = entry.2.duties := by
  induction processed with
  | nil => cases member
  | cons head rest ih =>
    rw [map_cons, nodup_cons] at distinct
    have split : logOf name (head :: rest) =
        (head.2.duties.map fun record => ⟨some (name head.1), record⟩) ++ logOf name rest := rfl
    rw [split, dutiesOf_append]
    rcases mem_cons.mp member with rfl | later
    · have others : ∀ other ∈ rest, name other.1 ≠ name entry.1 := by
        intro other inRest same
        exact distinct.1 (same ▸ mem_map_of_mem inRest)
      rw [dutiesOf_logOf_of_not_mem others, append_nil, dutiesOf, filterMap_map]
      simp
    · have different : name head.1 ≠ name entry.1 := by
        intro same
        exact distinct.1 (same ▸ mem_map_of_mem later)
      rw [ih distinct.2 later, dutiesOf, filterMap_map]
      simp [different]

/-- The names of the machines that handle an event. -/
theorem names_updateMachines {κ : Type} {process : μ → Option (μ × StateContext)} {name : μ → κ}
    (keeps : ∀ machine result, process machine = some result → name result.1 = name machine)
    (machines : List μ) :
    ((updateMachines process machines).2.map fun entry => name entry.1).Sublist
      (machines.map name) := by
  induction machines with
  | nil => exact .slnil
  | cons machine rest ih =>
    cases processed : process machine with
    | none =>
      simp only [updateMachines, filterMap_cons_none processed, map_cons]
      exact ih.cons _
    | some result =>
      simp only [updateMachines, filterMap_cons_some processed, map_cons,
        keeps machine result processed]
      exact ih.cons_cons _

theorem machineId_processKickoff {machine : KickoffStateMachine}
    {result : KickoffStateMachine × StateContext}
    (processed : machine.processWithCtx library context = some result) :
    result.1.machineId = machine.machineId :=
  congrArg MachineId.kickoff (congrArg KickoffStateMachine.Identity.kickoffData
    (KickoffStateMachine.identity_processWithCtx library processed))

theorem machineId_processRound {machine : RoundStateMachine}
    {result : RoundStateMachine × StateContext}
    (processed : machine.processWithCtx library context = some result) :
    result.1.machineId = machine.machineId :=
  congrArg MachineId.round (congrArg OperatorData.xonlyPk
    (RoundStateMachine.operatorData_processWithCtx library processed))

/-- A finished loop that is not at its end made an iteration. -/
theorem settle_step {fuel : Nat}
    (finished : settle library context fuel settled kickoffs rounds = .ok result)
    (busy : ¬(kickoffs = [] ∧ rounds = [])) :
    ∃ fuel', fuel = fuel' + 1 ∧ settle library context fuel' (settled.add
          (updateMachines (·.processWithCtx library context) (kickoffs.map Prod.fst)).1
          (updateMachines (·.processWithCtx library context) (rounds.map Prod.fst)).1
          (logOf KickoffStateMachine.machineId kickoffs ++
            logOf RoundStateMachine.machineId rounds))
        (updateMachines (·.processWithCtx library context) (kickoffs.map Prod.fst)).2
        (updateMachines (·.processWithCtx library context) (rounds.map Prod.fst)).2 =
          .ok result := by
  unfold settle at finished
  rw [if_neg busy] at finished
  split_ifs at finished
  cases fuel with
  | zero => cases finished
  | succ fuel => exact ⟨fuel, rfl, finished⟩

theorem mem_names_updateMachines {κ : Type} {process : μ → Option (μ × StateContext)} {name : μ → κ}
    {pending : List (μ × StateContext)} {entry : μ × StateContext}
    (keeps : ∀ machine result, process machine = some result → name result.1 = name machine)
    (member : entry ∈ (updateMachines process (pending.map Prod.fst)).2) :
    ∃ earlier ∈ pending, name earlier.1 = name entry.1 := by
  have named := (names_updateMachines keeps (pending.map Prod.fst)).subset (mem_map_of_mem member)
  simpa using named

/-- A machine that handles no event dispatches no duty. -/
theorem dutiesOf_settle_of_not_mem {fuel : Nat} {machine : MachineId}
    (finished : settle library context fuel settled kickoffs rounds = .ok result)
    (notKickoff : ∀ entry ∈ kickoffs, entry.1.machineId ≠ machine)
    (notRound : ∀ entry ∈ rounds, entry.1.machineId ≠ machine) :
    dutiesOf machine result.log = dutiesOf machine settled.log := by
  induction fuel generalizing settled kickoffs rounds with
  | zero =>
    by_cases empty : kickoffs = [] ∧ rounds = []
    · rw [settle, if_pos empty] at finished
      cases finished
      rfl
    · obtain ⟨fuel, impossible, -⟩ := settle_step finished empty
      cases impossible
  | succ fuel ih =>
    by_cases empty : kickoffs = [] ∧ rounds = []
    · rw [settle, if_pos empty] at finished
      cases finished
      rfl
    · obtain ⟨_, same, next⟩ := settle_step finished empty
      cases same
      rw [ih next]
      · simp only [Settled.add, dutiesOf_append, dutiesOf_logOf_of_not_mem notKickoff,
          dutiesOf_logOf_of_not_mem notRound, append_nil]
      · intro entry member
        obtain ⟨earlier, before, same⟩ := mem_names_updateMachines
          (fun _ _ => machineId_processKickoff) member
        exact same ▸ notKickoff earlier before
      · intro entry member
        obtain ⟨earlier, before, same⟩ := mem_names_updateMachines
          (fun _ _ => machineId_processRound) member
        exact same ▸ notRound earlier before

section Pending

variable {μ κ : Type} {process : μ → Option (μ × StateContext)} {name : μ → κ}
  {pending : List (μ × StateContext)} {entry : μ × StateContext}

theorem nodup_names_update
    (keeps : ∀ machine result, process machine = some result → name result.1 = name machine)
    (distinct : (pending.map fun entry => name entry.1).Nodup) :
    ((updateMachines process (pending.map Prod.fst)).2.map fun entry => name entry.1).Nodup := by
  refine (names_updateMachines keeps _).nodup ?_
  simpa [map_map, Function.comp_def] using distinct

/-- A machine without an event is not among those that handle one. -/
theorem not_mem_update_of_quiet
    (keeps : ∀ machine result, process machine = some result → name result.1 = name machine)
    (distinct : (pending.map fun entry => name entry.1).Nodup) (member : entry ∈ pending)
    (quiet : process entry.1 = none) :
    ∀ next ∈ (updateMachines process (pending.map Prod.fst)).2, name next.1 ≠ name entry.1 := by
  intro next inUpdate same
  simp only [updateMachines, mem_filterMap, mem_map] at inUpdate
  obtain ⟨_, ⟨earlier, before, rfl⟩, processed⟩ := inUpdate
  have sameName : name earlier.1 = name entry.1 := (keeps _ _ processed).symm.trans same
  have sameEntry := inj_on_of_nodup_map distinct before member sameName
  rw [sameEntry, quiet] at processed
  cases processed

theorem mem_update_of_processed {next : μ × StateContext} (member : entry ∈ pending)
    (processed : process entry.1 = some next) :
    next ∈ (updateMachines process (pending.map Prod.fst)).2 :=
  mem_filterMap.mpr ⟨entry.1, mem_map_of_mem member, processed⟩

end Pending

theorem dutiesOf_kickoff_logOf_rounds (machine : KickoffStateMachine)
    (rounds : List (RoundStateMachine × StateContext)) :
    dutiesOf machine.machineId (logOf RoundStateMachine.machineId rounds) = [] :=
  dutiesOf_logOf_of_not_mem fun _ _ => nofun

theorem dutiesOf_round_logOf_kickoffs (machine : RoundStateMachine)
    (kickoffs : List (KickoffStateMachine × StateContext)) :
    dutiesOf machine.machineId (logOf KickoffStateMachine.machineId kickoffs) = [] :=
  dutiesOf_logOf_of_not_mem fun _ _ => nofun

/-- The duties of a kickoff machine in a finished loop are those of its own events. -/
theorem dutiesOf_settle_kickoff {fuel count : Nat} {entry : KickoffStateMachine × StateContext}
    {final : KickoffStateMachine}
    (finished : settle library context fuel settled kickoffs rounds = .ok result)
    (distinct : (kickoffs.map fun entry => entry.1.machineId).Nodup) (member : entry ∈ kickoffs)
    (settles : Settles (·.processWithCtx library context) count entry.1 duties final) :
    dutiesOf entry.1.machineId result.log =
      dutiesOf entry.1.machineId settled.log ++ (entry.2.duties ++ duties) := by
  induction fuel generalizing settled kickoffs rounds entry count duties with
  | zero =>
    obtain ⟨fuel, impossible, -⟩ := settle_step finished (by rintro ⟨rfl, -⟩; cases member)
    cases impossible
  | succ fuel ih =>
    obtain ⟨_, same, next⟩ := settle_step finished (by rintro ⟨rfl, -⟩; cases member)
    cases same
    have keeps : ∀ (machine : KickoffStateMachine) result,
        machine.processWithCtx library context = some result →
          result.1.machineId = machine.machineId := fun _ _ => machineId_processKickoff
    cases settles with
    | done quiet =>
      have absent := not_mem_update_of_quiet keeps distinct member quiet
      rw [dutiesOf_settle_of_not_mem next absent fun _ _ same => by cases same]
      simp [Settled.add, dutiesOf_logOf distinct member, dutiesOf_kickoff_logOf_rounds]
    | @step _ _ _ later _ processed _ rest =>
      have sameName := keeps _ _ processed
      have dispatched := ih next (nodup_names_update keeps distinct)
        (mem_update_of_processed member processed) rest
      rw [sameName] at dispatched
      simpa [Settled.add, dutiesOf_logOf distinct member, dutiesOf_kickoff_logOf_rounds]
        using dispatched

/-- The duties of a round machine in a finished loop are those of its own events. -/
theorem dutiesOf_settle_round {fuel count : Nat} {entry : RoundStateMachine × StateContext}
    {final : RoundStateMachine}
    (finished : settle library context fuel settled kickoffs rounds = .ok result)
    (distinct : (rounds.map fun entry => entry.1.machineId).Nodup) (member : entry ∈ rounds)
    (settles : Settles (·.processWithCtx library context) count entry.1 duties final) :
    dutiesOf entry.1.machineId result.log =
      dutiesOf entry.1.machineId settled.log ++ (entry.2.duties ++ duties) := by
  induction fuel generalizing settled kickoffs rounds entry count duties with
  | zero =>
    obtain ⟨fuel, impossible, -⟩ := settle_step finished (by rintro ⟨-, rfl⟩; cases member)
    cases impossible
  | succ fuel ih =>
    obtain ⟨_, same, next⟩ := settle_step finished (by rintro ⟨-, rfl⟩; cases member)
    cases same
    have keeps : ∀ (machine : RoundStateMachine) result,
        machine.processWithCtx library context = some result →
          result.1.machineId = machine.machineId := fun _ _ => machineId_processRound
    cases settles with
    | done quiet =>
      have absent := not_mem_update_of_quiet keeps distinct member quiet
      rw [dutiesOf_settle_of_not_mem next (fun _ _ same => by cases same) absent]
      simp [Settled.add, dutiesOf_logOf distinct member, dutiesOf_round_logOf_kickoffs]
    | @step _ _ _ later _ processed _ rest =>
      have sameName := keeps _ _ processed
      have dispatched := ih next (nodup_names_update keeps distinct)
        (mem_update_of_processed member processed) rest
      rw [sameName] at dispatched
      simpa [Settled.add, dutiesOf_logOf distinct member, dutiesOf_round_logOf_kickoffs]
        using dispatched

/-! ## The block -/

/-- The context of the block of a height. -/
def blockContext (library : BuilderLibrary) (env : StateEnvironment) (chain : UInt32 → Block)
    (height : UInt32) : StateContext :=
  env.newContext (BlockCache.fromBlock library (chain height) height)

variable {self : StateManager} {rows : StateRows}

/-- What a processed block does to a manager: each machine settles, and its duties are logged. -/
structure BlockDone (library : BuilderLibrary) (context : StateContext) (manager : StateManager)
    (handling : Handling) (kickoffOuts : List (KickoffStateMachine × List DutyRecord))
    (roundOuts : List (RoundStateMachine × List DutyRecord)) : Prop where
  kickoffs : List.Forall₂ (Completes (·.processWithCtx library context) maxIterations)
    manager.kickoffMachines kickoffOuts
  rounds : List.Forall₂ (Completes (·.processWithCtx library context) maxIterations)
    manager.roundMachines roundOuts
  kickoffMachines : handling.manager.kickoffMachines.Perm (kickoffOuts.map Prod.fst)
  roundMachines : handling.manager.roundMachines.Perm (roundOuts.map Prod.fst)
  nextHeight : handling.manager.nextHeightToProcess =
    max (context.cache.blockHeight + 1) manager.nextHeightToProcess
  lastLcp : handling.manager.lastProcessedLcp = manager.lastProcessedLcp
  lastBlock : handling.manager.lastFinalizedBlock = manager.lastFinalizedBlock

theorem processBlockParallel_rows :
    (self.processBlockParallel library context rows).rows = rows := by
  unfold processBlockParallel
  dsimp only
  split <;> rfl

/-- If a block cannot be processed, no machine is left in the manager. -/
theorem processBlockParallel_error {error : ManagerError}
    (failed : (self.processBlockParallel library context rows).outcome = .error error) :
    (self.processBlockParallel library context rows).manager =
      { self with kickoffMachines := [], roundMachines := [] } := by
  unfold processBlockParallel at failed ⊢
  dsimp only at failed ⊢
  split at failed
  · rfl
  · cases failed

theorem processBlockParallel_ok
    (processed : (self.processBlockParallel library context rows).outcome = .ok ()) :
    ∃ kickoffOuts roundOuts, BlockDone library context self
      (self.processBlockParallel library context rows) kickoffOuts roundOuts := by
  unfold processBlockParallel at processed ⊢
  dsimp only at processed ⊢
  split at processed
  · cases processed
  · next settled finished =>
      obtain ⟨kickoffOuts, roundOuts, done⟩ := settle_eq_ok finished
      obtain ⟨allKickoffs, kickoffsComplete, kickoffPerm⟩ := completes_of_update done.kickoffs
      obtain ⟨allRounds, roundsComplete, roundPerm⟩ := completes_of_update done.rounds
      exact ⟨allKickoffs, allRounds, kickoffsComplete, roundsComplete,
        done.kickoffMachines.trans kickoffPerm.symm, done.roundMachines.trans roundPerm.symm,
        rfl, rfl, rfl⟩

end StateManager

end Clementine
