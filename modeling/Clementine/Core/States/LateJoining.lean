import Clementine.Core.States.Malice
import Clementine.Core.States.Persistence

/-!
# Late joining

A machine that is created late catches up with the blocks that the manager processed before, and
then processes the later blocks with the other machines.  Both are described by the same path: the
machine settles in one block after another.  The path does not depend on the height at which the
machine joined, on the other machines, or on the dirty flag, which is cleared only by a save.
-/

namespace Clementine

open KickoffStateMachine List

/-- The stored blocks are those of a chain. -/
abbrev StateEnvironment.Stores (env : StateEnvironment) (chain : UInt32 → Block) : Prop :=
  ∀ height, env.getBlock height = .ok (chain height)

/-- The event that announces a kickoff. -/
abbrev KickoffStateMachine.Identity.event (identity : Identity) : SystemEvent :=
  .newKickoff identity.kickoffData identity.kickoffHeight identity.depositData
    identity.payoutBlockhash

/-! ## The path of a machine -/

variable {duties : List DutyRecord} {library : BuilderLibrary} {context : StateContext} {μ : Type}

section Path

variable (process : UInt32 → μ → Option (μ × StateContext)) (form : μ → μ)

/-- A machine settles in the blocks of some heights, having dispatched duties; machines of the same
form are not distinguished. -/
inductive Path : List UInt32 → μ → List DutyRecord → μ → Prop where
  | nil {machine final : μ} (same : form final = form machine) : Path [] machine [] final
  | cons {height : UInt32} {rest : List UInt32} {machine next final : μ}
      {duties later : List DutyRecord}
      (completes : Completes (process height) StateManager.maxIterations machine (next, duties))
      (path : Path rest next later final) : Path (height :: rest) machine (duties ++ later) final

/-- Machines of the same form settle alike. -/
def SettlesAlike : Prop :=
  ∀ height machine other out, form other = form machine →
    Completes (process height) StateManager.maxIterations machine out →
      ∃ next, Completes (process height) StateManager.maxIterations other (next, out.2) ∧
        form next = form out.1

variable {process form}

theorem Path.congr {heights : List UInt32} {machine other final : μ}
    (alike : SettlesAlike process form) (path : Path process form heights machine duties final)
    (same : form other = form machine) : Path process form heights other duties final := by
  induction path generalizing other with
  | nil sameFinal => exact .nil (sameFinal.trans same.symm)
  | cons completes _ ih =>
    obtain ⟨next, completesOther, sameNext⟩ := alike _ _ _ _ same completes
    exact .cons completesOther (ih sameNext)

theorem Path.append {first second : List UInt32} {machine middle final : μ}
    {later : List DutyRecord} (alike : SettlesAlike process form)
    (left : Path process form first machine duties middle)
    (right : Path process form second middle later final) :
    Path process form (first ++ second) machine (duties ++ later) final := by
  induction left with
  | nil same => exact right.congr alike same.symm
  | cons completes _ ih =>
    rw [append_assoc]
    exact .cons completes (ih right)

theorem Completes.unique {step : μ → Option (μ × StateContext)} {bound : Nat} {machine : μ}
    {out out' : μ × List DutyRecord} (first : Completes step bound machine out)
    (second : Completes step bound machine out') : out = out' := by
  obtain ⟨_, -, settles⟩ := first
  obtain ⟨_, -, settles'⟩ := second
  obtain ⟨-, duties, final⟩ := settles.unique settles'
  exact Prod.ext final duties

/-- There is only one path through some blocks. -/
theorem Path.unique {heights : List UInt32} {machine other final final' : μ}
    {duties' : List DutyRecord} (alike : SettlesAlike process form)
    (first : Path process form heights machine duties final)
    (second : Path process form heights other duties' final') (same : form other = form machine) :
    duties' = duties ∧ form final' = form final := by
  induction first generalizing other duties' final' with
  | nil sameFinal =>
    cases second with
    | nil sameFinal' => exact ⟨rfl, sameFinal'.trans (same.trans sameFinal.symm)⟩
  | cons completes _ ih =>
    cases second with
    | cons completes' path' =>
      obtain ⟨next, completesOther, sameNext⟩ := alike _ _ _ _ same completes
      cases completes'.unique completesOther
      obtain ⟨rfl, sameFinal⟩ := ih path' sameNext
      exact ⟨rfl, sameFinal⟩

end Path

namespace StateManager

variable {self : StateManager} {rows : StateRows}

/-! ## The duties of a machine in a block -/

section Update

variable {μ : Type} {process : μ → Option (μ × StateContext)} {name : μ → MachineId}
  {machines : List μ} {machine : μ}

theorem not_mem_updateMachines_of_quiet
    (keeps : ∀ machine result, process machine = some result → name result.1 = name machine)
    (distinct : (machines.map name).Nodup) (member : machine ∈ machines)
    (quiet : process machine = none) :
    ∀ next ∈ (updateMachines process machines).2, name next.1 ≠ name machine := by
  intro next inUpdate same
  obtain ⟨earlier, before, processed⟩ := mem_filterMap.mp inUpdate
  have equal := inj_on_of_nodup_map distinct before member ((keeps _ _ processed).symm.trans same)
  rw [equal, quiet] at processed
  cases processed

theorem nodup_names_updateMachines
    (keeps : ∀ machine result, process machine = some result → name result.1 = name machine)
    (distinct : (machines.map name).Nodup) :
    ((updateMachines process machines).2.map fun entry => name entry.1).Nodup :=
  (names_updateMachines keeps machines).nodup distinct

/-- The duties of a machine in a block, from what its log holds of machines that handle no event
and of those that handle one. -/
theorem dutiesOf_block {log : List LogEntry} {out : μ × List DutyRecord}
    (keeps : ∀ machine result, process machine = some result → name result.1 = name machine)
    (distinct : (machines.map name).Nodup) (member : machine ∈ machines)
    (absent : (∀ next ∈ (updateMachines process machines).2, name next.1 ≠ name machine) →
      dutiesOf (name machine) log = [])
    (present : ∀ {count entry duties final},
      ((updateMachines process machines).2.map fun entry => name entry.1).Nodup →
        entry ∈ (updateMachines process machines).2 → Settles process count entry.1 duties final →
          dutiesOf (name entry.1) log = entry.2.duties ++ duties)
    (completes : Completes process maxIterations machine out) :
    dutiesOf (name machine) log = out.2 := by
  obtain ⟨final, dispatched⟩ := out
  obtain ⟨count, -, settles⟩ := completes
  cases settles with
  | done quiet => exact absent (not_mem_updateMachines_of_quiet keeps distinct member quiet)
  | step processed _ rest =>
    rw [← keeps _ _ processed]
    exact present (nodup_names_updateMachines keeps distinct)
      (mem_filterMap.mpr ⟨machine, member, processed⟩) rest

end Update

theorem nodup_roundNames (unique : self.Unique) :
    (self.roundMachines.map RoundStateMachine.machineId).Nodup := by
  have keys := unique.rounds.map fun _ _ same => MachineId.round.inj same
  rwa [roundKeys, map_map] at keys

theorem nodup_kickoffNames (unique : self.Unique) : (self.kickoffMachines.map machineId).Nodup := by
  have keys := unique.kickoffs.map fun _ _ same => MachineId.kickoff.inj same
  rwa [kickoffKeys, map_map] at keys

theorem dutiesOf_block_round {machine : RoundStateMachine}
    {out : RoundStateMachine × List DutyRecord} (unique : self.Unique)
    (member : machine ∈ self.roundMachines)
    (succeeded : (self.processBlockParallel library context rows).outcome = .ok ())
    (completes : Completes (·.processWithCtx library context) maxIterations machine out) :
    dutiesOf machine.machineId (self.processBlockParallel library context rows).log = out.2 := by
  unfold processBlockParallel at succeeded ⊢
  dsimp only at succeeded ⊢
  split at succeeded
  · cases succeeded
  · next settled finished =>
      exact dutiesOf_block (fun _ _ => machineId_processRound) (nodup_roundNames unique) member
        (dutiesOf_settle_of_not_mem finished fun _ _ same => by cases same)
        (dutiesOf_settle_round finished) completes

theorem dutiesOf_block_kickoff {machine : KickoffStateMachine}
    {out : KickoffStateMachine × List DutyRecord} (unique : self.Unique)
    (member : machine ∈ self.kickoffMachines)
    (succeeded : (self.processBlockParallel library context rows).outcome = .ok ())
    (completes : Completes (·.processWithCtx library context) maxIterations machine out) :
    dutiesOf machine.machineId (self.processBlockParallel library context rows).log = out.2 := by
  unfold processBlockParallel at succeeded ⊢
  dsimp only at succeeded ⊢
  split at succeeded
  · cases succeeded
  · next settled finished =>
      exact dutiesOf_block (fun _ _ => machineId_processKickoff) (nodup_kickoffNames unique) member
        (fun absent => dutiesOf_settle_of_not_mem finished absent fun _ _ same => by cases same)
        (dutiesOf_settle_kickoff finished) completes

/-! ## Both kinds of machines -/

/-- One of the two kinds of machines, with what blocks and saves do to its machines. -/
structure Kind (library : BuilderLibrary) (μ : Type) where
  machines : StateManager → List μ
  process : StateContext → μ → Option (μ × StateContext)
  /-- A machine without regard to its flag. -/
  form : μ → μ
  name : μ → MachineId
  distinct : ∀ {manager : StateManager}, manager.Unique → ((machines manager).map name).Nodup
  named : ∀ {context machine result}, process context machine = some result →
    name result.1 = name machine
  formNamed : ∀ {machine other}, form other = form machine → name other = name machine
  alike : ∀ {context count machine other duties final},
    Settles (process context) count machine duties final → form other = form machine →
      ∃ next, Settles (process context) count other duties next ∧ form next = form final
  settles : ∀ {manager : StateManager} {context rows machine}, manager.Unique →
    machine ∈ machines manager →
      (manager.processBlockParallel library context rows).outcome = .ok () →
        ∃ out, Completes (process context) maxIterations machine out ∧
          out.1 ∈ machines (manager.processBlockParallel library context rows).manager ∧
          dutiesOf (name machine) (manager.processBlockParallel library context rows).log = out.2
  saves : ∀ {manager : StateManager} {context},
    (machines (manager.markSaved library context)).map form = (machines manager).map form
  transfer : ∀ {first second : StateManager} {machine}, machine ∈ machines first →
    first.roundMachines = second.roundMachines →
      first.kickoffMachines = second.kickoffMachines → machine ∈ machines second
  adds : ∀ {first second : StateManager} {machine}, machine ∈ machines second →
    machine ∈ machines { first with
      roundMachines := first.roundMachines ++ second.roundMachines
      kickoffMachines := first.kickoffMachines ++ second.kickoffMachines }

/-- Round machines. -/
def roundKind (library : BuilderLibrary) : Kind library RoundStateMachine where
  machines := StateManager.roundMachines
  process context machine := machine.processWithCtx library context
  form := RoundStateMachine.saved
  name := RoundStateMachine.machineId
  distinct := nodup_roundNames
  named := machineId_processRound
  formNamed same := by
    have named := congrArg RoundStateMachine.machineId same
    exact named
  alike := (RoundStateMachine.dispatcher library _).settles_congr
  settles unique member succeeded := by
    obtain ⟨_, _, done⟩ := processBlockParallel_ok succeeded
    obtain ⟨out, inOuts, completes⟩ := exists_completes done.rounds member
    exact ⟨out, completes, done.roundMachines.mem_iff.mpr (mem_map_of_mem inOuts),
      dutiesOf_block_round unique member succeeded completes⟩
  saves := by
    intro manager context
    rw [markSaved, map_map]
    refine map_congr_left fun machine _ => ?_
    rw [Function.comp_apply]
    split_ifs
    · rw [RoundStateMachine.handleWithContext_savedToDb]
      rfl
    · rfl
  transfer member rounds _ := rounds ▸ member
  adds member := mem_append_right _ member

/-- Kickoff machines. -/
def kickoffKind (library : BuilderLibrary) : Kind library KickoffStateMachine where
  machines := StateManager.kickoffMachines
  process context machine := machine.processWithCtx library context
  form := saved
  name := machineId
  distinct := nodup_kickoffNames
  named := machineId_processKickoff
  formNamed same := by
    have named := congrArg machineId same
    exact named
  alike := (dispatcher library _).settles_congr
  settles unique member succeeded := by
    obtain ⟨_, _, done⟩ := processBlockParallel_ok succeeded
    obtain ⟨out, inOuts, completes⟩ := exists_completes done.kickoffs member
    exact ⟨out, completes, done.kickoffMachines.mem_iff.mpr (mem_map_of_mem inOuts),
      dutiesOf_block_kickoff unique member succeeded completes⟩
  saves := by
    intro manager context
    rw [markSaved, map_map]
    refine map_congr_left fun machine _ => ?_
    rw [Function.comp_apply]
    split_ifs
    · rw [handleWithContext_savedToDb]
      rfl
    · rfl
  transfer member _ kickoffs := kickoffs ▸ member
  adds member := mem_append_right _ member

variable {newKickoffMachines : List KickoffStateMachine} {newRoundMachines : List RoundStateMachine}
  {chain : UInt32 → Block} {env : StateEnvironment} {faults : Faults} {kind : Kind library μ}

section Follow

variable {machine : μ}

/-- The path of a machine through blocks of a chain. -/
abbrev Kind.Follows (kind : Kind library μ) (env : StateEnvironment) (chain : UInt32 → Block) :
    List UInt32 → μ → List DutyRecord → μ → Prop :=
  Path (fun height => kind.process (blockContext library env chain height)) kind.form

theorem Kind.isAlike (kind : Kind library μ) (env : StateEnvironment) (chain : UInt32 → Block) :
    SettlesAlike (fun height => kind.process (blockContext library env chain height))
      kind.form := by
  rintro height machine other ⟨final, duties⟩ same ⟨count, bound, settles⟩
  obtain ⟨next, settlesOther, sameNext⟩ := kind.alike settles same
  exact ⟨next, ⟨count, bound, settlesOther⟩, sameNext⟩

variable {height : UInt32}

theorem Kind.name_completes {out : μ × List DutyRecord}
    (completes : Completes (kind.process (blockContext library env chain height)) maxIterations
      machine out) : kind.name out.1 = kind.name machine := by
  obtain ⟨count, -, settles⟩ := completes
  exact settles.preserves fun _ _ => kind.named

/-- A machine follows the blocks that it catches up with. -/
theorem Kind.follows_catchUp {heights : List UInt32}
    (stored : env.Stores chain) (unique : self.Unique)
    (member : machine ∈ kind.machines self)
    (succeeded : (catchUp library env heights self rows).outcome = .ok ()) :
    ∃ duties final, kind.Follows env chain heights machine duties final ∧
      final ∈ kind.machines (catchUp library env heights self rows).manager ∧
      dutiesOf (kind.name machine) (catchUp library env heights self rows).log = duties := by
  induction heights generalizing self rows machine with
  | nil => exact ⟨[], machine, .nil rfl, member, rfl⟩
  | cons height rest ih =>
    rw [catchUp] at succeeded ⊢
    obtain ⟨first, second⟩ := andThen_outcome succeeded
    rw [andThen_of_ok first]
    simp only [catchUpBlock, stored height] at first second ⊢
    obtain ⟨out, completes, inMachines, dispatched⟩ := kind.settles unique member first
    obtain ⟨duties, final, path, inFinal, later⟩ :=
      ih (processBlockParallel_unique unique) inMachines second
    refine ⟨out.2 ++ duties, final, .cons completes path, inFinal, ?_⟩
    rw [dutiesOf_append, dispatched, ← kind.name_completes completes, later]

/-- A save changes no machine but for its flag, and dispatches no duty. -/
theorem Kind.saveAfterEvent_ok
    (succeeded : (self.saveAfterEvent library env faults rows).outcome = .ok ()) :
    (kind.machines (self.saveAfterEvent library env faults rows).manager).map kind.form =
        (kind.machines self).map kind.form ∧
      (self.saveAfterEvent library env faults rows).log = [] := by
  unfold saveAfterEvent saveStateToDb at succeeded ⊢
  split at succeeded
  · cases succeeded
  · split at succeeded
    · cases succeeded
    · cases succeeded
    · exact ⟨kind.saves, rfl⟩

theorem Kind.settles_block (unique : self.Unique) (member : machine ∈ kind.machines self)
    (succeeded : (self.newFinalizedBlock library env rows (chain height) height).outcome = .ok ()) :
    ∃ out, Completes (kind.process (blockContext library env chain height)) maxIterations machine
        out ∧
      out.1 ∈ kind.machines
        (self.newFinalizedBlock library env rows (chain height) height).manager ∧
      dutiesOf (kind.name machine)
        (self.newFinalizedBlock library env rows (chain height) height).log = out.2 := by
  unfold newFinalizedBlock at succeeded ⊢
  split_ifs at succeeded ⊢
  obtain ⟨processed, -⟩ := andThen_outcome succeeded
  obtain ⟨out, completes, inMachines, dispatched⟩ := kind.settles unique member processed
  rw [andThen_of_ok processed]
  refine ⟨out, completes, kind.transfer inMachines rfl rfl, ?_⟩
  rw [append_nil]
  exact dispatched

/-- In the event of a finalized block each machine settles. -/
theorem Kind.settles_event (unique : self.Unique) (member : machine ∈ kind.machines self)
    (succeeded : (self.handleEvent library env faults rows
      (.newFinalizedBlock (chain height) height)).outcome = .ok ()) :
    ∃ out next, Completes (kind.process (blockContext library env chain height)) maxIterations
        machine out ∧ kind.form next = kind.form out.1 ∧
      next ∈ kind.machines (self.handleEvent library env faults rows
        (.newFinalizedBlock (chain height) height)).manager ∧
      dutiesOf (kind.name machine) (self.handleEvent library env faults rows
        (.newFinalizedBlock (chain height) height)).log = out.2 := by
  rw [handleEvent] at succeeded ⊢
  obtain ⟨first, second⟩ := andThen_outcome succeeded
  rw [andThen_of_ok first]
  obtain ⟨out, completes, inMachines, dispatched⟩ := kind.settles_block unique member first
  obtain ⟨saved, silent⟩ := kind.saveAfterEvent_ok second
  obtain ⟨next, inSaved, same⟩ := mem_map.mp (saved ▸ mem_map_of_mem inMachines)
  refine ⟨out, next, completes, same, inSaved, ?_⟩
  rw [silent, append_nil]
  exact dispatched

/-- The events of finalized blocks. -/
def blockCalls (env : StateEnvironment) (faults : Faults) (chain : UInt32 → Block)
    (heights : List UInt32) : List EventCall :=
  heights.map fun height => ⟨env, faults, .newFinalizedBlock (chain height) height⟩

/-- A machine follows the blocks that are processed. -/
theorem Kind.follows_blocks {heights : List UInt32} (unique : self.Unique)
    (member : machine ∈ kind.machines self)
    (succeeded : (handleAll library (blockCalls env faults chain heights) self rows).outcome =
      .ok ()) :
    ∃ duties final, kind.Follows env chain heights machine duties final ∧ final ∈ kind.machines
        (handleAll library (blockCalls env faults chain heights) self rows).manager ∧
      dutiesOf (kind.name machine)
        (handleAll library (blockCalls env faults chain heights) self rows).log = duties := by
  induction heights generalizing self rows machine with
  | nil => exact ⟨[], machine, .nil rfl, member, rfl⟩
  | cons height rest ih =>
    rw [blockCalls, map_cons, handleAll] at succeeded ⊢
    obtain ⟨first, second⟩ := andThen_outcome succeeded
    rw [andThen_of_ok first]
    obtain ⟨out, next, completes, same, inMachines, dispatched⟩ :=
      kind.settles_event unique member first
    obtain ⟨duties, final, path, inFinal, later⟩ :=
      ih (handleEvent_unique unique) inMachines second
    refine ⟨out.2 ++ duties, final,
      .cons completes (path.congr (kind.isAlike env chain) same.symm), inFinal, ?_⟩
    rw [dutiesOf_append, dispatched, ← kind.name_completes completes, ← kind.formNamed same]
    exact congrArg (out.2 ++ ·) later

/-- A new machine follows the blocks that were processed before. -/
theorem Kind.follows_added {startHeight : UInt32} (stored : env.Stores chain)
    (unique : StateManager.Unique { self with
      roundMachines := newRoundMachines, kickoffMachines := newKickoffMachines })
    (member : machine ∈ kind.machines { self with
      roundMachines := newRoundMachines, kickoffMachines := newKickoffMachines })
    (succeeded : (self.processAndAddNewStatesFromHeight library env rows newRoundMachines
      newKickoffMachines startHeight).outcome = .ok ()) :
    ∃ duties final,
      kind.Follows env chain (heights startHeight self.nextHeightToProcess) machine duties final ∧
        final ∈ kind.machines (self.processAndAddNewStatesFromHeight library env rows
          newRoundMachines newKickoffMachines startHeight).manager ∧
        dutiesOf (kind.name machine) (self.processAndAddNewStatesFromHeight library env rows
          newRoundMachines newKickoffMachines startHeight).log = duties := by
  unfold processAndAddNewStatesFromHeight at succeeded ⊢
  dsimp only at succeeded ⊢
  split at succeeded
  · cases succeeded
  · next caught =>
      obtain ⟨duties, final, path, inCaught, dispatched⟩ :=
        kind.follows_catchUp stored unique member caught
      exact ⟨duties, final, path, kind.adds inCaught, dispatched⟩

theorem dutiesOf_initLog {name : MachineId} : dutiesOf name (initLog name context) =
    context.duties := by
  rw [dutiesOf, initLog, filterMap_map]
  simp

/-- The heights up to a middle one, and from there on. -/
theorem heights_append {start middle finish : UInt32} (first : start ≤ middle)
    (second : middle ≤ finish) :
    heights start middle ++ heights middle finish = heights start finish := by
  rw [UInt32.le_iff_toNat_le] at first second
  have range := @range'_append start.toNat (middle.toNat - start.toNat)
    (finish.toNat - middle.toNat) 1
  rw [Nat.one_mul, Nat.add_sub_cancel' first] at range
  rw [heights, heights, heights, ← map_append, range]
  congr 2
  omega

end Follow

/-! ## Joining -/

section Join

/-- The context in which a machine of a height is initialised. -/
def joinContext (library : BuilderLibrary) (env : StateEnvironment) (chain : UInt32 → Block)
    (startHeight : UInt32) : StateContext :=
  blockContext library env chain (if startHeight = 0 then 0 else startHeight - 1)

theorem initContext_of_stored (stored : env.Stores chain) (startHeight : UInt32) :
    initContext library env startHeight = .ok (joinContext library env chain startHeight) := by
  unfold initContext
  dsimp only
  rw [stored]
  rfl

/-- A new round machine. -/
def joiningRound (library : BuilderLibrary) (env : StateEnvironment) (chain : UInt32 → Block)
    (operatorData : OperatorData) : RoundStateMachine × StateContext :=
  (RoundStateMachine.new operatorData).initWithContext library
    (joinContext library env chain env.config.protocolParamset.startHeight)

/-- A new kickoff machine. -/
def joiningKickoff (library : BuilderLibrary) (env : StateEnvironment) (chain : UInt32 → Block)
    (identity : KickoffStateMachine.Identity) : KickoffStateMachine × StateContext :=
  identity.machine.initWithContext library (joinContext library env chain identity.kickoffHeight)

variable {operatorData : OperatorData}

theorem machineId_joiningRound :
    (joiningRound library env chain operatorData).1.machineId = .round operatorData.xonlyPk := by
  rw [joiningRound, RoundStateMachine.machineId, RoundStateMachine.operatorData_initWithContext]
  rfl

variable {identity : KickoffStateMachine.Identity}

theorem machineId_joiningKickoff :
    (joiningKickoff library env chain identity).1.machineId = .kickoff identity.kickoffData := by
  have same := congrArg KickoffStateMachine.Identity.kickoffData
    (@identity_initWithContext library identity.machine
      (joinContext library env chain identity.kickoffHeight))
  exact congrArg MachineId.kickoff same

theorem unique_round {machine : RoundStateMachine} :
    StateManager.Unique { self with roundMachines := [machine], kickoffMachines := [] } :=
  ⟨nodup_singleton _, .nil⟩

theorem unique_kickoff {machine : KickoffStateMachine} :
    StateManager.Unique { self with roundMachines := [], kickoffMachines := [machine] } :=
  ⟨.nil, nodup_singleton _⟩

/-- The machine of a new operator follows the blocks from the start height on. -/
theorem follows_newOperator (stored : env.Stores chain)
    (succeeded : (self.newOperator library env rows operatorData).outcome = .ok ()) :
    ∃ duties final, (roundKind library).Follows env chain
        (heights env.config.protocolParamset.startHeight self.nextHeightToProcess)
        (joiningRound library env chain operatorData).1 duties final ∧
      final ∈ (self.newOperator library env rows operatorData).manager.roundMachines ∧
      dutiesOf (.round operatorData.xonlyPk) (self.newOperator library env rows operatorData).log =
          (joiningRound library env chain operatorData).2.duties ++ duties := by
  unfold newOperator at succeeded ⊢
  rw [initContext_of_stored stored] at succeeded ⊢
  dsimp only at succeeded ⊢
  split_ifs at succeeded ⊢
  obtain ⟨duties, final, path, inFinal, dispatched⟩ :=
    (roundKind library).follows_added stored unique_round mem_cons_self succeeded
  refine ⟨duties, final, path, inFinal, ?_⟩
  rw [dutiesOf_append, ← machineId_joiningRound]
  exact congrArg₂ (· ++ ·) dutiesOf_initLog dispatched

/-- A check of a kickoff leaves the kickoff machines as they are, and no machine dispatches it. -/
theorem checkNewKickoff_kickoffs {kickoffData : KickoffData} {kickoffHeight : UInt32}
    {depositData : DepositData} {payoutBlockhash : Witness} :
    (self.checkNewKickoff library context kickoffData kickoffHeight depositData payoutBlockhash
        rows).manager.kickoffMachines = self.kickoffMachines ∧
      ∀ name, dutiesOf name (self.checkNewKickoff library context kickoffData kickoffHeight
        depositData payoutBlockhash rows).log = [] := by
  unfold checkNewKickoff checkIfKickoffMalicious
  split
  · exact ⟨rfl, fun _ => rfl⟩
  · split_ifs
    · split
      · exact ⟨rfl, fun _ => rfl⟩
      · dsimp only
        split
        · exact ⟨rfl, fun _ => rfl⟩
        · exact ⟨kickoffMachines_setChallenged, fun _ => rfl⟩
        · exact ⟨rfl, fun _ => rfl⟩
    · exact ⟨rfl, fun _ => rfl⟩

/-- `NewKickoff` for a kickoff with all its data. -/
abbrev joinKickoff (library : BuilderLibrary) (self : StateManager) (env : StateEnvironment)
    (rows : StateRows) (identity : KickoffStateMachine.Identity) : Handling :=
  self.newKickoff library env rows identity.kickoffData identity.kickoffHeight
    identity.depositData identity.payoutBlockhash

/-- The machine of a new kickoff follows the blocks from its height on. -/
theorem follows_newKickoff (stored : env.Stores chain)
    (succeeded : (self.joinKickoff library env rows identity).outcome = .ok ()) :
    ∃ duties final, (kickoffKind library).Follows env chain
        (heights identity.kickoffHeight self.nextHeightToProcess)
        (joiningKickoff library env chain identity).1 duties final ∧
      final ∈ (self.joinKickoff library env rows identity).manager.kickoffMachines ∧
      dutiesOf (.kickoff identity.kickoffData) (self.joinKickoff library env rows identity).log =
          (joiningKickoff library env chain identity).2.duties ++ duties := by
  unfold joinKickoff newKickoff at succeeded ⊢
  rw [initContext_of_stored stored] at succeeded ⊢
  dsimp only at succeeded ⊢
  split_ifs at succeeded ⊢
  obtain ⟨first, second⟩ := andThen_outcome succeeded
  obtain ⟨duties, final, path, inFinal, dispatched⟩ :=
    (kickoffKind library).follows_added stored unique_kickoff mem_cons_self first
  rw [andThen_of_ok first]
  obtain ⟨kickoffs, silent⟩ := checkNewKickoff_kickoffs
  refine ⟨duties, final, path, ?_, ?_⟩
  · rw [kickoffs]
    exact inFinal
  · rw [dutiesOf_append, silent, append_nil, dutiesOf_append, ← machineId_joiningKickoff]
    exact congrArg₂ (· ++ ·) dutiesOf_initLog dispatched

/-- An event and the blocks from the next height of the manager up to another one. -/
def joinRun (library : BuilderLibrary) (env : StateEnvironment) (faults : Faults)
    (chain : UInt32 → Block) (event : SystemEvent) (finish : UInt32) (manager : StateManager)
    (rows : StateRows) : Handling :=
  handleAll library (⟨env, faults, event⟩ :: blockCalls env faults chain
      (heights manager.nextHeightToProcess finish)) manager rows

theorem handleAll_unique {calls : List EventCall} (unique : self.Unique) :
    (handleAll library calls self rows).manager.Unique := by
  induction calls generalizing self rows with
  | nil => exact unique
  | cons call rest ih =>
    rw [handleAll]
    exact andThen_manager Unique (handleEvent_unique unique) fun _ =>
      ih (handleEvent_unique unique)

section Same

/-- A run in which a machine joined and followed all blocks of a chain. -/
structure Kind.Joined (kind : Kind library μ) (env : StateEnvironment) (chain : UInt32 → Block)
    (heights : List UInt32) (initial : μ × StateContext) (handling : Handling) : Prop where
  unique : handling.manager.Unique
  follows : ∃ duties, ∃ final ∈ kind.machines handling.manager,
    kind.Follows env chain heights initial.1 duties final ∧
      dutiesOf (kind.name initial.1) handling.log = initial.2.duties ++ duties

/-- Two runs leave the same machine of a name, apart from the flag, with the same duties. -/
structure Kind.Same (kind : Kind library μ) (name : MachineId) (first second : Handling) :
    Prop where
  present : ∃ machine ∈ kind.machines first.manager, kind.name machine = name
  same : ∀ machine ∈ kind.machines first.manager, ∀ other ∈ kind.machines second.manager,
    kind.name machine = name → kind.name other = name → kind.form other = kind.form machine
  duties : dutiesOf name second.log = dutiesOf name first.log

theorem Kind.name_follows {heights : List UInt32} {machine final : μ}
    (path : kind.Follows env chain heights machine duties final) :
    kind.name final = kind.name machine := by
  induction path with
  | nil same => exact kind.formNamed same
  | cons completes _ ih => exact ih.trans (kind.name_completes completes)

/-- Machines that follow the same blocks are the same. -/
theorem Kind.Joined.same {heights : List UInt32} {initial : μ × StateContext}
    {first second : Handling} (left : kind.Joined env chain heights initial first)
    (right : kind.Joined env chain heights initial second) :
    kind.Same (kind.name initial.1) first second := by
  obtain ⟨duties, final, inFirst, path, dispatched⟩ := left.follows
  obtain ⟨duties', final', inSecond, path', dispatched'⟩ := right.follows
  obtain ⟨sameDuties, sameForm⟩ := path.unique (kind.isAlike env chain) path' rfl
  refine ⟨⟨final, inFirst, kind.name_follows path⟩, ?_, ?_⟩
  · intro machine member other member' name name'
    have equal := inj_on_of_nodup_map (kind.distinct left.unique) inFirst member
      ((kind.name_follows path).trans name.symm)
    have equal' := inj_on_of_nodup_map (kind.distinct right.unique) inSecond member'
      ((kind.name_follows path').trans name'.symm)
    rw [← equal, ← equal']
    exact sameForm
  · rw [dispatched, dispatched', sameDuties]

/-- A machine that joined in an event, after which it was saved, follows the later blocks as
well. -/
theorem Kind.joined_of_event {event : SystemEvent} {startHeight finish : UInt32}
    {initial : μ × StateContext} {added : Handling} (unique : self.Unique)
    (after : startHeight ≤ self.nextHeightToProcess) (before : self.nextHeightToProcess ≤ finish)
    (saves : self.handleEvent library env faults rows event = added.andThen fun manager rows =>
      manager.saveAfterEvent library env faults rows)
    (joins : added.outcome = .ok () → ∃ duties final,
      kind.Follows env chain (heights startHeight self.nextHeightToProcess) initial.1 duties final ∧
        final ∈ kind.machines added.manager ∧
        dutiesOf (kind.name initial.1) added.log = initial.2.duties ++ duties)
    (succeeded : (joinRun library env faults chain event finish self rows).outcome = .ok ()) :
    kind.Joined env chain (heights startHeight finish) initial
      (joinRun library env faults chain event finish self rows) := by
  refine ⟨handleAll_unique unique, ?_⟩
  unfold joinRun at succeeded ⊢
  rw [handleAll] at succeeded ⊢
  obtain ⟨handled, blocks⟩ := andThen_outcome succeeded
  have uniqueNext : (self.handleEvent library env faults rows event).manager.Unique :=
    handleEvent_unique unique
  rw [saves] at handled blocks uniqueNext ⊢
  obtain ⟨first, second⟩ := andThen_outcome handled
  obtain ⟨duties, final, path, inFinal, dispatched⟩ := joins first
  obtain ⟨saved, silent⟩ := kind.saveAfterEvent_ok second
  obtain ⟨next, inNext, same⟩ := mem_map.mp (saved ▸ mem_map_of_mem inFinal)
  rw [andThen_of_ok handled]
  rw [andThen_of_ok first] at blocks uniqueNext ⊢
  obtain ⟨later, last, path', inLast, dispatched'⟩ := kind.follows_blocks uniqueNext inNext blocks
  refine ⟨duties ++ later, last, inLast, ?_, ?_⟩
  · rw [← heights_append after before]
    exact path.append (kind.isAlike env chain) (path'.congr (kind.isAlike env chain) same.symm)
  · have name : kind.name next = kind.name initial.1 :=
      (kind.formNamed same).trans (kind.name_follows path)
    rw [silent, append_nil, dutiesOf_append, dispatched, ← name, dispatched', append_assoc]

end Same

/-- A new operator gets a machine, which is saved. -/
theorem handleEvent_newOperator (absent : operatorData.xonlyPk ∉ self.roundKeys) :
    self.handleEvent library env faults rows (.newOperator operatorData) =
      (self.newOperator library env rows operatorData).andThen fun manager rows =>
        manager.saveAfterEvent library env faults rows := by
  refine if_neg ?_
  simpa [roundKeys] using absent

/-- A relevant new kickoff gets a machine, which is saved. -/
theorem handleEvent_newKickoff (creates : createsMachine env self identity.kickoffData = true) :
    self.handleEvent library env faults rows identity.event =
      (self.joinKickoff library env rows identity).andThen fun manager rows =>
          manager.saveAfterEvent library env faults rows := by
  simp only [createsMachine, Bool.and_eq_true, Option.isNone_iff_eq_none] at creates
  rw [handleEvent, if_neg (by simp [creates.1]), creates.2]

/-- The run of a new operator. -/
theorem joined_round {finish : UInt32} (stored : env.Stores chain) (unique : self.Unique)
    (absent : operatorData.xonlyPk ∉ self.roundKeys)
    (after : env.config.protocolParamset.startHeight ≤ self.nextHeightToProcess)
    (before : self.nextHeightToProcess ≤ finish)
    (succeeded : (joinRun library env faults chain (.newOperator operatorData) finish self
      rows).outcome = .ok ()) :
    (roundKind library).Joined env chain (heights env.config.protocolParamset.startHeight finish)
      (joiningRound library env chain operatorData)
      (joinRun library env faults chain (.newOperator operatorData) finish self rows) := by
  refine (roundKind library).joined_of_event unique after before
    (handleEvent_newOperator absent) (fun joined => ?_) succeeded
  have name : (roundKind library).name (joiningRound library env chain operatorData).1 =
    .round operatorData.xonlyPk := machineId_joiningRound
  rw [name]
  exact follows_newOperator stored joined

/-- The run of a new kickoff. -/
theorem joined_kickoff {finish : UInt32} (stored : env.Stores chain) (unique : self.Unique)
    (creates : createsMachine env self identity.kickoffData = true)
    (after : identity.kickoffHeight ≤ self.nextHeightToProcess)
    (before : self.nextHeightToProcess ≤ finish)
    (succeeded : (joinRun library env faults chain identity.event finish self rows).outcome =
      .ok ()) :
    (kickoffKind library).Joined env chain (heights identity.kickoffHeight finish)
      (joiningKickoff library env chain identity)
      (joinRun library env faults chain identity.event finish self rows) := by
  refine (kickoffKind library).joined_of_event unique after before
    (handleEvent_newKickoff creates) (fun joined => ?_) succeeded
  have name : (kickoffKind library).name (joiningKickoff library env chain identity).1 =
    .kickoff identity.kickoffData := machineId_joiningKickoff
  rw [name]
  exact follows_newKickoff stored joined

/-! ## The other machines -/

/-- Catching up adds the new machines and leaves the others as they are; if it fails, the manager
stays as it was. -/
theorem processAndAdd_others {startHeight : UInt32} :
    ((self.processAndAddNewStatesFromHeight library env rows newRoundMachines newKickoffMachines
        startHeight).outcome = .ok () →
      ∃ rounds kickoffs, rounds.length = newRoundMachines.length ∧
        kickoffs.length = newKickoffMachines.length ∧
        (self.processAndAddNewStatesFromHeight library env rows newRoundMachines
          newKickoffMachines startHeight).manager = { self with
              roundMachines := self.roundMachines ++ rounds
              kickoffMachines := self.kickoffMachines ++ kickoffs }) ∧
      ∀ error, (self.processAndAddNewStatesFromHeight library env rows newRoundMachines
          newKickoffMachines startHeight).outcome = .error error →
        (self.processAndAddNewStatesFromHeight library env rows newRoundMachines
          newKickoffMachines startHeight).manager = self := by
  unfold processAndAddNewStatesFromHeight
  dsimp only
  split
  · exact ⟨nofun, fun _ _ => rfl⟩
  · next caught =>
      refine ⟨fun _ => ?_, nofun⟩
      have keys := catchUp_sameKeys caught
      refine ⟨_, _, ?_, ?_, rfl⟩
      · simpa [roundKeys] using keys.rounds.length_eq
      · simpa [kickoffKeys] using keys.kickoffs.length_eq

/-- A new operator adds a round machine and changes no other machine. -/
theorem newOperator_others
    (succeeded : (self.newOperator library env rows operatorData).outcome = .ok ()) :
    ∃ machine, (self.newOperator library env rows operatorData).manager.roundMachines =
        self.roundMachines ++ [machine] ∧
      (self.newOperator library env rows operatorData).manager.kickoffMachines =
        self.kickoffMachines := by
  unfold newOperator at succeeded ⊢
  split at succeeded
  · cases succeeded
  · dsimp only at succeeded ⊢
    split_ifs at succeeded ⊢
    obtain ⟨rounds, kickoffs, oneRound, noKickoff, manager⟩ := processAndAdd_others.1 succeeded
    obtain ⟨machine, rfl⟩ := length_eq_one_iff.mp oneRound
    cases eq_nil_of_length_eq_zero noKickoff
    rw [manager]
    exact ⟨machine, rfl, append_nil _⟩

/-- A new operator that cannot be added changes no machine. -/
theorem newOperator_error {error : ManagerError}
    (failed : (self.newOperator library env rows operatorData).outcome = .error error) :
    (self.newOperator library env rows operatorData).manager = self := by
  unfold newOperator at failed ⊢
  split at failed
  · rfl
  · dsimp only at failed ⊢
    split_ifs at failed ⊢
    · rfl
    · exact processAndAdd_others.2 error failed

theorem checkNewKickoff_rounds {kickoffData : KickoffData} {kickoffHeight : UInt32}
    {depositData : DepositData} {payoutBlockhash : Witness}
    {kickoffs : List KickoffStateMachine} :
    (checkNewKickoff library { self with kickoffMachines := kickoffs } context kickoffData
        kickoffHeight depositData payoutBlockhash rows).manager.roundMachines =
      (self.checkNewKickoff library context kickoffData kickoffHeight depositData payoutBlockhash
        rows).manager.roundMachines := by
  unfold checkNewKickoff checkIfKickoffMalicious
  dsimp only
  split
  · rfl
  · split_ifs
    · split
      · rfl
      · split
        · rfl
        · unfold setChallenged
          split_ifs <;> rfl
        · rfl
    · rfl

/-- A new kickoff adds a kickoff machine and changes no other one; the round machines are as after
the check for malice alone. -/
theorem newKickoff_others (stored : env.Stores chain)
    (succeeded : (self.joinKickoff library env rows identity).outcome = .ok ()) :
    (∃ machine, (self.joinKickoff library env rows identity).manager.kickoffMachines =
        self.kickoffMachines ++ [machine]) ∧
      (self.joinKickoff library env rows identity).manager.roundMachines =
        (self.checkNewKickoff library (joinContext library env chain identity.kickoffHeight)
            identity.kickoffData identity.kickoffHeight identity.depositData
            identity.payoutBlockhash rows).manager.roundMachines := by
  unfold joinKickoff newKickoff at succeeded ⊢
  rw [initContext_of_stored stored] at succeeded ⊢
  dsimp only at succeeded ⊢
  split_ifs at succeeded ⊢
  obtain ⟨first, -⟩ := andThen_outcome succeeded
  obtain ⟨rounds, kickoffs, noRound, oneKickoff, manager⟩ := processAndAdd_others.1 first
  obtain ⟨machine, rfl⟩ := length_eq_one_iff.mp oneKickoff
  cases eq_nil_of_length_eq_zero noRound
  have unchanged : (self.processAndAddNewStatesFromHeight library env rows []
      [(identity.machine.initWithContext library
          (joinContext library env chain identity.kickoffHeight)).1]
      identity.kickoffHeight).manager =
      { self with kickoffMachines := self.kickoffMachines ++ [machine] } := by
    rw [manager, append_nil]
  rw [andThen_of_ok first]
  dsimp only
  rw [unchanged, processAndAdd_rows, checkNewKickoff_kickoffs.1]
  exact ⟨⟨machine, rfl⟩, checkNewKickoff_rounds⟩

/-- A kickoff that cannot catch up changes no machine. -/
theorem newKickoff_error {error : ManagerError} (stored : env.Stores chain)
    (failed : (self.processAndAddNewStatesFromHeight library env rows []
      [(joiningKickoff library env chain identity).1] identity.kickoffHeight).outcome =
        .error error) :
    (self.joinKickoff library env rows identity).manager = self ∧
      (self.joinKickoff library env rows identity).outcome ≠ .ok () := by
  unfold joinKickoff newKickoff
  rw [initContext_of_stored stored]
  dsimp only
  split_ifs
  · exact ⟨rfl, nofun⟩
  · rw [joiningKickoff] at failed
    unfold Handling.andThen
    rw [failed]
    exact ⟨processAndAdd_others.2 error failed, nofun⟩

/-- What late joining leaves invisible. -/
structure LateJoining (library : BuilderLibrary) (env : StateEnvironment)
    (chain : UInt32 → Block) : Prop where
  /-- The machine of an operator and its duties do not depend on the height at which it joins. -/
  rounds : ∀ operatorData finish faults rows faults' rows' (first second : StateManager),
    first.Unique → second.Unique →
    operatorData.xonlyPk ∉ first.roundKeys → operatorData.xonlyPk ∉ second.roundKeys →
    env.config.protocolParamset.startHeight ≤ first.nextHeightToProcess →
    env.config.protocolParamset.startHeight ≤ second.nextHeightToProcess →
    first.nextHeightToProcess ≤ finish → second.nextHeightToProcess ≤ finish →
    (joinRun library env faults chain (.newOperator operatorData) finish first rows).outcome =
      .ok () →
    (joinRun library env faults' chain (.newOperator operatorData) finish second rows').outcome =
      .ok () →
    (roundKind library).Same (.round operatorData.xonlyPk)
      (joinRun library env faults chain (.newOperator operatorData) finish first rows)
      (joinRun library env faults' chain (.newOperator operatorData) finish second rows')
  /-- The machine of a kickoff and its duties do not depend on the height at which it joins. -/
  kickoffs : ∀ (identity : KickoffStateMachine.Identity) finish faults rows faults' rows'
      (first second : StateManager), first.Unique → second.Unique →
    createsMachine env first identity.kickoffData = true →
    createsMachine env second identity.kickoffData = true →
    identity.kickoffHeight ≤ first.nextHeightToProcess →
    identity.kickoffHeight ≤ second.nextHeightToProcess →
    first.nextHeightToProcess ≤ finish → second.nextHeightToProcess ≤ finish →
    (joinRun library env faults chain identity.event finish first rows).outcome = .ok () →
    (joinRun library env faults' chain identity.event finish second rows').outcome = .ok () →
    (kickoffKind library).Same (.kickoff identity.kickoffData)
      (joinRun library env faults chain identity.event finish first rows)
      (joinRun library env faults' chain identity.event finish second rows')
  /-- A new operator changes no other machine. -/
  besideRound : ∀ operatorData faults rows (manager : StateManager),
    operatorData.xonlyPk ∉ manager.roundKeys →
    (manager.handleEvent library env faults rows (.newOperator operatorData)).outcome = .ok () →
    (∃ machine, (manager.handleEvent library env faults rows
      (.newOperator operatorData)).manager.roundMachines.map RoundStateMachine.saved =
        manager.roundMachines.map RoundStateMachine.saved ++ [machine]) ∧
      (manager.handleEvent library env faults rows
        (.newOperator operatorData)).manager.kickoffMachines.map saved =
          manager.kickoffMachines.map saved
  /-- A new kickoff changes no other kickoff machine, and the round machines only by the check for
  malice that may be due, which needs a processed light client proof. -/
  besideKickoff : ∀ (identity : KickoffStateMachine.Identity) faults rows
      (manager : StateManager), createsMachine env manager identity.kickoffData = true →
    (manager.handleEvent library env faults rows identity.event).outcome = .ok () →
    (∃ machine, (manager.handleEvent library env faults rows
      identity.event).manager.kickoffMachines.map saved =
        manager.kickoffMachines.map saved ++ [machine]) ∧
      (manager.handleEvent library env faults rows identity.event).manager.roundMachines.map
        RoundStateMachine.saved =
          (manager.checkNewKickoff library (joinContext library env chain identity.kickoffHeight)
            identity.kickoffData identity.kickoffHeight identity.depositData
            identity.payoutBlockhash rows).manager.roundMachines.map RoundStateMachine.saved ∧
      (manager.lastProcessedLcp = none →
        (manager.handleEvent library env faults rows identity.event).manager.roundMachines.map
          RoundStateMachine.saved = manager.roundMachines.map RoundStateMachine.saved)
  /-- If an operator's machine cannot catch up, the manager stays as it was. -/
  failedRound : ∀ operatorData faults rows (manager : StateManager) error,
    operatorData.xonlyPk ∉ manager.roundKeys →
    (manager.newOperator library env rows operatorData).outcome = .error error →
    (manager.handleEvent library env faults rows (.newOperator operatorData)).manager = manager
  /-- If a kickoff's machine cannot catch up, the manager stays as it was. -/
  failedKickoff : ∀ (identity : KickoffStateMachine.Identity) faults rows
      (manager : StateManager) error, createsMachine env manager identity.kickoffData = true →
    (manager.processAndAddNewStatesFromHeight library env rows []
      [(joiningKickoff library env chain identity).1] identity.kickoffHeight).outcome =
        .error error →
    (manager.handleEvent library env faults rows identity.event).manager = manager

/-- If the stored blocks are the processed ones, late joining is invisible. -/
theorem late_joining_invisible (stored : env.Stores chain) : LateJoining library env chain where
  rounds _ _ _ _ _ _ _ _ unique unique' absent absent' after after' before before' ok ok' :=
    machineId_joiningRound ▸ (joined_round stored unique absent after before ok).same
      (joined_round stored unique' absent' after' before' ok')
  kickoffs _ _ _ _ _ _ _ _ unique unique' creates creates' after after' before before' ok ok' :=
    machineId_joiningKickoff ▸ (joined_kickoff stored unique creates after before ok).same
      (joined_kickoff stored unique' creates' after' before' ok')
  besideRound operatorData faults rows manager absent succeeded := by
    rw [handleEvent_newOperator absent] at succeeded ⊢
    obtain ⟨first, second⟩ := andThen_outcome succeeded
    obtain ⟨machine, rounds, kickoffs⟩ := newOperator_others first
    rw [andThen_of_ok first]
    dsimp only
    have sameRounds := ((roundKind library).saveAfterEvent_ok second).1
    have sameKickoffs := ((kickoffKind library).saveAfterEvent_ok second).1
    dsimp only [roundKind, kickoffKind] at sameRounds sameKickoffs
    rw [sameRounds, sameKickoffs, rounds, kickoffs, map_append]
    exact ⟨⟨_, rfl⟩, rfl⟩
  besideKickoff identity faults rows manager creates succeeded := by
    rw [handleEvent_newKickoff creates] at succeeded ⊢
    obtain ⟨first, second⟩ := andThen_outcome succeeded
    obtain ⟨⟨machine, kickoffs⟩, rounds⟩ := newKickoff_others stored first
    rw [andThen_of_ok first]
    dsimp only
    have sameRounds := ((roundKind library).saveAfterEvent_ok second).1
    have sameKickoffs := ((kickoffKind library).saveAfterEvent_ok second).1
    dsimp only [roundKind, kickoffKind] at sameRounds sameKickoffs
    rw [sameRounds, sameKickoffs, rounds, kickoffs, map_append]
    refine ⟨⟨_, rfl⟩, rfl, fun unprocessed => ?_⟩
    rw [checkNewKickoff, unprocessed]
  failedRound operatorData faults rows manager error absent failed := by
    rw [handleEvent_newOperator absent, Handling.andThen, failed]
    exact newOperator_error failed
  failedKickoff identity faults rows manager error creates failed := by
    rw [handleEvent_newKickoff creates]
    obtain ⟨unchanged, failed'⟩ := newKickoff_error stored failed
    exact andThen_manager (· = manager) unchanged fun succeeded => absurd succeeded failed'

/-- A manager that processed blocks before its first operator. -/
def Regtest.lateManager : Handling :=
  handleAll Regtest.library
    (blockCalls (Regtest.environmentOf Regtest.chain) {} Regtest.chain (heights 190 192))
    Regtest.task.inner Regtest.task.rows

theorem late_joining_invisible_first_operator :
    (roundKind Regtest.library).Same (.round Regtest.operatorXonlyPk)
      (joinRun Regtest.library (Regtest.environmentOf Regtest.chain) {} Regtest.chain
        (.newOperator Regtest.operatorData) 193 Regtest.task.inner Regtest.task.rows)
      (joinRun Regtest.library (Regtest.environmentOf Regtest.chain) {} Regtest.chain
        (.newOperator Regtest.operatorData) 193 Regtest.lateManager.manager
        Regtest.lateManager.rows) := by
  have started : Regtest.task.inner.Unique :=
    unique_of_empty (by decide +kernel) (by decide +kernel)
  have invisible : LateJoining Regtest.library (Regtest.environmentOf Regtest.chain)
      Regtest.chain := late_joining_invisible fun _ => rfl
  refine invisible.rounds Regtest.operatorData 193 {} _ {} _ _ _ started
    (handleAll_unique started) ?_ ?_ ?_ ?_ ?_ ?_ ?_ ?_
  all_goals decide +kernel

/-- Machines do not interfere: a machine that two managers hold settles in the same way in the
same blocks and dispatches the same duties, whatever other machines there are. -/
theorem machines_do_not_interfere {kind : Kind library μ} {first second : StateManager}
    {rows' : StateRows} {faults' : Faults} {heights : List UInt32} {machine other : μ}
    (unique : first.Unique) (unique' : second.Unique) (member : machine ∈ kind.machines first)
    (member' : other ∈ kind.machines second) (same : kind.form other = kind.form machine)
    (ok : (handleAll library (blockCalls env faults chain heights) first rows).outcome = .ok ())
    (ok' : (handleAll library (blockCalls env faults' chain heights) second rows').outcome =
      .ok ()) :
    kind.Same (kind.name machine)
      (handleAll library (blockCalls env faults chain heights) first rows)
      (handleAll library (blockCalls env faults' chain heights) second rows') := by
  obtain ⟨duties, final, path, inFinal, dispatched⟩ := kind.follows_blocks unique member ok
  obtain ⟨duties', final', path', inFinal', dispatched'⟩ :=
    kind.follows_blocks unique' member' ok'
  rw [kind.formNamed same] at dispatched'
  have left : kind.Joined env chain heights
      (machine, env.newContext (.fromBlock library (chain 0) 0)) _ :=
    ⟨handleAll_unique unique, duties, final, inFinal, path, dispatched⟩
  exact left.same ⟨handleAll_unique unique', duties', final', inFinal',
    path'.congr (kind.isAlike env chain) same.symm, dispatched'⟩

/-- The manager after an operator with a key was added. -/
def joinedBy (xonlyPk : XOnlyPublicKey) : Handling :=
  Regtest.task.inner.handleEvent Regtest.library (Regtest.environmentOf Regtest.chain) {}
    Regtest.task.rows (.newOperator { Regtest.operatorData with xonlyPk })

/-- The manager with the machines of two operators. -/
def joinedByTwo : StateManager :=
  { (joinedBy zeroBytes).manager with
    roundMachines := (joinedBy zeroBytes).manager.roundMachines ++
      (joinedBy Regtest.operatorXonlyPk).manager.roundMachines }

/-- The machine of an operator settles in the same way alone and beside that of another one. -/
theorem machines_do_not_interfere_operators :
    let blocks := blockCalls (Regtest.environmentOf Regtest.chain) {} Regtest.chain [190, 191, 192]
    let alone := joinedBy Regtest.operatorXonlyPk
    alone.manager.roundMachines.length = 1 ∧ joinedByTwo.roundMachines.length = 2 ∧
      ∀ machine ∈ alone.manager.roundMachines, (roundKind Regtest.library).Same machine.machineId
        (handleAll Regtest.library blocks alone.manager alone.rows)
        (handleAll Regtest.library blocks joinedByTwo alone.rows) := by
  have started : Regtest.task.inner.Unique :=
    unique_of_empty (by decide +kernel) (by decide +kernel)
  refine ⟨by decide +kernel, by decide +kernel, fun machine member => ?_⟩
  exact machines_do_not_interfere (handleEvent_unique started)
    ⟨by decide +kernel, by decide +kernel⟩ member (mem_append_right _ member) rfl
    (by decide +kernel) (by decide +kernel)

end Join

end StateManager

end Clementine
