import Clementine.Core.States.BlockProcessing

/-!
# Recovery from errors

A failed call of the task leaves its machines as they were at the point of failure, and the
recovery pushes the machines of the database to them.  If no machine was left, as after a failure
in the middle of a block, the manager then holds exactly one machine for each row.  If machines
were left, each of those that have a row is held twice.
-/

namespace Clementine

open KickoffStateMachine RoundStateMachine List

variable {env : StateEnvironment} {faults : Faults}

namespace StateManager

variable {library : BuilderLibrary} {self : StateManager} {rows : StateRows}

/-! ## The keys of the machines -/

/-- The operators of the round machines. -/
def roundKeys (self : StateManager) : List XOnlyPublicKey :=
  self.roundMachines.map fun machine => machine.operatorData.xonlyPk

/-- The kickoffs of the kickoff machines. -/
def kickoffKeys (self : StateManager) : List KickoffData :=
  self.kickoffMachines.map kickoffData

/-- There is at most one machine for each operator and for each kickoff. -/
structure Unique (manager : StateManager) : Prop where
  rounds : manager.roundKeys.Nodup
  kickoffs : manager.kickoffKeys.Nodup

/-- Two managers have machines for the same operators and kickoffs. -/
structure SameKeys (first second : StateManager) : Prop where
  rounds : first.roundKeys.Perm second.roundKeys
  kickoffs : first.kickoffKeys.Perm second.kickoffKeys

theorem SameKeys.refl (self : StateManager) : SameKeys self self := ⟨.refl _, .refl _⟩

theorem SameKeys.trans {first second third : StateManager} (left : SameKeys first second)
    (right : SameKeys second third) : SameKeys first third :=
  ⟨left.rounds.trans right.rounds, left.kickoffs.trans right.kickoffs⟩

theorem SameKeys.unique {first second : StateManager} (same : SameKeys first second)
    (unique : second.Unique) : first.Unique :=
  ⟨same.rounds.nodup_iff.mpr unique.rounds, same.kickoffs.nodup_iff.mpr unique.kickoffs⟩

theorem unique_of_empty (noRounds : self.roundMachines = [])
    (noKickoffs : self.kickoffMachines = []) : self.Unique := by
  constructor
  · simp [roundKeys, noRounds]
  · simp [kickoffKeys, noKickoffs]

/-! ## Blocks -/

/-- Machines that settle keep what their events keep. -/
theorem map_completes {μ κ : Type} {process : μ → Option (μ × StateContext)} {bound : Nat}
    {machines : List μ} {outs : List (μ × List DutyRecord)} (key : μ → κ)
    (keeps : ∀ machine result, process machine = some result → key result.1 = key machine)
    (complete : List.Forall₂ (Completes process bound) machines outs) :
    (outs.map Prod.fst).map key = machines.map key := by
  induction complete with
  | nil => rfl
  | cons first _ ih =>
    obtain ⟨count, -, settles⟩ := first
    rw [map_cons, map_cons, map_cons, ih, settles.preserves keeps]

variable {context : StateContext} {handling : Handling}

theorem BlockDone.sameKeys {kickoffOuts : List (KickoffStateMachine × List DutyRecord)}
    {roundOuts : List (RoundStateMachine × List DutyRecord)}
    (done : BlockDone library context self handling kickoffOuts roundOuts) :
    SameKeys handling.manager self := by
  constructor
  · have same := map_completes (fun machine : RoundStateMachine => machine.operatorData.xonlyPk)
      (fun machine result processed => congrArg OperatorData.xonlyPk
        (operatorData_processWithCtx library processed)) done.rounds
    exact (done.roundMachines.map _).trans (.of_eq same)
  · have same := map_completes kickoffData
      (fun machine result processed => congrArg KickoffStateMachine.Identity.kickoffData
        (identity_processWithCtx library processed)) done.kickoffs
    exact (done.kickoffMachines.map _).trans (.of_eq same)

theorem processBlockParallel_sameKeys
    (processed : (self.processBlockParallel library context rows).outcome = .ok ()) :
    SameKeys (self.processBlockParallel library context rows).manager self := by
  obtain ⟨_, _, done⟩ := processBlockParallel_ok processed
  exact done.sameKeys

theorem processBlockParallel_unique (unique : self.Unique) :
    (self.processBlockParallel library context rows).manager.Unique := by
  cases outcome : (self.processBlockParallel library context rows).outcome with
  | error error =>
    rw [processBlockParallel_error outcome]
    exact unique_of_empty rfl rfl
  | ok value => exact (processBlockParallel_sameKeys outcome).unique unique

/-! ## Events -/

variable {next : StateManager → StateRows → Handling}

/-- A property of the manager that both parts of a sequence keep. -/
theorem andThen_manager (property : StateManager → Prop) (first : property handling.manager)
    (second : handling.outcome = .ok () → property (next handling.manager handling.rows).manager) :
    property (handling.andThen next).manager := by
  unfold Handling.andThen
  cases outcome : handling.outcome with
  | error error => exact first
  | ok value => exact second outcome

theorem andThen_outcome (succeeded : (handling.andThen next).outcome = .ok ()) :
    handling.outcome = .ok () ∧ (next handling.manager handling.rows).outcome = .ok () := by
  unfold Handling.andThen at succeeded
  cases outcome : handling.outcome with
  | error error => simp [outcome] at succeeded
  | ok value =>
    simp only [outcome] at succeeded
    exact ⟨rfl, succeeded⟩

theorem andThen_of_ok (succeeded : handling.outcome = .ok ()) : handling.andThen next =
      { next handling.manager handling.rows with
        log := handling.log ++ (next handling.manager handling.rows).log } := by
  unfold Handling.andThen
  rw [succeeded]

theorem catchUp_sameKeys {heights : List UInt32}
    (caught : (catchUp library env heights self rows).outcome = .ok ()) :
    SameKeys (catchUp library env heights self rows).manager self := by
  induction heights generalizing self rows with
  | nil => exact .refl _
  | cons height rest ih =>
    rw [catchUp] at caught ⊢
    obtain ⟨first, second⟩ := andThen_outcome caught
    rw [andThen_of_ok first]
    refine (ih second).trans ?_
    unfold catchUpBlock at first ⊢
    split at first
    · cases first
    · exact processBlockParallel_sameKeys first

variable {newKickoffMachines : List KickoffStateMachine} {newRoundMachines : List RoundStateMachine}
variable {startHeight : UInt32}

/-- New machines whose keys are not in use can be added. -/
theorem processAndAdd_unique (unique : StateManager.Unique { self with
        roundMachines := self.roundMachines ++ newRoundMachines
        kickoffMachines := self.kickoffMachines ++ newKickoffMachines }) (before : self.Unique) :
    (self.processAndAddNewStatesFromHeight library env rows newRoundMachines newKickoffMachines
      startHeight).manager.Unique := by
  unfold processAndAddNewStatesFromHeight
  dsimp only
  split
  · exact before
  · next caught =>
      have same := catchUp_sameKeys caught
      refine SameKeys.unique ⟨?_, ?_⟩ unique
      · simp only [roundKeys, map_append]
        exact same.rounds.append_left _
      · simp only [kickoffKeys, map_append]
        exact same.kickoffs.append_left _

theorem map_updateRoundMachine {change : RoundStateMachine → RoundStateMachine}
    {operatorXonlyPk : XOnlyPublicKey}
    (keeps : ∀ machine, (change machine).operatorData = machine.operatorData)
    (machines : List RoundStateMachine) :
    (updateRoundMachine operatorXonlyPk change machines).map
      (fun machine => machine.operatorData.xonlyPk) =
      machines.map fun machine => machine.operatorData.xonlyPk := by
  induction machines with
  | nil => rfl
  | cons machine rest ih =>
    unfold updateRoundMachine
    split_ifs
    · rw [map_cons, map_cons, keeps]
    · rw [map_cons, map_cons, ih]

variable {kickoffData : KickoffData}

theorem setChallenged_sameKeys {wasChallengedBefore challenged : Bool} :
    SameKeys (self.setChallenged library context kickoffData wasChallengedBefore challenged)
      self := by
  unfold setChallenged
  split_ifs
  · refine ⟨.of_eq (map_updateRoundMachine (fun machine => ?_) _), .refl _⟩
    exact operatorData_handleWithContext library _
  · exact .refl _

variable {payoutBlockhash : Witness} {depositData : DepositData}

theorem markSaved_sameKeys : SameKeys (self.markSaved library context) self := by
  constructor
  · refine .of_eq ?_
    simp only [roundKeys, markSaved, map_map]
    refine map_congr_left fun machine _ => ?_
    simp only [Function.comp_apply]
    split_ifs
    · rw [operatorData_handleWithContext]
    · rfl
  · refine .of_eq ?_
    simp only [kickoffKeys, markSaved, map_map]
    refine map_congr_left fun machine _ => ?_
    simp only [Function.comp_apply]
    split_ifs
    · exact congrArg KickoffStateMachine.Identity.kickoffData (identity_handleWithContext library _)
    · rfl

theorem saveAfterEvent_sameKeys :
    SameKeys (self.saveAfterEvent library env faults rows).manager self := by
  unfold saveAfterEvent saveStateToDb
  split
  · exact .refl _
  · split
    · exact .refl _
    · exact .refl _
    · exact markSaved_sameKeys

variable {height : UInt32}

theorem newFinalizedBlock_unique {block : Block} (unique : self.Unique) :
    (self.newFinalizedBlock library env rows block height).manager.Unique := by
  unfold newFinalizedBlock
  split_ifs
  · exact unique
  · have processed := @processBlockParallel_unique library self rows
      (env.newContext (BlockCache.fromBlock library block height)) unique
    exact andThen_manager Unique processed fun _ => ⟨processed.rounds, processed.kickoffs⟩

theorem andThen_rows (property : StateRows → Prop) (first : property handling.rows)
    (second : property (next handling.manager handling.rows).rows) :
    property (handling.andThen next).rows := by
  unfold Handling.andThen
  cases handling.outcome with
  | error error => exact first
  | ok value => exact second

theorem newFinalizedBlock_rows {block : Block} :
    (self.newFinalizedBlock library env rows block height).rows = rows := by
  unfold newFinalizedBlock
  split_ifs
  · rfl
  · exact andThen_rows (· = rows) processBlockParallel_rows processBlockParallel_rows

variable (library : BuilderLibrary) (env : StateEnvironment) (self : StateManager) in
/-- What the events other than a block do to a manager before it is saved: machines of new
operators and kickoffs catch up and are added, rounds are marked as challenged, and a light client
proof is remembered. -/
inductive Edits : StateManager → Prop where
  | refl : Edits self
  | added {rows : StateRows} {newRoundMachines : List RoundStateMachine}
      {newKickoffMachines : List KickoffStateMachine} {startHeight : UInt32}
      (dirtyRounds : ∀ machine ∈ newRoundMachines, machine.dirty = true)
      (dirtyKickoffs : ∀ machine ∈ newKickoffMachines, machine.dirty = true)
      (distinct : self.Unique → StateManager.Unique { self with
        roundMachines := self.roundMachines ++ newRoundMachines
        kickoffMachines := self.kickoffMachines ++ newKickoffMachines }) :
      Edits (self.processAndAddNewStatesFromHeight library env rows
        newRoundMachines newKickoffMachines startHeight).manager
  | challenged {manager : StateManager} {context : StateContext} {kickoffData : KickoffData}
      {wasChallengedBefore challenged : Bool} (edits : Edits manager) :
      Edits (manager.setChallenged library context kickoffData wasChallengedBefore challenged)
  | lcp {manager : StateManager} (edits : Edits manager) (height : UInt32) :
      Edits { manager with lastProcessedLcp := some height }

theorem Edits.unique {manager : StateManager} (edits : Edits library env self manager)
    (unique : self.Unique) : manager.Unique := by
  induction edits with
  | refl => exact unique
  | added _ _ distinct => exact processAndAdd_unique (distinct unique) unique
  | challenged _ ih => exact setChallenged_sameKeys.unique ih
  | lcp _ _ ih => exact ⟨ih.rounds, ih.kickoffs⟩

/-- A handler that edits the manager and leaves the rows to the save. -/
structure Edited (library : BuilderLibrary) (env : StateEnvironment) (before : StateManager)
    (rows : StateRows) (handling : Handling) : Prop where
  rows : handling.rows = rows
  edits : Edits library env before handling.manager

theorem Edited.andThen (first : Edited library env self rows handling)
    (second : Edited library env self handling.rows (next handling.manager handling.rows)) :
    Edited library env self rows (handling.andThen next) := by
  unfold Handling.andThen
  cases handling.outcome with
  | error error => exact first
  | ok value => exact ⟨second.rows.trans first.rows, second.edits⟩

theorem processAndAdd_rows :
    (self.processAndAddNewStatesFromHeight library env rows newRoundMachines newKickoffMachines
      startHeight).rows = rows := by
  unfold processAndAddNewStatesFromHeight
  dsimp only
  split <;> rfl

section Edited

variable {first : StateManager} (edits : Edits library env first self)

include edits

theorem checkIfKickoffMalicious_edited :
    Edited library env first rows (self.checkIfKickoffMalicious library context payoutBlockhash
      kickoffData depositData rows) := by
  unfold checkIfKickoffMalicious
  split
  · exact ⟨rfl, edits⟩
  · dsimp only
    split
    · exact ⟨rfl, edits⟩
    · exact ⟨rfl, edits.challenged⟩
    · exact ⟨rfl, edits⟩

theorem checkKickoffs_edited {kickoffs : List (Witness × KickoffData × DepositData)} :
    Edited library env first rows (checkKickoffs library context kickoffs self rows) := by
  induction kickoffs generalizing self rows with
  | nil => exact ⟨rfl, edits⟩
  | cons kickoff rest ih =>
    refine Edited.andThen (checkIfKickoffMalicious_edited edits) (ih ?_)
    exact (checkIfKickoffMalicious_edited edits).edits

end Edited

variable {operatorData : OperatorData}

theorem newOperator_edited (absent : operatorData.xonlyPk ∉ self.roundKeys) :
    Edited library env self rows (self.newOperator library env rows operatorData) := by
  unfold newOperator
  split
  · exact ⟨rfl, .refl⟩
  · dsimp only
    split_ifs
    · exact ⟨rfl, .refl⟩
    · refine ⟨processAndAdd_rows,
        .added (fun machine member => ?_) (by simp) fun unique => ⟨?_, ?_⟩⟩
      · rw [mem_singleton.mp member, RoundStateMachine.initWithContext,
          RoundStateMachine.dirty_onEntry]
        rfl
      · simp only [roundKeys, map_append, map_cons, map_nil]
        refine nodup_append.mpr ⟨unique.rounds, nodup_singleton _, ?_⟩
        rintro key member _ (_ | ⟨_, ⟨⟩⟩) rfl
        refine absent ?_
        rw [operatorData_initWithContext] at member
        exact member
      · simpa [kickoffKeys] using unique.kickoffs

variable {kickoffHeight : UInt32}

theorem newKickoff_edited (absent : kickoffData ∉ self.kickoffKeys) :
    Edited library env self rows (self.newKickoff library env rows kickoffData kickoffHeight
      depositData payoutBlockhash) := by
  unfold newKickoff
  split
  · exact ⟨rfl, .refl⟩
  · next context _ =>
      dsimp only
      split_ifs
      · exact ⟨rfl, .refl⟩
      · have identity : ((new kickoffData kickoffHeight depositData
            payoutBlockhash).initWithContext library context).1.kickoffData = kickoffData :=
          congrArg KickoffStateMachine.Identity.kickoffData (@identity_initWithContext library
              (.new kickoffData kickoffHeight depositData payoutBlockhash) context)
        have added : Edited library env self rows (self.processAndAddNewStatesFromHeight library
            env rows [] [((new kickoffData kickoffHeight depositData
              payoutBlockhash).initWithContext library context).1] kickoffHeight) := by
          refine ⟨processAndAdd_rows, .added (by simp) (fun machine member => ?_)
            fun unique => ⟨?_, ?_⟩⟩
          · rw [mem_singleton.mp member, KickoffStateMachine.initWithContext,
              KickoffStateMachine.dirty_onEntry]
            rfl
          · simpa [roundKeys] using unique.rounds
          · simp only [kickoffKeys, map_append, map_cons, map_nil, identity]
            refine nodup_append.mpr ⟨unique.kickoffs, nodup_singleton _, ?_⟩
            rintro key member _ (_ | ⟨_, ⟨⟩⟩) rfl
            exact absent member
        refine Edited.andThen ⟨added.rows, added.edits⟩ ?_
        unfold checkNewKickoff
        split
        · exact ⟨rfl, added.edits⟩
        · split_ifs
          · exact checkIfKickoffMalicious_edited added.edits
          · exact ⟨rfl, added.edits⟩

theorem lcpProcessed_edited :
    Edited library env self rows (self.lcpProcessed library env rows height) := by
  have checked : Edited library env self rows (self.checkHeight library env rows height) := by
    unfold checkHeight
    split
    · exact ⟨rfl, .refl⟩
    · exact ⟨rfl, .refl⟩
    · exact checkKickoffs_edited .refl
  exact checked.andThen ⟨rfl, checked.edits.lcp height⟩

/-- Whether `handle_event` comes to its end, where it saves, if nothing fails. -/
def savesState (env : StateEnvironment) (self : StateManager) : SystemEvent → Bool
  | .newFinalizedBlock _ _ => true
  | .newOperator operatorData =>
    !self.roundMachines.any fun machine =>
      machine.operatorData.xonlyPk = operatorData.xonlyPk
  | .newKickoff kickoffData _ _ _ =>
    env.owner.isKickoffRelevantForOwner kickoffData &&
      (self.kickoffMachines.find? fun machine => machine.kickoffData = kickoffData).isNone
  | .lcpProcessed _ => true

variable (library : BuilderLibrary) (env : StateEnvironment) (self : StateManager)
  (rows : StateRows) in
/-- What an event does before the save. -/
inductive Prior : SystemEvent → Handling → Prop where
  | block {block : Block} {height : UInt32} : Prior
      (.newFinalizedBlock block height) (self.newFinalizedBlock library env rows block height)
  | edited {event : SystemEvent} {handling : Handling}
      (edited : Edited library env self rows handling) : Prior event handling

variable {event : SystemEvent}

/-- An event that comes to its end saves what it did. -/
theorem handleEvent_saves (saves : savesState env self event = true) :
    ∃ handling, Prior library env self rows event handling ∧
      self.handleEvent library env faults rows event = handling.andThen fun manager rows =>
        manager.saveAfterEvent library env faults rows := by
  cases event with
  | newFinalizedBlock block height => exact ⟨_, .block, rfl⟩
  | newOperator operatorData =>
    simp only [savesState, Bool.not_eq_true'] at saves
    have absent : operatorData.xonlyPk ∉ self.roundKeys := by
      simpa [roundKeys] using saves
    rw [handleEvent, if_neg (by simp [saves])]
    exact ⟨_, .edited (newOperator_edited absent), rfl⟩
  | newKickoff kickoffData kickoffHeight depositData payoutBlockhash =>
    simp only [savesState, Bool.and_eq_true, Option.isNone_iff_eq_none] at saves
    have absent : kickoffData ∉ self.kickoffKeys := by
      simpa [kickoffKeys] using saves.2
    rw [handleEvent, if_neg (by simp [saves.1]), saves.2]
    exact ⟨_, .edited (newKickoff_edited absent), rfl⟩
  | lcpProcessed height => exact ⟨_, .edited lcpProcessed_edited, rfl⟩

/-- An event that returns early leaves everything as it is. -/
theorem handleEvent_early (early : savesState env self event = false) :
    (self.handleEvent library env faults rows event).manager = self ∧
      (self.handleEvent library env faults rows event).rows = rows := by
  cases event with
  | newFinalizedBlock block height => cases early
  | newOperator operatorData =>
    simp only [savesState, Bool.not_eq_false'] at early
    rw [handleEvent, if_pos early]
    exact ⟨rfl, rfl⟩
  | newKickoff kickoffData kickoffHeight depositData payoutBlockhash =>
    unfold handleEvent
    dsimp only
    split_ifs with irrelevant
    · exact ⟨rfl, rfl⟩
    · cases found : self.kickoffMachines.find? fun machine => machine.kickoffData = kickoffData with
      | none => simp [savesState, irrelevant, found] at early
      | some machine =>
        dsimp only
        split_ifs <;> exact ⟨rfl, rfl⟩
  | lcpProcessed height => cases early

theorem Prior.unique (prior : Prior library env self rows event handling) (unique : self.Unique) :
    handling.manager.Unique := by
  cases prior with
  | block => exact newFinalizedBlock_unique unique
  | edited edited => exact edited.edits.unique unique

theorem Prior.rows_eq (prior : Prior library env self rows event handling) :
    handling.rows = rows := by
  cases prior with
  | block => exact newFinalizedBlock_rows
  | edited edited => exact edited.rows

/-- Whatever an event does and however it fails, it duplicates no machine. -/
theorem handleEvent_unique (unique : self.Unique) :
    (self.handleEvent library env faults rows event).manager.Unique := by
  cases saves : savesState env self event with
  | false =>
    rw [(handleEvent_early saves).1]
    exact unique
  | true =>
    obtain ⟨handling, prior, same⟩ := handleEvent_saves saves
    rw [same]
    exact andThen_manager Unique (prior.unique unique) fun _ =>
      saveAfterEvent_sameKeys.unique (prior.unique unique)

/-! ## Rows -/

/-- Each row is saved under the key of its machine. -/
structure Keyed (rows : StateRows) : Prop where
  rounds : ∀ key machine, rows.roundMachines.lookup key = some machine →
    machine.operatorData.xonlyPk = key
  kickoffs : ∀ key machine, rows.kickoffMachines.lookup key = some machine →
    machine.kickoffData = key

theorem lookup_foldl_insert {κ μ : Type} [DecidableEq κ] {key : μ → κ} {machines : List μ}
    {saved : AList fun _ : κ => μ} (property : κ → μ → Prop)
    (before : ∀ name machine, saved.lookup name = some machine → property name machine)
    (new : ∀ machine ∈ machines, property (key machine) machine) :
    ∀ name machine, (machines.foldl (fun saved machine => saved.insert (key machine) machine)
      saved).lookup name = some machine → property name machine := by
  induction machines generalizing saved with
  | nil => exact before
  | cons first rest ih =>
    refine ih (fun name machine found => ?_) (fun machine member =>
      new machine (mem_cons_of_mem _ member))
    by_cases same : name = key first
    · subst same
      rw [AList.lookup_insert, Option.some.injEq] at found
      exact found ▸ new first mem_cons_self
    · rw [AList.lookup_insert_ne same] at found
      exact before name machine found

theorem saveStateMachines_keyed {kickoffMachines : List KickoffStateMachine}
    {roundMachines : List RoundStateMachine} {status : Int32 × Option Int32}
    (keyed : Keyed rows) :
    Keyed (saveStateMachines rows kickoffMachines roundMachines status) :=
  ⟨lookup_foldl_insert _ keyed.rounds fun _ _ => rfl,
    lookup_foldl_insert _ keyed.kickoffs fun _ _ => rfl⟩

theorem map_entries_of_keyed {κ μ : Type} [DecidableEq κ] {key : μ → κ}
    {saved : AList fun _ : κ => μ}
    (keyed : ∀ name machine, saved.lookup name = some machine → key machine = name) :
    (saved.entries.map Sigma.snd).map key = saved.keys := by
  rw [map_map]
  refine map_congr_left fun entry member => ?_
  exact keyed entry.1 entry.2 (AList.mem_lookup_iff.mpr member)

theorem saveAfterEvent_keyed (keyed : Keyed rows) :
    Keyed (self.saveAfterEvent library env faults rows).rows := by
  unfold saveAfterEvent saveStateToDb
  split
  · exact keyed
  · split
    · exact keyed
    · exact keyed
    · exact saveStateMachines_keyed keyed

/-- Rows stay under the keys of their machines. -/
theorem handleEvent_keyed (keyed : Keyed rows) :
    Keyed (self.handleEvent library env faults rows event).rows := by
  cases saves : savesState env self event with
  | false =>
    rw [(handleEvent_early saves).2]
    exact keyed
  | true =>
    obtain ⟨handling, prior, same⟩ := @handleEvent_saves env faults library self rows event saves
    have before : Keyed handling.rows := prior.rows_eq ▸ keyed
    rw [same]
    exact andThen_rows Keyed before (saveAfterEvent_keyed before)

/-! ## Reloading -/

/-- The next height that the database stands for. -/
def persistedNextHeight (env : StateEnvironment) (rows : StateRows) : Option UInt32 :=
  (loadStatus env rows).2

theorem foldl_loadMachine {μ κ : Type} {init : μ → StateContext → μ × StateContext} (key : μ → κ)
    (keeps : ∀ machine context, key (init machine context).1 = key machine) {saved : List μ}
    {loaded : List μ × StateContext} :
    (saved.foldl (loadMachine init) loaded).1.map key = loaded.1.map key ++ saved.map key := by
  induction saved generalizing loaded with
  | nil => simp
  | cons machine rest ih => simp [ih, loadMachine, keeps]

/-- The keys after the rows were pushed to the machines in memory. -/
theorem loadMachines_keys (keyed : Keyed rows) :
    (self.loadMachines library rows context).1.roundKeys =
        self.roundKeys ++ rows.roundMachines.keys ∧
      (self.loadMachines library rows context).1.kickoffKeys =
        self.kickoffKeys ++ rows.kickoffMachines.keys := by
  constructor
  · rw [← map_entries_of_keyed keyed.rounds]
    exact foldl_loadMachine (fun machine : RoundStateMachine => machine.operatorData.xonlyPk)
      fun machine context =>
        congrArg OperatorData.xonlyPk (operatorData_initWithContext library)
  · rw [← map_entries_of_keyed keyed.kickoffs]
    exact foldl_loadMachine kickoffData fun machine context =>
      congrArg KickoffStateMachine.Identity.kickoffData
        (@identity_initWithContext library machine context)

/-- A manager with the rows pushed to the machines that were in memory. -/
structure Pushed (before after : StateManager) (rows : StateRows) : Prop where
  rounds : after.roundKeys = before.roundKeys ++ rows.roundMachines.keys
  kickoffs : after.kickoffKeys = before.kickoffKeys ++ rows.kickoffMachines.keys

/-- A reload that failed early left the machines as they were, a later one pushed all rows. -/
theorem reload_machines (keyed : Keyed rows) :
    SameKeys (self.reloadStateManagerFromDb library env faults rows).manager self ∨
      Pushed self (self.reloadStateManagerFromDb library env faults rows).manager rows := by
  unfold reloadStateManagerFromDb
  split
  · exact .inl (.refl _)
  · exact .inl (.refl _)
  · split
    · exact .inl (.refl _)
    · exact .inl ⟨.refl _, .refl _⟩
    · unfold reloadMachines
      dsimp only
      split
      · exact .inl ⟨.refl _, .refl _⟩
      · split
        · exact .inl ⟨.refl _, .refl _⟩
        · obtain ⟨rounds, kickoffs⟩ := loadMachines_keys keyed
          exact .inr ⟨rounds, kickoffs⟩

/-- A manager with the status of the database and the block before its next height. -/
def withStatus (library : BuilderLibrary) (self : StateManager) (lastProcessedLcp : Option UInt32)
    (nextHeightToProcess : UInt32) (block : Block) : StateManager :=
  { self with
    lastProcessedLcp
    nextHeightToProcess
    lastFinalizedBlock := some (BlockCache.fromBlock library block
      (if nextHeightToProcess = 0 then 0 else nextHeightToProcess - 1)) }

/-- A successful reload set the status and pushed all rows. -/
theorem reload_eq
    (succeeded : (self.reloadStateManagerFromDb library env faults rows).outcome = .ok ()) :
    ∃ lastProcessedLcp next block, loadStatus env rows = (.ok lastProcessedLcp, some next) ∧
      env.getBlock (if next = 0 then 0 else next - 1) = .ok block ∧
      (self.reloadStateManagerFromDb library env faults rows).manager =
        ((self.withStatus library lastProcessedLcp next block).loadMachines library rows
          (env.newContext (BlockCache.fromBlock library block
            (if next = 0 then 0 else next - 1)))).1 := by
  unfold reloadStateManagerFromDb at succeeded ⊢
  split at succeeded
  · cases succeeded
  · cases succeeded
  · split at succeeded
    · cases succeeded
    · cases succeeded
    · next status =>
        unfold reloadMachines at succeeded ⊢
        dsimp only at succeeded ⊢
        split at succeeded
        · cases succeeded
        · next found =>
            split at succeeded
            · cases succeeded
            · exact ⟨_, _, _, status, found, rfl⟩

theorem reload_ok (keyed : Keyed rows)
    (succeeded : (self.reloadStateManagerFromDb library env faults rows).outcome = .ok ()) :
    Pushed self (self.reloadStateManagerFromDb library env faults rows).manager rows ∧
      persistedNextHeight env rows = some
        (self.reloadStateManagerFromDb library env faults rows).manager.nextHeightToProcess := by
  obtain ⟨lastProcessedLcp, next, block, status, -, result⟩ := reload_eq succeeded
  rw [result]
  obtain ⟨rounds, kickoffs⟩ := @loadMachines_keys library
    (self.withStatus library lastProcessedLcp next block) rows (env.newContext
      (BlockCache.fromBlock library block (if next = 0 then 0 else next - 1))) keyed
  exact ⟨⟨rounds, kickoffs⟩, congrArg Prod.snd status⟩

end StateManager

/-! ## Runs of the task -/

/-- The calls that are made on the task. -/
inductive TaskOperation where
  | runOnce (env : StateEnvironment) (faults : Faults) (message : Option SystemEvent)
  | recoverFromError (env : StateEnvironment) (faults : Faults)

/-- Whether a call is a recovery. -/
def TaskOperation.isRecovery : TaskOperation → Bool
  | .runOnce _ _ _ => false
  | .recoverFromError _ _ => true

namespace ConsumerTask

open StateManager

variable (library : BuilderLibrary)

/-- The call of an operation. -/
def perform (self : ConsumerTask) : TaskOperation → TaskCall
  | .runOnce env faults message => self.runOnce library env faults message
  | .recoverFromError env faults => self.recoverFromError library env faults

/-- The manager holds exactly one machine for each row, and its next height is the one of the
database. -/
structure Loaded (env : StateEnvironment) (task : ConsumerTask) : Prop where
  unique : task.inner.Unique
  rounds : task.inner.roundKeys.Perm task.rows.roundMachines.keys
  kickoffs : task.inner.kickoffKeys.Perm task.rows.kickoffMachines.keys
  height : persistedNextHeight env task.rows = some task.inner.nextHeightToProcess

/-- At all times of a run no machine is duplicated, and each successful recovery loads exactly
the rows. -/
def NoDuplicates : ConsumerTask → List TaskOperation → Prop
  | task, [] => task.inner.Unique
  | task, operation :: rest =>
    task.inner.Unique ∧ (∀ env faults, operation = .recoverFromError env faults →
        (task.perform library operation).outcome = .ok () →
          Loaded env (task.perform library operation).task) ∧
      NoDuplicates (task.perform library operation).task rest

/-- In a run, the recoveries that satisfy a condition begin without a machine in memory. -/
def RecoversEmpty (condition : TaskCall → Prop) : ConsumerTask → List TaskOperation → Prop
  | _, [] => True
  | task, operation :: rest =>
    (operation.isRecovery = true → condition (task.perform library operation) →
      task.inner.roundMachines = [] ∧ task.inner.kickoffMachines = []) ∧
      RecoversEmpty condition (task.perform library operation).task rest

variable {library} {self : ConsumerTask} {message : Option SystemEvent}

theorem runOnce_unique (unique : self.inner.Unique) :
    (self.runOnce library env faults message).task.inner.Unique := by
  unfold runOnce
  split
  · exact unique
  · exact unique
  · split <;> exact unique
  · unfold archiveAndCommit
    split <;> exact handleEvent_unique unique

theorem runOnce_keyed (keyed : Keyed self.rows) :
    Keyed (self.runOnce library env faults message).task.rows := by
  unfold runOnce
  split
  · exact keyed
  · exact keyed
  · split <;> exact keyed
  · unfold archiveAndCommit
    split
    · exact keyed
    · exact keyed
    · exact keyed
    · exact handleEvent_keyed keyed

theorem recoverFromError_rows :
    (self.recoverFromError library env faults).task.rows = self.rows := by
  unfold recoverFromError
  dsimp only
  split <;> rfl

theorem recoverFromError_inner : (self.recoverFromError library env faults).task.inner =
      (self.inner.reloadStateManagerFromDb library env faults self.rows).manager := by
  unfold recoverFromError
  dsimp only
  split <;> rfl

theorem recoverFromError_outcome : (self.recoverFromError library env faults).outcome =
      (self.inner.reloadStateManagerFromDb library env faults self.rows).outcome := by
  unfold recoverFromError
  dsimp only
  split
  · next failed => exact failed.symm
  · next succeeded => exact succeeded.symm

theorem perform_keyed (operation : TaskOperation) (keyed : Keyed self.rows) :
    Keyed (self.perform library operation).task.rows := by
  cases operation with
  | runOnce env faults message => exact runOnce_keyed keyed
  | recoverFromError env faults =>
    rw [perform, recoverFromError_rows]
    exact keyed

/-- Rows that are pushed to an empty memory are the machines. -/
theorem unique_of_pushed {before after : StateManager} {rows : StateRows}
    (pushed : Pushed before after rows) (noRounds : before.roundMachines = [])
    (noKickoffs : before.kickoffMachines = []) : after.Unique := by
  constructor
  · rw [pushed.rounds, roundKeys, noRounds]
    exact rows.roundMachines.keys_nodup
  · rw [pushed.kickoffs, kickoffKeys, noKickoffs]
    exact rows.kickoffMachines.keys_nodup

theorem recover_unique (keyed : Keyed self.rows) (noRounds : self.inner.roundMachines = [])
    (noKickoffs : self.inner.kickoffMachines = []) :
    (self.recoverFromError library env faults).task.inner.Unique := by
  rw [recoverFromError_inner]
  rcases reload_machines keyed with same | pushed
  · exact same.unique (unique_of_empty noRounds noKickoffs)
  · exact unique_of_pushed pushed noRounds noKickoffs

/-- A successful recovery without machines in memory loads exactly the rows. -/
theorem recover_loaded (keyed : Keyed self.rows)
    (succeeded : (self.recoverFromError library env faults).outcome = .ok ())
    (noRounds : self.inner.roundMachines = []) (noKickoffs : self.inner.kickoffMachines = []) :
    Loaded env (self.recoverFromError library env faults).task := by
  have reloaded := recoverFromError_outcome.symm.trans succeeded
  obtain ⟨pushed, height⟩ := reload_ok keyed reloaded
  refine ⟨recover_unique keyed noRounds noKickoffs, ?_, ?_, ?_⟩
  · rw [recoverFromError_inner, recoverFromError_rows, pushed.rounds, roundKeys, noRounds]
    exact .refl _
  · rw [recoverFromError_inner, recoverFromError_rows, pushed.kickoffs, kickoffKeys, noKickoffs]
    exact .refl _
  · rw [recoverFromError_inner, recoverFromError_rows]
    exact height

/-- Conversely, if a successful recovery loads exactly the rows, no machine was in memory. -/
theorem empty_of_loaded (keyed : Keyed self.rows)
    (succeeded : (self.recoverFromError library env faults).outcome = .ok ())
    (loaded : Loaded env (self.recoverFromError library env faults).task) :
    self.inner.roundMachines = [] ∧ self.inner.kickoffMachines = [] := by
  obtain ⟨pushed, -⟩ := reload_ok keyed (recoverFromError_outcome.symm.trans succeeded)
  have rounds := loaded.rounds.length_eq
  have kickoffs := loaded.kickoffs.length_eq
  rw [recoverFromError_inner, recoverFromError_rows, pushed.rounds, length_append] at rounds
  rw [recoverFromError_inner, recoverFromError_rows, pushed.kickoffs, length_append]
    at kickoffs
  constructor
  · have noKeys : self.inner.roundKeys = [] :=
      eq_nil_of_length_eq_zero (Nat.add_eq_right.mp rounds)
    exact map_eq_nil_iff.mp noKeys
  · have noKeys : self.inner.kickoffKeys = [] :=
      eq_nil_of_length_eq_zero (Nat.add_eq_right.mp kickoffs)
    exact map_eq_nil_iff.mp noKeys

variable {operations : List TaskOperation}

theorem noDuplicates_of_recoversEmpty (keyed : Keyed self.rows) (unique : self.inner.Unique)
    (empty : RecoversEmpty library (fun _ => True) self operations) :
    NoDuplicates library self operations := by
  induction operations generalizing self with
  | nil => exact unique
  | cons operation rest ih =>
    obtain ⟨first, later⟩ := empty
    refine ⟨unique, ?_, ih (perform_keyed operation keyed) ?_ later⟩
    · rintro env faults rfl succeeded
      obtain ⟨noRounds, noKickoffs⟩ := first rfl trivial
      exact recover_loaded keyed succeeded noRounds noKickoffs
    · cases operation with
      | runOnce env faults message =>
        rw [perform]
        exact runOnce_unique unique
      | recoverFromError env faults =>
        obtain ⟨noRounds, noKickoffs⟩ := first rfl trivial
        rw [perform]
        exact recover_unique keyed noRounds noKickoffs

theorem recoversEmpty_of_noDuplicates (keyed : Keyed self.rows)
    (sound : NoDuplicates library self operations) :
    RecoversEmpty library (fun call => call.outcome = .ok ()) self operations := by
  induction operations generalizing self with
  | nil => trivial
  | cons operation rest ih =>
    obtain ⟨-, loaded, later⟩ := sound
    refine ⟨?_, ih (perform_keyed operation keyed) later⟩
    cases operation with
    | runOnce env faults message => nofun
    | recoverFromError env faults =>
      intro _ succeeded
      exact empty_of_loaded keyed succeeded (loaded env faults rfl succeeded)

/-- Over every run of a task that was started on rows saved under the keys of their machines: if
all recoveries begin without a machine in memory, no machine is ever duplicated and each
successful recovery loads exactly the rows; and then every successful recovery began so. -/
theorem no_duplicates_when_recoveries_empty {env : StateEnvironment} {faults : Faults}
    {rows : StateRows} (keyed : Keyed rows)
    (started : (start library env faults rows).outcome = .ok ())
    (operations : List TaskOperation) :
    (RecoversEmpty library (fun _ => True) (start library env faults rows).task operations →
      NoDuplicates library (start library env faults rows).task operations) ∧
    (NoDuplicates library (start library env faults rows).task operations →
      RecoversEmpty library (fun call => call.outcome = .ok ())
        (start library env faults rows).task operations) := by
  have keyedStart : Keyed (start library env faults rows).task.rows := by
    rw [start, recoverFromError_rows]
    exact keyed
  constructor
  · intro empty
    refine noDuplicates_of_recoversEmpty keyedStart ?_ empty
    exact (recover_loaded keyed started rfl rfl).unique
  · exact recoversEmpty_of_noDuplicates keyedStart

/-- A database without rows. -/
theorem keyed_empty : Keyed ⟨∅, ∅, none⟩ := ⟨nofun, nofun⟩

/-- A manager that is started on a database without rows. -/
theorem start_empty (started : (start library env faults ⟨∅, ∅, none⟩).outcome = .ok ()) :
    (start library env faults ⟨∅, ∅, none⟩).task.inner.roundMachines = [] ∧
      (start library env faults ⟨∅, ∅, none⟩).task.inner.kickoffMachines = [] ∧
      (start library env faults ⟨∅, ∅, none⟩).task.inner.lastProcessedLcp = none ∧
      (start library env faults ⟨∅, ∅, none⟩).task.rows = ⟨∅, ∅, none⟩ := by
  obtain ⟨lastProcessedLcp, next, block, status, -, result⟩ :=
    reload_eq (recoverFromError_outcome.symm.trans started)
  have inner := recoverFromError_inner.trans result
  cases Except.ok.inj (congrArg Prod.fst status)
  refine ⟨?_, ?_, ?_, recoverFromError_rows⟩ <;> (unfold start; rw [inner]; rfl)

/-- An environment in which no transaction can be built. -/
def Regtest.failingEnvironment : StateEnvironment :=
  { Regtest.environment with
    owner := { Regtest.owner with
      createTxhandlers := fun _ _ => .error (.error (.transaction .insufficientContext)) } }

/-- The machine of an operator is created, the entry of its first round fails, and the machine is
loaded again. -/
def Regtest.failedBlock : List TaskOperation :=
  [.runOnce Regtest.environment {} (some (.newOperator Regtest.operatorData)),
    .runOnce Regtest.failingEnvironment {} (some (.newFinalizedBlock
      (Regtest.blockWith 190 [Regtest.spendingTx (Regtest.spendsOf .round)]) 190)),
    .recoverFromError Regtest.environment {}]

theorem no_duplicates_after_failed_block :
    RecoversEmpty Regtest.library (fun _ => True) Regtest.task Regtest.failedBlock ∧
      NoDuplicates Regtest.library Regtest.task Regtest.failedBlock := by
  have empty : RecoversEmpty Regtest.library (fun _ => True) Regtest.task Regtest.failedBlock := by
    refine ⟨nofun, nofun, fun _ _ => ⟨?_, ?_⟩, trivial⟩ <;> decide +kernel
  refine ⟨empty, (no_duplicates_when_recoveries_empty keyed_empty ?_ _).1 empty⟩
  decide +kernel

/-- The machine of an operator is created, a block arrives out of order, and the machines are
loaded again. -/
def Regtest.outOfOrderBlock : List TaskOperation :=
  [.runOnce Regtest.environment {} (some (.newOperator Regtest.operatorData)),
    .runOnce Regtest.environment {} (some (.newFinalizedBlock (Regtest.blockWith 195 []) 195)),
    .recoverFromError Regtest.environment {}]

/-- A block that arrives out of order duplicates the machine of the operator. -/
theorem machine_duplicated_after_outOfOrder :
    ¬NoDuplicates Regtest.library Regtest.task Regtest.outOfOrderBlock := by
  rintro ⟨-, -, -, -, -, -, unique⟩
  have twice : (((((Regtest.task.perform Regtest.library (.runOnce Regtest.environment {}
      (some (.newOperator Regtest.operatorData)))).task.perform Regtest.library
      (.runOnce Regtest.environment {} (some (.newFinalizedBlock (Regtest.blockWith 195 [])
        195)))).task.perform Regtest.library
          (.recoverFromError Regtest.environment {})).task.inner).roundKeys) =
      [Regtest.operatorXonlyPk, Regtest.operatorXonlyPk] := by
    decide +kernel
  have distinct := unique.rounds
  rw [twice] at distinct
  simp at distinct

end ConsumerTask

end Clementine
