import Clementine.Core.States.Recovery

/-!
# Memory and database

Only machines whose dirty flag is set are saved after an event.  Each machine in memory is
therefore dirty, or equal to its row; after an event that ends with a save each machine is equal
to its row, apart from the flag.  The height that is saved is the one after the last finalized
block, which is the next height to process.

A machine that was loaded ran its entry action, so it is equal to its row only after the next
save.  Events that return early do not save.
-/

namespace Clementine

open KickoffStateMachine List Option

/-! ## Machines that settle -/

variable {library : BuilderLibrary} {context : StateContext}

section Settles

/-- A kind of machines in a block: the events they find and how they handle them.  `SavedToDb`
changes the flag alone; every other event sets it without reading it. -/
structure Dispatcher (μ ε : Type) where
  find : μ → Option ε
  handle : μ → ε → μ × StateContext
  savedToDb : ε
  dirty : μ → Bool
  saved : μ → μ
  cleared : ∀ machine, find (handle machine savedToDb).1 = find machine
  marks : ∀ machine event, event ≠ savedToDb → dirty (handle machine event).1 = true
  alike : ∀ {machine other}, saved other = saved machine → find other = find machine ∧
    ∀ event, event ≠ savedToDb → handle other event = handle machine event

namespace Dispatcher

variable {μ ε : Type} (kind : Dispatcher μ ε) {duties : List DutyRecord} {count : Nat}
  {machine other final : μ}

def process (machine : μ) : Option (μ × StateContext) :=
  (kind.find machine).map (kind.handle machine)

/-- No machine settles on `SavedToDb`, which would be found again and again. -/
theorem find_ne_savedToDb (settles : Settles kind.process count machine duties final) :
    kind.find machine ≠ some kind.savedToDb := by
  induction settles with
  | done quiet =>
    intro found
    simp [process, found] at quiet
  | step processed _ _ ih =>
    intro found
    rw [process, found, map_some, some.injEq] at processed
    subst processed
    exact ih ((kind.cleared _).trans found)

/-- A machine that settled is as it was before or dirty. -/
theorem settles_dirty (settles : Settles kind.process count machine duties final) :
    kind.dirty final = true ∨ final = machine := by
  induction settles with
  | done => exact .inr rfl
  | step processed clean rest ih =>
    have event := kind.find_ne_savedToDb (.step processed clean rest)
    refine .inl (ih.elim id ?_)
    rintro rfl
    obtain ⟨found, matched, rfl⟩ := map_eq_some_iff.mp processed
    exact kind.marks _ _ fun same => event (same ▸ matched)

/-- Machines that differ in the flag settle alike. -/
theorem settles_congr (settles : Settles kind.process count machine duties final)
    (same : kind.saved other = kind.saved machine) :
    ∃ next, Settles kind.process count other duties next ∧ kind.saved next = kind.saved final := by
  have changes := kind.find_ne_savedToDb settles
  obtain ⟨finds, handles⟩ := kind.alike same
  have processes : kind.process other = kind.process machine := by
    rw [process, process, finds]
    exact Option.map_congr fun event found => handles event fun saved => changes (saved ▸ found)
  cases settles with
  | done quiet => exact ⟨other, .done (processes.trans quiet), same⟩
  | step processed clean rest => exact ⟨final, .step (processes.trans processed) clean rest, rfl⟩

end Dispatcher

def RoundStateMachine.dispatcher (library : BuilderLibrary) (context : StateContext) :
    Dispatcher RoundStateMachine RoundEvent where
  find machine := machine.matchers.matchBlock context.cache
  handle machine event := machine.handleWithContext library event context
  savedToDb := .savedToDb
  dirty := RoundStateMachine.dirty
  saved := RoundStateMachine.saved
  cleared machine := by rw [RoundStateMachine.handleWithContext_savedToDb]
  marks _ _ := RoundStateMachine.dirty_handleWithContext library
  alike := by
    rintro ⟨⟩ ⟨⟩ ⟨⟩
    refine ⟨rfl, fun event different => ?_⟩
    rw [RoundStateMachine.handleWithContext, RoundStateMachine.handleWithContext,
      RoundStateMachine.onDispatch, RoundStateMachine.onDispatch, if_neg different]

def KickoffStateMachine.dispatcher (library : BuilderLibrary) (context : StateContext) :
    Dispatcher KickoffStateMachine KickoffEvent where
  find machine := machine.matchers.matchBlock context.cache
  handle machine event := machine.handleWithContext library event context
  savedToDb := .savedToDb
  dirty := KickoffStateMachine.dirty
  saved := KickoffStateMachine.saved
  cleared machine := by rw [handleWithContext_savedToDb]
  marks _ _ := dirty_handleWithContext library
  alike := by
    rintro ⟨⟩ ⟨⟩ ⟨⟩
    refine ⟨rfl, fun event different => ?_⟩
    rw [handleWithContext, handleWithContext, onDispatch, onDispatch, if_neg different]

variable {machine : KickoffStateMachine}

theorem RoundStateMachine.saved_of_dirty {machine : RoundStateMachine}
    (flag : machine.dirty = true) : machine.saved = machine := by
  cases machine
  cases flag
  rfl

theorem KickoffStateMachine.saved_of_dirty (flag : machine.dirty = true) :
    machine.saved = machine := by
  cases machine
  cases flag
  rfl

end Settles

variable {event : SystemEvent} {env : StateEnvironment} {faults : Faults}

namespace StateManager

variable {self : StateManager} {rows : StateRows}

/-! ## What an event does before it saves -/

/-- The machines of the second manager are dirty or machines of the first, and no operator or
kickoff of the first one is missing. -/
structure Progress (before after : StateManager) : Prop where
  rounds : ∀ machine ∈ after.roundMachines, machine.dirty = true ∨ machine ∈ before.roundMachines
  kickoffs : ∀ machine ∈ after.kickoffMachines,
    machine.dirty = true ∨ machine ∈ before.kickoffMachines
  roundKeys : before.roundKeys ⊆ after.roundKeys
  kickoffKeys : before.kickoffKeys ⊆ after.kickoffKeys

theorem Progress.refl (manager : StateManager) : Progress manager manager :=
  ⟨fun _ => .inr, fun _ => .inr, fun _ => id, fun _ => id⟩

variable {first second third : StateManager}

theorem Progress.trans (left : Progress first second) (right : Progress second third) :
    Progress first third where
  rounds machine member := (right.rounds machine member).elim .inl (left.rounds machine)
  kickoffs machine member := (right.kickoffs machine member).elim .inl (left.kickoffs machine)
  roundKeys := List.Subset.trans left.roundKeys right.roundKeys
  kickoffKeys := List.Subset.trans left.kickoffKeys right.kickoffKeys

/-- The settled machines of a block are dirty or unchanged. -/
theorem mem_completes {μ : Type} {process : μ → Option (μ × StateContext)} {bound : Nat}
    {dirty : μ → Prop} {machines : List μ} {outs : List (μ × List DutyRecord)} {final : μ}
    (changes : ∀ count machine duties final, Settles process count machine duties final →
      dirty final ∨ final = machine)
    (complete : List.Forall₂ (Completes process bound) machines outs)
    (member : final ∈ outs.map Prod.fst) : dirty final ∨ final ∈ machines := by
  induction complete with
  | nil => cases member
  | @cons machine out rest outs first _ ih =>
    obtain ⟨count, -, settles⟩ := first
    rcases mem_cons.mp member with rfl | later
    · rcases changes _ _ _ _ settles with changed | same
      · exact .inl changed
      · exact .inr (same ▸ mem_cons_self)
    · exact (ih later).imp_right (mem_cons_of_mem _)

theorem BlockDone.progress {handling : Handling}
    {kickoffOuts : List (KickoffStateMachine × List DutyRecord)}
    {roundOuts : List (RoundStateMachine × List DutyRecord)}
    (done : BlockDone library context self handling kickoffOuts roundOuts) :
    Progress self handling.manager where
  rounds _ member := mem_completes
    (fun _ _ _ _ => (RoundStateMachine.dispatcher library context).settles_dirty) done.rounds (done.roundMachines.mem_iff.mp member)
  kickoffs _ member := mem_completes (fun _ _ _ _ => (dispatcher library context).settles_dirty)
    done.kickoffs (done.kickoffMachines.mem_iff.mp member)
  roundKeys := done.sameKeys.rounds.symm.subset
  kickoffKeys := done.sameKeys.kickoffs.symm.subset

theorem processBlockParallel_progress
    (processed : (self.processBlockParallel library context rows).outcome = .ok ()) :
    Progress self (self.processBlockParallel library context rows).manager := by
  obtain ⟨_, _, done⟩ := processBlockParallel_ok processed
  exact done.progress

theorem catchUp_progress {heights : List UInt32}
    (caught : (catchUp library env heights self rows).outcome = .ok ()) :
    Progress self (catchUp library env heights self rows).manager := by
  induction heights generalizing self rows with
  | nil => exact .refl _
  | cons height rest ih =>
    rw [catchUp] at caught ⊢
    obtain ⟨first, second⟩ := andThen_outcome caught
    rw [andThen_of_ok first]
    refine Progress.trans ?_ (ih second)
    unfold catchUpBlock at first ⊢
    split at first
    · cases first
    · exact processBlockParallel_progress first

/-- What a successful event does to a manager before the save: the machines progress, and the
next height and the last block stay. -/
structure Extends (before after : StateManager) : Prop extends Progress before after where
  nextHeight : after.nextHeightToProcess = before.nextHeightToProcess
  lastBlock : after.lastFinalizedBlock = before.lastFinalizedBlock

theorem Extends.refl (manager : StateManager) : Extends manager manager :=
  ⟨.refl _, rfl, rfl⟩

theorem Extends.trans (left : Extends first second) (right : Extends second third) :
    Extends first third :=
  ⟨left.toProgress.trans right.toProgress, right.nextHeight.trans left.nextHeight,
    right.lastBlock.trans left.lastBlock⟩

/-- Dirty machines that catch up are added. -/
theorem processAndAdd_extends {newRoundMachines : List RoundStateMachine}
    {newKickoffMachines : List KickoffStateMachine} {startHeight : UInt32}
    (dirtyRounds : ∀ machine ∈ newRoundMachines, machine.dirty = true)
    (dirtyKickoffs : ∀ machine ∈ newKickoffMachines, machine.dirty = true) :
    Extends self (self.processAndAddNewStatesFromHeight library env rows newRoundMachines
      newKickoffMachines startHeight).manager := by
  unfold processAndAddNewStatesFromHeight
  dsimp only
  split
  · exact .refl _
  · next caught =>
      have progress := catchUp_progress caught
      refine ⟨⟨?_, ?_, ?_, ?_⟩, rfl, rfl⟩
      · intro machine member
        rcases mem_append.mp member with old | new
        · exact .inr old
        · exact .inl ((progress.rounds machine new).elim id (dirtyRounds machine))
      · intro machine member
        rcases mem_append.mp member with old | new
        · exact .inr old
        · exact .inl ((progress.kickoffs machine new).elim id (dirtyKickoffs machine))
      · simp only [roundKeys, map_append]
        exact subset_append_left _ _
      · simp only [kickoffKeys, map_append]
        exact subset_append_left _ _

theorem mem_updateRoundMachine {operatorXonlyPk : XOnlyPublicKey}
    {change : RoundStateMachine → RoundStateMachine} {machines : List RoundStateMachine}
    {machine : RoundStateMachine} (changes : ∀ machine, (change machine).dirty = true)
    (member : machine ∈ updateRoundMachine operatorXonlyPk change machines) :
    machine.dirty = true ∨ machine ∈ machines := by
  induction machines with
  | nil => cases member
  | cons first rest ih =>
    unfold updateRoundMachine at member
    split_ifs at member
    · rcases mem_cons.mp member with rfl | later
      · exact .inl (changes first)
      · exact .inr (mem_cons_of_mem _ later)
    · rcases mem_cons.mp member with rfl | later
      · exact .inr mem_cons_self
      · exact (ih later).imp_right (mem_cons_of_mem _)

variable {kickoffData : KickoffData}

theorem setChallenged_extends {wasChallengedBefore challenged : Bool} : Extends self
      (self.setChallenged library context kickoffData wasChallengedBefore challenged) := by
  have keys := @setChallenged_sameKeys library self context kickoffData wasChallengedBefore
    challenged
  refine ⟨⟨?_, ?_, keys.rounds.symm.subset, keys.kickoffs.symm.subset⟩, ?_, ?_⟩ <;>
    unfold setChallenged
  · split_ifs
    · intro machine member
      refine mem_updateRoundMachine (fun machine => ?_) member
      exact RoundStateMachine.dirty_handleWithContext library nofun
    · exact fun _ => .inr
  · split_ifs <;> exact fun _ => .inr
  · split_ifs <;> rfl
  · split_ifs <;> rfl

theorem Edits.extends {manager : StateManager} (edits : Edits library env self manager) :
    Extends self manager := by
  induction edits with
  | refl => exact .refl _
  | added dirtyRounds dirtyKickoffs => exact processAndAdd_extends dirtyRounds dirtyKickoffs
  | challenged _ ih => exact ih.trans setChallenged_extends
  | lcp _ _ ih =>
    exact ⟨⟨ih.rounds, ih.kickoffs, ih.roundKeys, ih.kickoffKeys⟩, ih.nextHeight, ih.lastBlock⟩

variable {height : UInt32}

/-! ## Saving -/

section Insert

variable {κ μ : Type} [DecidableEq κ] {key : μ → κ} {machines : List μ}
  {saved : AList fun _ : κ => μ}

theorem lookup_foldl_insert_of_not_mem {name : κ} (absent : name ∉ machines.map key) :
    (machines.foldl (fun saved machine => saved.insert (key machine) machine) saved).lookup name =
      saved.lookup name := by
  induction machines generalizing saved with
  | nil => rfl
  | cons first rest ih =>
    rw [map_cons, mem_cons, not_or] at absent
    rw [foldl_cons, ih absent.2, AList.lookup_insert_ne absent.1]

theorem lookup_foldl_insert_of_mem {machine : μ} (distinct : (machines.map key).Nodup)
    (member : machine ∈ machines) :
    (machines.foldl (fun saved machine => saved.insert (key machine) machine) saved).lookup
      (key machine) = some machine := by
  induction machines generalizing saved with
  | nil => cases member
  | cons first rest ih =>
    rw [map_cons, nodup_cons] at distinct
    rcases mem_cons.mp member with rfl | later
    · rw [foldl_cons, lookup_foldl_insert_of_not_mem distinct.1, AList.lookup_insert]
    · exact ih distinct.2 later

theorem mem_foldl_insert {name : κ}
    (member : name ∈ machines.foldl (fun saved machine => saved.insert (key machine) machine)
      saved) : name ∈ machines.map key ∨ name ∈ saved := by
  by_cases among : name ∈ machines.map key
  · exact .inl among
  · rw [← AList.lookup_isSome, lookup_foldl_insert_of_not_mem among, AList.lookup_isSome] at member
    exact .inr member

end Insert

/-- Each machine is equal to its row, apart from the flag, which is always set in rows; and each
row has a machine. -/
structure Stored (manager : StateManager) (rows : StateRows) : Prop where
  rounds : ∀ machine ∈ manager.roundMachines,
    rows.roundMachines.lookup machine.operatorData.xonlyPk = some machine.saved
  kickoffs : ∀ machine ∈ manager.kickoffMachines,
    rows.kickoffMachines.lookup machine.kickoffData = some machine.saved
  roundRows : ∀ key ∈ rows.roundMachines, key ∈ manager.roundKeys
  kickoffRows : ∀ key ∈ rows.kickoffMachines, key ∈ manager.kickoffKeys

/-- Each machine is dirty or equal to its row. -/
structure Tracked (manager : StateManager) (rows : StateRows) : Prop where
  unique : manager.Unique
  rounds : ∀ machine ∈ manager.roundMachines, machine.dirty = true ∨
    rows.roundMachines.lookup machine.operatorData.xonlyPk = some machine.saved
  kickoffs : ∀ machine ∈ manager.kickoffMachines, machine.dirty = true ∨
    rows.kickoffMachines.lookup machine.kickoffData = some machine.saved
  roundRows : ∀ key ∈ rows.roundMachines, key ∈ manager.roundKeys
  kickoffRows : ∀ key ∈ rows.kickoffMachines, key ∈ manager.kickoffKeys

theorem Stored.tracked (stored : Stored self rows) (unique : self.Unique) : Tracked self rows :=
  ⟨unique, fun machine member => .inr (stored.rounds machine member),
    fun machine member => .inr (stored.kickoffs machine member), stored.roundRows,
    stored.kickoffRows⟩

/-- An event that is not saved yet leaves each machine dirty or equal to its row. -/
theorem Tracked.progress {after : StateManager} (tracked : Tracked self rows)
    (progress : Progress self after) (unique : after.Unique) : Tracked after rows where
  unique
  rounds machine member := (progress.rounds machine member).elim .inl (tracked.rounds machine)
  kickoffs machine member := (progress.kickoffs machine member).elim .inl (tracked.kickoffs machine)
  roundRows key member := progress.roundKeys (tracked.roundRows key member)
  kickoffRows key member := progress.kickoffKeys (tracked.kickoffRows key member)

/-- Each row has its flag set. -/
structure Flagged (rows : StateRows) : Prop where
  rounds : ∀ key machine, rows.roundMachines.lookup key = some machine → machine.dirty = true
  kickoffs : ∀ key machine, rows.kickoffMachines.lookup key = some machine → machine.dirty = true

/-- After the dirty machines were saved, each machine is equal to its row. -/
theorem saved_lookup {μ κ : Type} [DecidableEq κ] {key : μ → κ} {dirty : μ → Bool}
    {machines : List μ} {stored : AList fun _ : κ => μ} {form : μ → μ}
    (forms : ∀ machine, dirty machine = true → form machine = machine)
    (distinct : (machines.map key).Nodup)
    (tracked : ∀ machine ∈ machines, dirty machine = true ∨
      stored.lookup (key machine) = some (form machine)) {machine : μ}
    (member : machine ∈ machines) :
    ((machines.filter dirty).foldl (fun saved machine => saved.insert (key machine) machine)
      stored).lookup (key machine) = some (form machine) := by
  have distinctDirty : ((machines.filter dirty).map key).Nodup :=
    distinct.sublist (filter_sublist.map key)
  cases flag : dirty machine with
  | true =>
    rw [forms machine flag]
    exact lookup_foldl_insert_of_mem distinctDirty (mem_filter.mpr ⟨member, flag⟩)
  | false =>
    rw [lookup_foldl_insert_of_not_mem]
    · exact (tracked machine member).resolve_left (by simp [flag])
    · intro among
      obtain ⟨other, inDirty, same⟩ := mem_map.mp among
      obtain ⟨inMachines, otherDirty⟩ := mem_filter.mp inDirty
      have equal := inj_on_of_nodup_map distinct inMachines member same
      rw [equal, flag] at otherDirty
      cases otherDirty

/-- After a save of the dirty machines all machines are stored. -/
theorem stored_of_save {status : Int32 × Option Int32} (tracked : Tracked self rows) :
    Stored (self.markSaved library context)
      (saveStateMachines rows (self.kickoffMachines.filter (·.dirty))
        (self.roundMachines.filter (·.dirty)) status) := by
  have keys := @markSaved_sameKeys library self context
  refine ⟨?_, ?_, ?_, ?_⟩
  · intro machine member
    obtain ⟨before, inMemory, rfl⟩ := mem_map.mp member
    have lookup := saved_lookup (fun _ => RoundStateMachine.saved_of_dirty) tracked.unique.rounds
      tracked.rounds inMemory
    by_cases flag : before.dirty = true
    · rw [if_pos flag, RoundStateMachine.handleWithContext_savedToDb]
      exact lookup
    · rw [if_neg flag]
      exact lookup
  · intro machine member
    obtain ⟨before, inMemory, rfl⟩ := mem_map.mp member
    have lookup := saved_lookup (fun _ => saved_of_dirty)
      tracked.unique.kickoffs tracked.kickoffs inMemory
    by_cases flag : before.dirty = true
    · rw [if_pos flag, handleWithContext_savedToDb]
      exact lookup
    · rw [if_neg flag]
      exact lookup
  · intro key member
    refine keys.rounds.symm.subset ?_
    rcases mem_foldl_insert member with dirty | old
    · exact (filter_sublist.map _).subset dirty
    · exact tracked.roundRows key old
  · intro key member
    refine keys.kickoffs.symm.subset ?_
    rcases mem_foldl_insert member with dirty | old
    · exact (filter_sublist.map _).subset dirty
    · exact tracked.kickoffRows key old

/-! ## Heights -/

/-- The last finalized block of the manager is the block of the chain before the next height. -/
structure AtHeight (library : BuilderLibrary) (chain : UInt32 → Block) (manager : StateManager) :
    Prop where
  positive : manager.nextHeightToProcess ≠ 0
  lastBlock : manager.lastFinalizedBlock = some (BlockCache.fromBlock library
    (chain (manager.nextHeightToProcess - 1)) (manager.nextHeightToProcess - 1))

variable {chain : UInt32 → Block}

theorem Extends.atHeight {after : StateManager} (extension : Extends self after)
    (before : AtHeight library chain self) :
    AtHeight library chain after := by
  constructor
  · rw [extension.nextHeight]
    exact before.positive
  · rw [extension.nextHeight, extension.lastBlock]
    exact before.lastBlock

/-- Below `2 ^ 31` the next height does not wrap. -/
theorem next_of_max (bound : (max (height + 1) height).toNat < 2 ^ 31) :
    max (height + 1) height = height + 1 ∧ height + 1 ≠ 0 := by
  have larger : max (height + 1) height = if height + 1 ≤ height then height else height + 1 := rfl
  have wraps : (height + 1).toNat = (height.toNat + 1) % 2 ^ 32 := UInt32.toNat_add _ _
  rw [larger] at bound ⊢
  simp only [UInt32.le_iff_toNat_le] at bound ⊢
  split_ifs at bound ⊢ with wrapped
  · omega
  · refine ⟨rfl, fun zero => ?_⟩
    rw [zero, UInt32.toNat_zero] at wrapped
    exact wrapped (Nat.zero_le _)

/-- The height that is saved is read back as the height after that of the block. -/
theorem u32TryFrom_next {next : UInt32} {blockHeight : Int32} (positive : next ≠ 0)
    (bound : next.toNat < 2 ^ 31) (converted : i32TryFrom (next - 1) = some blockHeight) :
    u32TryFrom (blockHeight + 1) = some next := by
  have before : (next - 1).toNat = next.toNat - 1 := by
    refine UInt32.toNat_sub_of_le _ _ (UInt32.le_iff_toNat_le.mpr ?_)
    exact Nat.pos_of_ne_zero fun zero => positive (UInt32.toNat_inj.mp zero)
  unfold i32TryFrom at converted
  split_ifs at converted with small
  cases converted
  have successor : Int32.ofNat (next - 1).toNat + 1 = Int32.ofNat next.toNat := by
    have split : next.toNat = next.toNat - 1 + 1 :=
      (Nat.sub_add_cancel (Nat.pos_of_ne_zero fun zero =>
        positive (UInt32.toNat_inj.mp zero))).symm
    rw [before, split, Nat.add_sub_cancel, Int32.ofNat_add]
    rfl
  have value : (Int32.ofNat next.toNat).toInt = next.toNat := Int32.toInt_ofNat_of_lt bound
  rw [successor, u32TryFrom, value, if_pos (Int.natCast_nonneg _), Int.toNat_natCast,
    UInt32.ofNat_toNat]

/-- The height of a status row. -/
theorem persistedNextHeight_of_statusRow {status : Int32 × Option Int32} {next : UInt32}
    (positive : next ≠ 0) (bound : next.toNat < 2 ^ 31)
    (height : context.cache.blockHeight = next - 1) (row : self.statusRow context = .ok status)
    {saved : StateRows} (stored : saved.status = some status) :
    persistedNextHeight env saved = some next := by
  unfold statusRow at row
  split at row
  · cases row
  · split at row
    · cases row
    · next blockHeight converted =>
        cases row
        rw [height] at converted
        unfold persistedNextHeight loadStatus
        rw [stored]
        exact u32TryFrom_next positive bound converted

/-- A save that succeeds. -/
theorem saveAfterEvent_ok (tracked : Tracked self rows) (flagged : Flagged rows)
    (heights : AtHeight library chain self) (bound : self.nextHeightToProcess.toNat < 2 ^ 31)
    (succeeded : (self.saveAfterEvent library env faults rows).outcome = .ok ()) :
    Stored (self.saveAfterEvent library env faults rows).manager
        (self.saveAfterEvent library env faults rows).rows ∧
      AtHeight library chain (self.saveAfterEvent library env faults rows).manager ∧
      Flagged (self.saveAfterEvent library env faults rows).rows ∧
      ∀ env', persistedNextHeight env' (self.saveAfterEvent library env faults rows).rows =
        some self.nextHeightToProcess := by
  unfold saveAfterEvent at succeeded ⊢
  rw [heights.lastBlock] at succeeded ⊢
  unfold saveStateToDb at succeeded ⊢
  dsimp only at succeeded ⊢
  split at succeeded
  · cases succeeded
  · cases succeeded
  · next status _ row _ =>
      refine ⟨stored_of_save tracked, ⟨heights.positive, heights.lastBlock⟩, ⟨?_, ?_⟩, ?_⟩
      · refine lookup_foldl_insert (fun _ machine => RoundStateMachine.dirty machine = true)
          flagged.rounds ?_
        exact fun machine member => (mem_filter.mp member).2
      · refine lookup_foldl_insert (fun _ machine => dirty machine = true) flagged.kickoffs ?_
        exact fun machine member => (mem_filter.mp member).2
      · intro env'
        exact persistedNextHeight_of_statusRow heights.positive bound
          (BlockCache.blockHeight_fromBlock library _ _) row rfl

/-- What an event leaves before it saves, and that the save ends well. -/
structure Prepared (library : BuilderLibrary) (chain : UInt32 → Block) (env : StateEnvironment)
    (faults : Faults) (rows : StateRows) (before ready : StateManager) (handling : Handling) :
    Prop where
  progress : Progress before ready
  unique : ready.Unique
  heights : AtHeight library chain ready
  saved : (ready.saveAfterEvent library env faults rows).outcome = .ok ()
  manager : handling.manager = (ready.saveAfterEvent library env faults rows).manager
  rows : handling.rows = (ready.saveAfterEvent library env faults rows).rows

theorem prepared_of_andThen {handling : Handling} (progress : Progress self handling.manager)
    (unique : handling.manager.Unique) (heights : AtHeight library chain handling.manager)
    (same : handling.rows = rows) (succeeded : (handling.andThen fun manager rows =>
      manager.saveAfterEvent library env faults rows).outcome = .ok ()) :
    Prepared library chain env faults rows self handling.manager
      (handling.andThen fun manager rows => manager.saveAfterEvent library env faults rows) := by
  obtain ⟨first, second⟩ := andThen_outcome succeeded
  rw [andThen_of_ok first]
  rw [same] at second ⊢
  exact ⟨progress, unique, heights, second, rfl, rfl⟩

theorem nextHeight_saveAfterEvent :
    (self.saveAfterEvent library env faults rows).manager.nextHeightToProcess =
      self.nextHeightToProcess := by
  unfold saveAfterEvent saveStateToDb
  split
  · rfl
  · split <;> rfl

/-- A block that was processed is the last finalized block. -/
theorem newFinalizedBlock_ok
    (succeeded : (self.newFinalizedBlock library env rows (chain height) height).outcome = .ok ())
    (bound : (self.newFinalizedBlock library env rows (chain height)
      height).manager.nextHeightToProcess.toNat < 2 ^ 31) :
    Progress self (self.newFinalizedBlock library env rows (chain height) height).manager ∧
      AtHeight library chain
        (self.newFinalizedBlock library env rows (chain height) height).manager := by
  unfold newFinalizedBlock at succeeded bound ⊢
  split_ifs at succeeded bound ⊢ with order
  obtain ⟨first, -⟩ := andThen_outcome succeeded
  obtain ⟨_, _, done⟩ := processBlockParallel_ok first
  have progress := done.progress
  have next := done.nextHeight
  rw [not_not.mp order] at next
  rw [andThen_of_ok first] at bound ⊢
  dsimp only [StateEnvironment.newContext] at next bound
  rw [BlockCache.blockHeight_fromBlock] at next
  rw [next] at bound
  obtain ⟨larger, positive⟩ := next_of_max bound
  refine ⟨⟨progress.rounds, progress.kickoffs, progress.roundKeys, progress.kickoffKeys⟩, ?_, ?_⟩
  · dsimp only [StateEnvironment.newContext]
    rw [next, larger]
    exact positive
  · dsimp only [StateEnvironment.newContext]
    rw [next, larger, UInt32.add_sub_cancel]

/-- An event that comes to its end. -/
theorem handleEvent_prepared (unique : self.Unique) (heights : AtHeight library chain self)
    (agrees : ∀ block height, event = .newFinalizedBlock block height → block = chain height)
    (saves : savesState env self event = true)
    (succeeded : (self.handleEvent library env faults rows event).outcome = .ok ())
    (bound : (self.handleEvent library env faults rows event).manager.nextHeightToProcess.toNat <
      2 ^ 31) :
    ∃ ready, Prepared library chain env faults rows self ready
      (self.handleEvent library env faults rows event) := by
  obtain ⟨handling, prior, same⟩ := handleEvent_saves saves
  rw [same] at succeeded bound ⊢
  cases prior with
  | @block block height =>
    cases agrees block height rfl
    obtain ⟨first, -⟩ := andThen_outcome succeeded
    rw [andThen_of_ok first] at bound
    dsimp only at bound
    rw [nextHeight_saveAfterEvent] at bound
    obtain ⟨progress, heights⟩ := newFinalizedBlock_ok first bound
    exact ⟨_, prepared_of_andThen progress (newFinalizedBlock_unique unique) heights
      newFinalizedBlock_rows succeeded⟩
  | edited edited =>
    have extension := edited.edits.extends
    exact ⟨_, prepared_of_andThen extension.toProgress (edited.edits.unique unique)
      (extension.atHeight heights) edited.rows succeeded⟩

/-! ## Loading -/

theorem forall_mem_foldl_loadMachine {μ : Type} {init : μ → StateContext → μ × StateContext}
    {property : μ → Prop}
    (keeps : ∀ machine context, property machine → property (init machine context).1)
    {saved : List μ} {loaded : List μ × StateContext}
    (before : ∀ machine ∈ loaded.1, property machine)
    (inRows : ∀ machine ∈ saved, property machine) :
    ∀ machine ∈ (saved.foldl (loadMachine init) loaded).1, property machine := by
  induction saved generalizing loaded with
  | nil => exact before
  | cons first rest ih =>
    rw [forall_mem_cons] at inRows
    refine ih ?_ inRows.2
    rw [loadMachine, forall_mem_append, forall_mem_singleton]
    exact ⟨before, keeps first _ inRows.1⟩

/-- Machines that are loaded to an empty memory are dirty, since their rows are. -/
theorem loadMachines_dirty (flagged : Flagged rows) (noRounds : self.roundMachines = [])
    (noKickoffs : self.kickoffMachines = []) :
    (∀ machine ∈ (self.loadMachines library rows context).1.roundMachines, machine.dirty = true) ∧
      ∀ machine ∈ (self.loadMachines library rows context).1.kickoffMachines,
        machine.dirty = true := by
  constructor
  · refine forall_mem_foldl_loadMachine ?_ (by simp [noRounds]) ?_
    · intro machine context dirty
      rwa [RoundStateMachine.initWithContext, RoundStateMachine.dirty_onEntry]
    · intro machine member
      obtain ⟨entry, inRows, rfl⟩ := mem_map.mp member
      exact flagged.rounds entry.1 entry.2 (AList.mem_lookup_iff.mpr inRows)
  · refine forall_mem_foldl_loadMachine ?_ (by simp [noKickoffs]) ?_
    · intro machine context dirty
      rwa [initWithContext, dirty_onEntry]
    · intro machine member
      obtain ⟨entry, inRows, rfl⟩ := mem_map.mp member
      exact flagged.kickoffs entry.1 entry.2 (AList.mem_lookup_iff.mpr inRows)

end StateManager

/-! ## Runs -/

namespace ConsumerTask

open StateManager

variable (library : BuilderLibrary) (config : StateConfig) (chain : UInt32 → Block)

/-- The last finalized block is the one before the next height, the persisted height is the next
height, and the machines in memory and the rows are the same apart from the dirty flag. -/
structure Persisted (task : ConsumerTask) : Prop where
  heights : AtHeight library chain task.inner
  persisted : ∀ env : StateEnvironment, env.config = config →
    persistedNextHeight env task.rows = some task.inner.nextHeightToProcess
  stored : Stored task.inner task.rows

/-- The configuration of a deployment and the blocks of its chain. -/
structure Follows (env : StateEnvironment) : Prop where
  config : env.config = config
  blocks : ∀ height block, env.getBlock height = .ok block → block = chain height

/-- The tasks that committed events lead to.  Each event that returns early comes after one that
was saved since the machines were last loaded; machines are loaded, after a failure or a restart,
only when none is in memory; and the heights are less than `2 ^ 31`.  The flag says that the
machines were saved since they were last loaded. -/
inductive Reached : Bool → ConsumerTask → Prop where
  | started {env : StateEnvironment} {faults : Faults} (follows : Follows config chain env)
      (succeeded : (start library env faults ⟨∅, ∅, none⟩).outcome = .ok ()) :
      Reached true (start library env faults ⟨∅, ∅, none⟩).task
  | saved {flag : Bool} {task : ConsumerTask} {env : StateEnvironment} {faults : Faults}
      {event : SystemEvent} (before : Reached flag task) (follows : Follows config chain env)
      (agrees : ∀ block height, event = .newFinalizedBlock block height → block = chain height)
      (saves : savesState env task.inner event = true)
      (committed : (task.runOnce library env faults (some event)).outcome = .ok ())
      (bound : (task.runOnce library env faults
        (some event)).task.inner.nextHeightToProcess.toNat < 2 ^ 31) :
      Reached true (task.runOnce library env faults (some event)).task
  | skipped {task : ConsumerTask} {env : StateEnvironment} {faults : Faults} {event : SystemEvent}
      (before : Reached true task) (early : savesState env task.inner event = false)
      (committed : (task.runOnce library env faults (some event)).outcome = .ok ()) :
      Reached true (task.runOnce library env faults (some event)).task
  | loaded {flag : Bool} {task : ConsumerTask} {env : StateEnvironment} {faults : Faults}
      {left : StateManager} (before : Reached flag task) (follows : Follows config chain env)
      (noRounds : left.roundMachines = []) (noKickoffs : left.kickoffMachines = [])
      (succeeded : (recoverFromError library env ⟨left, task.rows⟩ faults).outcome = .ok ()) :
      Reached false (recoverFromError library env ⟨left, task.rows⟩ faults).task

/-- What holds of each reached task. -/
structure Sound (task : ConsumerTask) : Prop where
  keyed : Keyed task.rows
  flagged : Flagged task.rows
  tracked : Tracked task.inner task.rows
  heights : AtHeight library chain task.inner
  persisted : ∀ env : StateEnvironment, env.config = config →
    persistedNextHeight env task.rows = some task.inner.nextHeightToProcess

variable {library config chain} {self : ConsumerTask}

/-- A committed event was handled without an error. -/
theorem runOnce_committed
    (committed : (self.runOnce library env faults (some event)).outcome = .ok ()) :
    (self.inner.handleEvent library env faults self.rows event).outcome = .ok () ∧
      (self.runOnce library env faults (some event)).task =
        ⟨(self.inner.handleEvent library env faults self.rows event).manager,
          (self.inner.handleEvent library env faults self.rows event).rows⟩ := by
  unfold runOnce at committed ⊢
  split at committed
  · cases committed
  · cases committed
  · contradiction
  · next message =>
      cases message
      unfold archiveAndCommit at committed ⊢
      split at committed
      · cases committed
      · cases committed
      · cases committed
      · next handled _ _ => exact ⟨handled, rfl⟩

/-- The task after a saved event. -/
theorem Sound.saved (sound : Sound library config chain self)
    (agrees : ∀ block height, event = .newFinalizedBlock block height → block = chain height)
    (saves : savesState env self.inner event = true)
    (committed : (self.runOnce library env faults (some event)).outcome = .ok ())
    (bound : (self.runOnce library env faults
      (some event)).task.inner.nextHeightToProcess.toNat < 2 ^ 31) :
    Sound library config chain (self.runOnce library env faults (some event)).task ∧
      Stored (self.runOnce library env faults (some event)).task.inner
        (self.runOnce library env faults (some event)).task.rows := by
  obtain ⟨handled, result⟩ := runOnce_committed committed
  rw [result] at bound ⊢
  obtain ⟨ready, prepared⟩ := handleEvent_prepared sound.tracked.unique sound.heights agrees saves
    handled bound
  have tracked := sound.tracked.progress prepared.progress prepared.unique
  have unique : (self.inner.handleEvent library env faults self.rows event).manager.Unique :=
    handleEvent_unique sound.tracked.unique
  have keyed : Keyed (self.inner.handleEvent library env faults self.rows event).rows :=
    handleEvent_keyed sound.keyed
  dsimp only at bound ⊢
  rw [prepared.manager] at bound unique ⊢
  rw [prepared.rows] at keyed ⊢
  rw [nextHeight_saveAfterEvent] at bound
  obtain ⟨stored, heights, flagged, persisted⟩ :=
    saveAfterEvent_ok tracked sound.flagged prepared.heights bound prepared.saved
  refine ⟨⟨keyed, flagged, stored.tracked unique, heights, fun env' _ => ?_⟩, stored⟩
  rw [nextHeight_saveAfterEvent]
  exact persisted env'

/-- The task after machines were loaded to an empty memory. -/
theorem Sound.loaded {rows : StateRows} {left : StateManager} (keyed : Keyed rows)
    (flagged : Flagged rows) (noRounds : left.roundMachines = [])
    (noKickoffs : left.kickoffMachines = []) (follows : Follows config chain env)
    {height : UInt32} (positive : height ≠ 0)
    (persisted : ∀ env : StateEnvironment, env.config = config →
      persistedNextHeight env rows = some height)
    (succeeded : (recoverFromError library env ⟨left, rows⟩ faults).outcome = .ok ()) :
    Sound library config chain (recoverFromError library env ⟨left, rows⟩ faults).task := by
  have loaded := @recover_loaded env faults library ⟨left, rows⟩ keyed succeeded noRounds noKickoffs
  have next := loaded.height
  rw [recoverFromError_rows, persisted env follows.config, some.injEq] at next
  obtain ⟨lastProcessedLcp, _, block, status, found, result⟩ :=
    reload_eq (recoverFromError_outcome.symm.trans succeeded)
  have inner := recoverFromError_inner.trans result
  obtain ⟨roundsDirty, kickoffsDirty⟩ := loadMachines_dirty flagged noRounds noKickoffs
  refine ⟨?_, ?_, ⟨loaded.unique, ?_, ?_, ?_, ?_⟩, ⟨?_, ?_⟩, ?_⟩
  · rwa [recoverFromError_rows]
  · rwa [recoverFromError_rows]
  · rw [inner]
    exact fun machine member => .inl (roundsDirty machine member)
  · rw [inner]
    exact fun machine member => .inl (kickoffsDirty machine member)
  · exact fun key member => loaded.rounds.symm.subset member
  · exact fun key member => loaded.kickoffs.symm.subset member
  · rwa [← next]
  · rw [← next]
    have same := (persisted env follows.config).symm.trans (congrArg Prod.snd status)
    cases some.inj same
    rw [if_neg positive] at found
    rw [inner, ← follows.blocks _ _ found]
    exact congrArg (fun last => some (BlockCache.fromBlock library block last)) (if_neg positive)
  · rwa [recoverFromError_rows, ← next]

/-- What holds of each reached task, and of those whose machines were saved. -/
theorem Reached.sound {flag : Bool} {task : ConsumerTask}
    (positive : config.protocolParamset.startHeight ≠ 0)
    (reached : Reached library config chain flag task) :
    Sound library config chain task ∧ (flag = true → Stored task.inner task.rows) := by
  induction reached with
  | started follows succeeded =>
    have sound := Sound.loaded keyed_empty ⟨nofun, nofun⟩ rfl rfl follows positive
      (fun env same => by rw [← same]; rfl) succeeded
    refine ⟨sound, fun _ => ?_⟩
    obtain ⟨noRounds, noKickoffs, -, rows⟩ := start_empty succeeded
    rw [rows]
    refine ⟨?_, ?_, nofun, nofun⟩
    · simp [noRounds]
    · simp [noKickoffs]
  | saved before follows agrees saves committed bound ih =>
    obtain ⟨sound, stored⟩ := ih.1.saved agrees saves committed bound
    exact ⟨sound, fun _ => stored⟩
  | skipped before early committed ih =>
    obtain ⟨handled, result⟩ := runOnce_committed committed
    obtain ⟨sameManager, sameRows⟩ := handleEvent_early early
    rw [result, sameManager, sameRows]
    exact ih
  | loaded before follows noRounds noKickoffs succeeded ih =>
    refine ⟨?_, nofun⟩
    exact Sound.loaded ih.1.keyed ih.1.flagged noRounds noKickoffs follows ih.1.heights.positive
      ih.1.persisted succeeded

/-- With a start height that is not zero, after each committed event of such a run the last
finalized block is the one before the next height, the persisted height is the next height, and
each row is equal to the machine in memory. -/
theorem persisted_of_reached {task : ConsumerTask}
    (positive : config.protocolParamset.startHeight ≠ 0)
    (reached : Reached library config chain true task) : Persisted library config chain task := by
  obtain ⟨sound, stored⟩ := reached.sound positive
  exact ⟨sound.heights, sound.persisted, stored rfl⟩

/-- The machine of an operator is created and its first round begins. -/
def Regtest.firstRound : ConsumerTask :=
  (((start Regtest.library (Regtest.environmentOf Regtest.chain) {} ⟨∅, ∅, none⟩).task.runOnce
    Regtest.library (Regtest.environmentOf Regtest.chain) {}
      (some (.newOperator Regtest.operatorData))).task.runOnce Regtest.library
    (Regtest.environmentOf Regtest.chain) {}
      (some (.newFinalizedBlock (Regtest.chain 190) 190))).task

theorem follows_environmentOf (chain : UInt32 → Block) :
    Follows Regtest.config chain (Regtest.environmentOf chain) :=
  ⟨rfl, fun _ _ found => (Except.ok.inj found).symm⟩

theorem persisted_after_first_round :
    Persisted Regtest.library Regtest.config Regtest.chain Regtest.firstRound := by
  have follows := follows_environmentOf Regtest.chain
  refine persisted_of_reached (by decide) (.saved (.saved (.started follows ?_) follows nofun ?_ ?_
    ?_) follows ?_ rfl ?_ ?_)
  · decide +kernel
  · decide +kernel
  · decide +kernel
  · decide +kernel
  · rintro block height ⟨⟩
    rfl
  · decide +kernel
  · decide +kernel

/-- A restart resumes at the height and the block of the task, and loads every saved machine
once. -/
theorem restart_resumes {flag : Bool} {task : ConsumerTask}
    (positive : config.protocolParamset.startHeight ≠ 0)
    (reached : Reached library config chain flag task) (follows : Follows config chain env)
    (succeeded : (start library env faults task.rows).outcome = .ok ()) :
    let restarted := (start library env faults task.rows).task.inner
    restarted.nextHeightToProcess = task.inner.nextHeightToProcess ∧
      restarted.lastFinalizedBlock = task.inner.lastFinalizedBlock ∧ restarted.Unique ∧
      restarted.roundKeys.Perm task.rows.roundMachines.keys ∧
      restarted.kickoffKeys.Perm task.rows.kickoffMachines.keys := by
  have sound := (reached.sound positive).1
  have heights := ((reached.loaded follows rfl rfl succeeded).sound positive).1.heights
  obtain ⟨unique, rounds, kickoffs, next⟩ := @recover_loaded env faults library
    ⟨fresh env.config.protocolParamset.startHeight, task.rows⟩ sound.keyed succeeded rfl rfl
  rw [recoverFromError_rows] at rounds kickoffs next
  have same := some.inj ((sound.persisted env follows.config).symm.trans next)
  exact ⟨same.symm, heights.lastBlock.trans (same ▸ sound.heights.lastBlock.symm), unique,
    rounds, kickoffs⟩

/-- The machine of the operator is loaded again. -/
theorem restart_resumes_first_round :
    (start Regtest.library (Regtest.environmentOf Regtest.chain) {} Regtest.firstRound.rows
      ).task.inner.roundKeys.Perm Regtest.firstRound.rows.roundMachines.keys := by
  have follows := follows_environmentOf Regtest.chain
  have reached : Reached Regtest.library Regtest.config Regtest.chain true Regtest.firstRound := by
    refine .saved (.saved (.started follows ?_) follows nofun ?_ ?_ ?_) follows ?_ rfl ?_ ?_
    case refine_5 =>
      rintro block height ⟨⟩
      rfl
    all_goals decide +kernel
  exact (restart_resumes (by decide) reached follows (by decide +kernel)).2.2.2.1

/-- An environment in which the end of a round cannot be queued. -/
def Regtest.refusingEnvironment : StateEnvironment :=
  { Regtest.environmentOf Regtest.chain with
    owner := { Regtest.owner with
      handleDuty := fun
        | .queueReadyToReimburse _ _ => .error (.error (.transaction .insufficientContext))
        | duty => Regtest.owner.handleDuty duty } }

/-- After the kickoff of the round, the block that spends its finalizer cannot be processed, the
machine is loaded again, and its operator is announced again. -/
def Regtest.skippedSave : List TaskOperation :=
  [.runOnce (Regtest.environmentOf Regtest.chain) {}
      (some (.newFinalizedBlock (Regtest.chain 191) 191)),
    .runOnce Regtest.refusingEnvironment {} (some (.newFinalizedBlock (Regtest.chain 192) 192)),
    .recoverFromError (Regtest.environmentOf Regtest.chain) {},
    .runOnce (Regtest.environmentOf Regtest.chain) {} (some (.newOperator Regtest.operatorData))]

/-- The task after some calls, and whether each of them succeeded. -/
def performAll (library : BuilderLibrary) : ConsumerTask → List TaskOperation →
    ConsumerTask × List Bool
  | task, [] => (task, [])
  | task, operation :: rest =>
    let call := task.perform library operation
    let later := performAll library call.task rest
    (later.1, call.outcome.isOk :: later.2)

/-- Whether a machine waits for the finalizer of the kickoff. -/
def Regtest.awaitsFinalizer (machine : RoundStateMachine) : Bool :=
  decide (Matcher.spentUtxo (Regtest.kickoffOutput .kickoffFinalizer) ∈ machine.matchers)

/-- The row waits for the finalizer of the kickoff, but not the machine that was loaded. -/
theorem row_differs_after_skipped_save :
    (performAll Regtest.library Regtest.firstRound Regtest.skippedSave).2 =
        [true, false, true, true] ∧
      ((performAll Regtest.library Regtest.firstRound
        Regtest.skippedSave).1.rows.roundMachines.lookup Regtest.operatorXonlyPk).map
          Regtest.awaitsFinalizer = some true ∧
      (performAll Regtest.library Regtest.firstRound
        Regtest.skippedSave).1.inner.roundMachines.map Regtest.awaitsFinalizer = [false] ∧
      ¬Persisted Regtest.library Regtest.config Regtest.chain
        (performAll Regtest.library Regtest.firstRound Regtest.skippedSave).1 := by
  refine ⟨by decide +kernel, by decide +kernel, by decide +kernel, fun persisted => ?_⟩
  have different : ¬∀ machine ∈ (performAll Regtest.library Regtest.firstRound
      Regtest.skippedSave).1.inner.roundMachines,
      ((performAll Regtest.library Regtest.firstRound
        Regtest.skippedSave).1.rows.roundMachines.lookup machine.operatorData.xonlyPk).map
          Regtest.awaitsFinalizer = some (Regtest.awaitsFinalizer machine) := by
    decide +kernel
  refine different fun machine member => ?_
  rw [persisted.stored.rounds machine member]
  rfl

end ConsumerTask

end Clementine
