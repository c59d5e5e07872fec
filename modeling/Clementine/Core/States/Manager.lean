import Clementine.Core.States.Kickoff
import Mathlib.Data.Int.Basic

/-!
# The state manager

The manager holds the round machines and the kickoff machines of its owner.  It processes the
events of its queue one after another, each in one database transaction: a finalized block moves
all machines until none of them finds an event in it any more, a new operator or kickoff gets a
machine that catches up with the blocks that were already processed.  At the end the machines
that changed are saved.  If anything fails, the transaction is rolled back and the machines are
loaded from the database again.

The owner, the blocks that the database or the node return, and the failures of database
operations are parameters of each call.  A machine is stored as it is, the modelled functions
read nothing of its serialization.
-/

namespace Clementine

/-- `SystemEvent`. -/
inductive SystemEvent where
  | newFinalizedBlock (block : Block) (height : UInt32)
  | newOperator (operatorData : OperatorData)
  | newKickoff (kickoffData : KickoffData) (kickoffHeight : UInt32) (depositData : DepositData)
      (payoutBlockhash : Witness)
  | lcpProcessed (height : UInt32)
  deriving DecidableEq

/-- The rows of `state_machines` and `state_manager_status` of one owner. -/
structure StateRows where
  kickoffMachines : AList fun _ : KickoffData => KickoffStateMachine
  roundMachines : AList fun _ : XOnlyPublicKey => RoundStateMachine
  /-- `next_height_to_process` and `last_processed_lcp`. -/
  status : Option (Int32 × Option Int32)

/-- The errors with which the manager's functions end. -/
inductive ManagerError where
  /-- Finalized block arrived to state manager out of order. -/
  | outOfOrder (expected got : UInt32)
  /-- Multiple errors occurred during state processing. -/
  | processing (errors : List StateMachineError)
  /-- The state machines did not stabilize. -/
  | notStabilized
  /-- Partial kickoff match detected. -/
  | partialMatch (kickoffData : KickoffData) (matching : Nat)
  /-- Block at the height not found. -/
  | block (height : UInt32) (text : String)
  /-- Round machine not found for operator while checking if kickoff is malicious. -/
  | roundMachine (operatorXonlyPk : XOnlyPublicKey)
  /-- Error while checking if kickoff is malicious. -/
  | malicious (failure : Failure BridgeError)
  /-- The panic "Expected CheckIfKickoffMalicious result". -/
  | unreachable
  /-- Last finalized block not found, should always be Some after initialization. -/
  | finalizedBlock
  /-- A conversion between `u32` and `i32`. -/
  | conversion (text : String)
  | database (text : String)
  deriving DecidableEq

/-- A dispatched duty, with the machine that dispatched it; the manager itself has no name. -/
structure LogEntry where
  machine : Option MachineId
  record : DutyRecord

/-- `StateManager`, without its connections. -/
structure StateManager where
  roundMachines : List RoundStateMachine
  kickoffMachines : List KickoffStateMachine
  nextHeightToProcess : UInt32
  lastProcessedLcp : Option UInt32
  lastFinalizedBlock : Option BlockCache

/-- What the manager reads from outside during a call. -/
structure StateEnvironment where
  owner : Owner
  config : StateConfig
  roundOrder : TableOrder RoundEvent
  kickoffOrder : TableOrder KickoffEvent
  /-- The block of a height, from the database or from the node. -/
  getBlock : UInt32 → Except String Block

/-- The database operations of a call that fail, with the texts of their errors. -/
structure Faults where
  beginTransaction : Option String := none
  read : Option String := none
  save : Option String := none
  load : Option String := none
  archive : Option String := none
  commit : Option String := none

/-- What a function of the manager leaves behind: in memory, in the open transaction, and the
duties that it dispatched. -/
structure Handling where
  manager : StateManager
  rows : StateRows
  log : List LogEntry
  outcome : Except ManagerError Unit

/-- Sequencing: the next function runs unless the first one failed. -/
def Handling.andThen (self : Handling) (next : StateManager → StateRows → Handling) : Handling :=
  match self.outcome with
  | .error _ => self
  | .ok _ =>
    let rest := next self.manager self.rows
    { rest with log := self.log ++ rest.log }

/-- `StateManager::new_context_with_block_cache`. -/
def StateEnvironment.newContext (self : StateEnvironment) (cache : BlockCache) : StateContext where
  owner := self.owner
  cache
  config := self.config
  roundOrder := self.roundOrder
  kickoffOrder := self.kickoffOrder
  errors := []
  duties := []

namespace StateManager

section Manager

variable (library : BuilderLibrary) (env : StateEnvironment)

/-! ## Processing a block -/

/-- `StateManager::update_machines`: the machines without an event, and those that handled one
with their contexts. -/
def updateMachines {μ : Type} (process : μ → Option (μ × StateContext)) (machines : List μ) :
    List μ × List (μ × StateContext) :=
  (machines.filter fun machine => (process machine).isNone, machines.filterMap process)

/-- The machines that have no event in a block any more, and the duties so far. -/
structure Settled where
  kickoffMachines : List KickoffStateMachine
  roundMachines : List RoundStateMachine
  log : List LogEntry

/-- The duties that machines dispatched while they handled an event. -/
def logOf {μ : Type} (name : μ → MachineId) (processed : List (μ × StateContext)) :
    List LogEntry :=
  processed.flatMap fun result => result.2.duties.map fun record => ⟨some (name result.1), record⟩

/-- The errors of the contexts. -/
def errorsOf {μ : Type} (processed : List (μ × StateContext)) : List StateMachineError :=
  processed.flatMap fun result => result.2.errors

/-- The machines that settled, added to those that settled before. -/
def Settled.add (self : Settled) (kickoffMachines : List KickoffStateMachine)
    (roundMachines : List RoundStateMachine) (log : List LogEntry) : Settled where
  kickoffMachines := self.kickoffMachines ++ kickoffMachines
  roundMachines := self.roundMachines ++ roundMachines
  log := self.log ++ log

/-- The loop of `process_block_parallel`, with the number of iterations that are left. -/
def settle (context : StateContext) (fuel : Nat) (settled : Settled)
    (kickoffs : List (KickoffStateMachine × StateContext))
    (rounds : List (RoundStateMachine × StateContext)) : Except ManagerError Settled :=
  if kickoffs = [] ∧ rounds = [] then .ok settled
  else if errorsOf kickoffs ++ errorsOf rounds ≠ [] then
    .error (.processing (errorsOf kickoffs ++ errorsOf rounds))
  else match fuel with
    | 0 => .error .notStabilized
    | fuel + 1 =>
      let kickoffUpdate :=
        updateMachines (·.processWithCtx library context) (kickoffs.map Prod.fst)
      let roundUpdate :=
        updateMachines (·.processWithCtx library context) (rounds.map Prod.fst)
      settle context fuel (settled.add kickoffUpdate.1 roundUpdate.1
          (logOf KickoffStateMachine.machineId kickoffs ++
            logOf RoundStateMachine.machineId rounds))
        kickoffUpdate.2 roundUpdate.2

/-- The iterations that the loop can make. -/
def maxIterations : Nat := 100001

variable (self : StateManager)

/-- `StateManager::process_block_parallel`; the machines are taken out of the manager, and lost
if it fails. -/
def processBlockParallel (context : StateContext) (rows : StateRows) : Handling :=
  let kickoffUpdate :=
    updateMachines (·.processWithCtx library context) self.kickoffMachines
  let roundUpdate := updateMachines (·.processWithCtx library context) self.roundMachines
  match settle library context maxIterations ⟨kickoffUpdate.1, roundUpdate.1, []⟩
      kickoffUpdate.2 roundUpdate.2 with
  | .error error =>
    ⟨{ self with kickoffMachines := [], roundMachines := [] }, rows, [], .error error⟩
  | .ok settled =>
    ⟨{ self with
      kickoffMachines := settled.kickoffMachines
      roundMachines := settled.roundMachines
      nextHeightToProcess := max (context.cache.blockHeight + 1) self.nextHeightToProcess },
      rows, settled.log, .ok ()⟩

/-- The heights `start..finish`. -/
def heights (start finish : UInt32) : List UInt32 :=
  (List.range' start.toNat (finish.toNat - start.toNat)).map UInt32.ofNat

/-- One block of `process_and_add_new_states_from_height`, for the temporary manager. -/
def catchUpBlock (manager : StateManager) (rows : StateRows) (height : UInt32) : Handling :=
  match env.getBlock height with
  | .error text => ⟨manager, rows, [], .error (.block height text)⟩
  | .ok block =>
    manager.processBlockParallel library
      (env.newContext (BlockCache.fromBlock library block height)) rows

/-- The blocks that new machines catch up with. -/
def catchUp : List UInt32 → StateManager → StateRows → Handling
  | [], manager, rows => ⟨manager, rows, [], .ok ()⟩
  | height :: rest, manager, rows =>
    (catchUpBlock library env manager rows height).andThen (catchUp rest)

/-- `StateManager::process_and_add_new_states_from_height`. -/
def processAndAddNewStatesFromHeight (rows : StateRows)
    (newRoundMachines : List RoundStateMachine) (newKickoffMachines : List KickoffStateMachine)
    (startHeight : UInt32) : Handling :=
  let temporary :=
    { self with roundMachines := newRoundMachines, kickoffMachines := newKickoffMachines }
  let caught := catchUp library env (heights startHeight self.nextHeightToProcess) temporary rows
  match caught.outcome with
  | .error error => ⟨self, rows, caught.log, .error error⟩
  | .ok _ =>
    ⟨{ self with
      roundMachines := self.roundMachines ++ caught.manager.roundMachines
      kickoffMachines := self.kickoffMachines ++ caught.manager.kickoffMachines },
      rows, caught.log, .ok ()⟩

/-! ## Malicious kickoffs -/

/-- `get_round_machine` and a change of the machine that it returns. -/
def updateRoundMachine (operatorXonlyPk : XOnlyPublicKey)
    (change : RoundStateMachine → RoundStateMachine) :
    List RoundStateMachine → List RoundStateMachine
  | [] => []
  | machine :: rest =>
    if machine.operatorData.xonlyPk = operatorXonlyPk then change machine :: rest
    else machine :: updateRoundMachine operatorXonlyPk change rest

/-- The manager after `CheckIfKickoffMalicious` was answered. -/
def setChallenged (context : StateContext) (kickoffData : KickoffData)
    (wasChallengedBefore challenged : Bool) : StateManager :=
  if challenged && !wasChallengedBefore then
    { self with
      roundMachines := updateRoundMachine kickoffData.operatorXonlyPk
        (fun machine => (machine.handleWithContext library
          (.setChallenged kickoffData.roundIdx) context).1) self.roundMachines }
  else self

/-- `StateManager::check_if_kickoff_malicious`. -/
def checkIfKickoffMalicious (context : StateContext) (payoutBlockhash : Witness)
    (kickoffData : KickoffData) (depositData : DepositData) (rows : StateRows) : Handling :=
  match self.roundMachines.find? fun machine =>
      machine.operatorData.xonlyPk = kickoffData.operatorXonlyPk with
  | none => ⟨self, rows, [], .error (.roundMachine kickoffData.operatorXonlyPk)⟩
  | some roundMachine =>
    let wasChallengedBefore := decide (kickoffData.roundIdx ∈ roundMachine.challengedRounds)
    let duty := Duty.checkIfKickoffMalicious payoutBlockhash depositData kickoffData
      wasChallengedBefore
    let log := [⟨none, ⟨duty, context.owner.handleDuty duty⟩⟩]
    match context.owner.handleDuty duty with
    | .error failure => ⟨self, rows, log, .error (.malicious failure)⟩
    | .ok (.checkIfKickoffMalicious challenged) =>
      ⟨self.setChallenged library context kickoffData wasChallengedBefore challenged, rows,
        log, .ok ()⟩
    | .ok _ => ⟨self, rows, log, .error .unreachable⟩

/-! ## Saving -/

/-- `i32::try_from` of a `u32`. -/
def i32TryFrom (value : UInt32) : Option Int32 :=
  if value.toNat < 2 ^ 31 then some (Int32.ofNat value.toNat) else none

/-- `u32::try_from` of an `i32`. -/
def u32TryFrom (value : Int32) : Option UInt32 :=
  if 0 ≤ value.toInt then some (UInt32.ofNat value.toInt.toNat) else none

/-- `Database::save_state_machines`, for machines that are dirty. -/
def saveStateMachines (rows : StateRows) (kickoffMachines : List KickoffStateMachine)
    (roundMachines : List RoundStateMachine) (status : Int32 × Option Int32) : StateRows where
  kickoffMachines := kickoffMachines.foldl
    (fun saved machine => saved.insert machine.kickoffData machine) rows.kickoffMachines
  roundMachines := roundMachines.foldl
    (fun saved machine => saved.insert machine.operatorData.xonlyPk machine) rows.roundMachines
  status := some status

/-- The manager after `SavedToDb` was sent to all dirty machines. -/
def markSaved (context : StateContext) : StateManager :=
  { self with
    kickoffMachines := self.kickoffMachines.map fun machine =>
      if machine.dirty then (machine.handleWithContext library .savedToDb context).1 else machine
    roundMachines := self.roundMachines.map fun machine =>
      if machine.dirty then (machine.handleWithContext library .savedToDb context).1 else machine }

/-- The status row, of the last processed LCP and the height of the block of the context. -/
def statusRow (context : StateContext) : Except ManagerError (Int32 × Option Int32) :=
  match self.lastProcessedLcp.map i32TryFrom with
  | some none => .error (.conversion "Failed to convert last_processed_lcp to i32")
  | lastProcessedLcp =>
    match i32TryFrom context.cache.blockHeight with
    | none => .error (.conversion "Failed to convert block_height to i32")
    | some blockHeight => .ok (blockHeight + 1, lastProcessedLcp.join)

/-- `StateManager::save_state_to_db`. -/
def saveStateToDb (faults : Faults) (context : StateContext) (rows : StateRows) : Handling :=
  match self.statusRow context, faults.save with
  | .error error, _ => ⟨self, rows, [], .error error⟩
  | .ok _, some text => ⟨self, rows, [], .error (.database text)⟩
  | .ok status, none =>
    ⟨self.markSaved library context, saveStateMachines rows (self.kickoffMachines.filter (·.dirty))
        (self.roundMachines.filter (·.dirty)) status, [], .ok ()⟩

/-- The end of `handle_event`. -/
def saveAfterEvent (faults : Faults) (rows : StateRows) : Handling :=
  match self.lastFinalizedBlock with
  | none => ⟨self, rows, [], .error .finalizedBlock⟩
  | some cache => self.saveStateToDb library faults (env.newContext cache) rows

/-! ## Events -/

/-- `NewFinalizedBlock`. -/
def newFinalizedBlock (rows : StateRows) (block : Block) (height : UInt32) : Handling :=
  if self.nextHeightToProcess ≠ height then
    ⟨self, rows, [], .error (.outOfOrder self.nextHeightToProcess height)⟩
  else
    let cache := BlockCache.fromBlock library block height
    (self.processBlockParallel library (env.newContext cache) rows).andThen
      fun manager rows => ⟨{ manager with lastFinalizedBlock := some cache }, rows, [], .ok ()⟩

/-- The context in which a new machine is initialised: the block before its first one. -/
def initContext (startHeight : UInt32) : Except ManagerError StateContext :=
  let prevHeight := if startHeight = 0 then 0 else startHeight - 1
  match env.getBlock prevHeight with
  | .error text => .error (.block prevHeight text)
  | .ok block => .ok (env.newContext (BlockCache.fromBlock library block prevHeight))

/-- The duties of a machine's initialisation. -/
def initLog (machine : MachineId) (context : StateContext) : List LogEntry :=
  context.duties.map fun record => ⟨some machine, record⟩

/-- `NewOperator` for an operator without a machine. -/
def newOperator (rows : StateRows) (operatorData : OperatorData) : Handling :=
  match initContext library env env.config.protocolParamset.startHeight with
  | .error error => ⟨self, rows, [], .error error⟩
  | .ok context =>
    let initialized := (RoundStateMachine.new operatorData).initWithContext library context
    let log := initLog initialized.1.machineId initialized.2
    if initialized.2.errors ≠ [] then
      ⟨self, rows, log, .error (.processing initialized.2.errors)⟩
    else
      let added := self.processAndAddNewStatesFromHeight library env rows [initialized.1] []
        env.config.protocolParamset.startHeight
      { added with log := log ++ added.log }

/-- The check for malice of a new kickoff whose LCP was processed before. -/
def checkNewKickoff (context : StateContext) (kickoffData : KickoffData) (kickoffHeight : UInt32)
    (depositData : DepositData) (payoutBlockhash : Witness) (rows : StateRows) : Handling :=
  match self.lastProcessedLcp with
  | none => ⟨self, rows, [], .ok ()⟩
  | some lastLcpHeight =>
    if kickoffHeight ≤ lastLcpHeight then
      self.checkIfKickoffMalicious library context payoutBlockhash kickoffData depositData rows
    else ⟨self, rows, [], .ok ()⟩

/-- `NewKickoff` for a kickoff without a machine. -/
def newKickoff (rows : StateRows) (kickoffData : KickoffData) (kickoffHeight : UInt32)
    (depositData : DepositData) (payoutBlockhash : Witness) : Handling :=
  match initContext library env kickoffHeight with
  | .error error => ⟨self, rows, [], .error error⟩
  | .ok context =>
    let initialized := (KickoffStateMachine.new kickoffData kickoffHeight depositData
      payoutBlockhash).initWithContext library context
    let log := initLog initialized.1.machineId initialized.2
    if initialized.2.errors ≠ [] then
      ⟨self, rows, log, .error (.processing initialized.2.errors)⟩
    else
      let added := self.processAndAddNewStatesFromHeight library env rows [] [initialized.1]
        kickoffHeight
      Handling.andThen { added with log := log ++ added.log } fun manager rows =>
        manager.checkNewKickoff library context kickoffData kickoffHeight depositData
          payoutBlockhash rows

/-- How many of the three other fields of a machine and a new kickoff agree. -/
def matchCount (machine : KickoffStateMachine) (kickoffHeight : UInt32) (depositData : DepositData)
    (payoutBlockhash : Witness) : Nat :=
  [decide (machine.depositData = depositData), decide (machine.payoutBlockhash = payoutBlockhash),
    decide (machine.kickoffHeight = kickoffHeight)].count true

/-- The checks of `LCPProcessed`, one after another. -/
def checkKickoffs (context : StateContext) :
    List (Witness × KickoffData × DepositData) → StateManager → StateRows → Handling
  | [], manager, rows => ⟨manager, rows, [], .ok ()⟩
  | kickoff :: rest, manager, rows =>
    (manager.checkIfKickoffMalicious library context kickoff.1 kickoff.2.1 kickoff.2.2
      rows).andThen (checkKickoffs context rest)

/-- The kickoffs of a height. -/
def kickoffsToCheck (height : UInt32) : List (Witness × KickoffData × DepositData) :=
  (self.kickoffMachines.filter fun machine => machine.kickoffHeight = height).map fun machine =>
    (machine.payoutBlockhash, machine.kickoffData, machine.depositData)

/-- The checks of all kickoffs of a height; the block is needed only if there is one. -/
def checkHeight (rows : StateRows) (height : UInt32) : Handling :=
  match self.kickoffsToCheck height, self.lastFinalizedBlock with
  | [], _ => ⟨self, rows, [], .ok ()⟩
  | _ :: _, none => ⟨self, rows, [], .error .finalizedBlock⟩
  | kickoff :: rest, some cache =>
    checkKickoffs library (env.newContext cache) (kickoff :: rest) self rows

/-- `LCPProcessed`. -/
def lcpProcessed (rows : StateRows) (height : UInt32) : Handling :=
  (self.checkHeight library env rows height).andThen fun manager rows =>
    ⟨{ manager with lastProcessedLcp := some height }, rows, [], .ok ()⟩

/-- `StateManager::handle_event`; events about known or irrelevant machines return early,
without saving. -/
def handleEvent (faults : Faults) (rows : StateRows) (event : SystemEvent) : Handling :=
  match event with
  | .newFinalizedBlock block height =>
    (self.newFinalizedBlock library env rows block height).andThen fun manager rows =>
      manager.saveAfterEvent library env faults rows
  | .newOperator operatorData =>
    if self.roundMachines.any fun machine =>
        machine.operatorData.xonlyPk = operatorData.xonlyPk then
      ⟨self, rows, [], .ok ()⟩
    else
      (self.newOperator library env rows operatorData).andThen fun manager rows =>
        manager.saveAfterEvent library env faults rows
  | .newKickoff kickoffData kickoffHeight depositData payoutBlockhash =>
    if env.owner.isKickoffRelevantForOwner kickoffData = false then ⟨self, rows, [], .ok ()⟩
    else match self.kickoffMachines.find? fun machine => machine.kickoffData = kickoffData with
      | some machine =>
        let matching := matchCount machine kickoffHeight depositData payoutBlockhash
        if matching = 3 then ⟨self, rows, [], .ok ()⟩
        else ⟨self, rows, [], .error (.partialMatch kickoffData matching)⟩
      | none =>
        (self.newKickoff library env rows kickoffData kickoffHeight depositData
          payoutBlockhash).andThen fun manager rows =>
            manager.saveAfterEvent library env faults rows
  | .lcpProcessed height =>
    (self.lcpProcessed library env rows height).andThen fun manager rows =>
      manager.saveAfterEvent library env faults rows

/-! ## Loading -/

/-- A machine that is loaded: it runs the entry action of its state and is pushed. -/
def loadMachine {μ : Type} (init : μ → StateContext → μ × StateContext)
    (loaded : List μ × StateContext) (row : μ) : List μ × StateContext :=
  (loaded.1 ++ [(init row loaded.2).1], (init row loaded.2).2)

/-- The manager with the rows pushed to its machines, and the context of their entry actions. -/
def loadMachines (rows : StateRows) (context : StateContext) : StateManager × StateContext :=
  let kickoffs := (rows.kickoffMachines.entries.map Sigma.snd).foldl
    (loadMachine fun machine context => machine.initWithContext library context)
    (self.kickoffMachines, context)
  let rounds := (rows.roundMachines.entries.map Sigma.snd).foldl
    (loadMachine fun machine context => machine.initWithContext library context)
    (self.roundMachines, kickoffs.2)
  ({ self with kickoffMachines := kickoffs.1, roundMachines := rounds.1 }, rounds.2)

/-- The last part of the reload: errors of entry actions, and the commit. -/
def finishReload (faults : Faults) (rows : StateRows) (loaded : StateManager × StateContext) :
    Handling :=
  ⟨loaded.1, rows, loaded.2.duties.map fun record => ⟨none, record⟩,
    if loaded.2.errors ≠ [] then .error (.processing loaded.2.errors)
    else match faults.commit with
      | some text => .error (.database text)
      | none => .ok ()⟩

/-- The part of the reload after the status was read. -/
def reloadMachines (faults : Faults) (rows : StateRows) : Handling :=
  let lastHeight := if self.nextHeightToProcess = 0 then 0 else self.nextHeightToProcess - 1
  match env.getBlock lastHeight with
  | .error text => ⟨self, rows, [], .error (.block lastHeight text)⟩
  | .ok block =>
    let cache := BlockCache.fromBlock library block lastHeight
    let manager := { self with lastFinalizedBlock := some cache }
    match faults.load with
    | some text => ⟨manager, rows, [], .error (.database text)⟩
    | none =>
      finishReload faults rows (manager.loadMachines library rows (env.newContext cache))

/-- The status as it is loaded: no row stands for the start height. -/
def loadStatus (rows : StateRows) : Except ManagerError (Option UInt32) × Option UInt32 :=
  (match rows.status.bind Prod.snd with
    | none => .ok none
    | some lcp =>
      match u32TryFrom lcp with
      | none => .error (.conversion "Last processed LCP doesn't fit into u32")
      | some lcp => .ok (some lcp),
    match rows.status with
    | none => some env.config.protocolParamset.startHeight
    | some status => u32TryFrom status.1)

/-- `StateManager::reload_state_manager_from_db`. -/
def reloadStateManagerFromDb (faults : Faults) (rows : StateRows) : Handling :=
  match faults.beginTransaction, faults.read with
  | some text, _ => ⟨self, rows, [], .error (.database text)⟩
  | none, some text => ⟨self, rows, [], .error (.database text)⟩
  | none, none =>
    match loadStatus env rows with
    | (.error error, _) => ⟨self, rows, [], .error error⟩
    | (.ok lastProcessedLcp, none) =>
      ⟨{ self with lastProcessedLcp }, rows, [], .error (.conversion "IntConversionError")⟩
    | (.ok lastProcessedLcp, some nextHeightToProcess) =>
      reloadMachines library env { self with lastProcessedLcp, nextHeightToProcess } faults rows

end Manager

end StateManager

/-! ## The task -/

/-- The manager of `MessageConsumerTask` in memory, and what is committed in the database. -/
structure ConsumerTask where
  inner : StateManager
  rows : StateRows

/-- A call of the task: the task after it, the duties that were committed, and its result. -/
structure TaskCall where
  task : ConsumerTask
  committed : List LogEntry
  outcome : Except ManagerError Unit

namespace ConsumerTask

variable (library : BuilderLibrary) (env : StateEnvironment) (self : ConsumerTask)

/-- A call that fails: the transaction is rolled back, the memory stays as it was left. -/
def rollback (inner : StateManager) (error : ManagerError) : TaskCall :=
  ⟨{ self with inner }, [], .error error⟩

/-- The end of `run_once` after the event was handled. -/
def archiveAndCommit (faults : Faults) (handling : Handling) : TaskCall :=
  match handling.outcome, faults.archive, faults.commit with
  | .error error, _, _ => self.rollback handling.manager error
  | .ok _, some text, _ => self.rollback handling.manager (.database text)
  | .ok _, none, some text => self.rollback handling.manager (.database text)
  | .ok _, none, none => ⟨⟨handling.manager, handling.rows⟩, handling.log, .ok ()⟩

/-- `MessageConsumerTask::run_once`, with the message that the queue returns. -/
def runOnce (faults : Faults) (message : Option SystemEvent) : TaskCall :=
  match faults.beginTransaction, faults.read, message with
  | some text, _, _ => self.rollback self.inner (.database text)
  | none, some text, _ => self.rollback self.inner (.database text)
  | none, none, none =>
    match faults.commit with
    | some text => self.rollback self.inner (.database text)
    | none => ⟨self, [], .ok ()⟩
  | none, none, some event =>
    self.archiveAndCommit faults (self.inner.handleEvent library env faults self.rows event)

/-- `MessageConsumerTask::recover_from_error`. -/
def recoverFromError (faults : Faults) : TaskCall :=
  let reloaded := self.inner.reloadStateManagerFromDb library env faults self.rows
  match reloaded.outcome with
  | .error error => self.rollback reloaded.manager error
  | .ok _ => ⟨⟨reloaded.manager, self.rows⟩, reloaded.log, .ok ()⟩

/-- The manager that `StateManager::new` reloads. -/
def fresh (startHeight : UInt32) : StateManager where
  roundMachines := []
  kickoffMachines := []
  nextHeightToProcess := startHeight
  lastProcessedLcp := none
  lastFinalizedBlock := none

/-- The task of a manager that `StateManager::new` returns. -/
def start (faults : Faults) (rows : StateRows) : TaskCall :=
  recoverFromError library env ⟨fresh env.config.protocolParamset.startHeight, rows⟩ faults

end ConsumerTask

/-! ## A small deployment -/

namespace Regtest

open ByteNumeral

/-- The first kickoff of the first round. -/
def kickoffData : KickoffData := ⟨operatorXonlyPk, .round 0, 0⟩

/-- The transaction id of the first round. -/
def roundTxid : Txid :=
  beBytes 32 0x4c29cbf9d1dad900d10e4e6e0af42d6539f42f09e4703b69f7a4aeacaac9ccf6

/-- The transaction id of the first ready-to-reimburse transaction. -/
def readyToReimburseTxid : Txid :=
  beBytes 32 0x1ce23ae664972b8c55cc38c2946802e8494f2181e38016c669dc167ab0dfc7b9

/-- The transaction id of the kickoff. -/
def kickoffTxid : Txid :=
  beBytes 32 0xbd93537f57d720df6272481626bf0d8c711e03947e4cd928de560bb849b56d9b

/-- An output of the kickoff. -/
def kickoffOutput (vout : UtxoVout) : OutPoint := ⟨kickoffTxid, vout.getVout⟩

/-- The output that carries the collateral in the first round. -/
def burnConnector : OutPoint := ⟨roundTxid, 0⟩

/-- The outputs that the transaction of a type spends. -/
def spendsOf : TransactionType → List OutPoint
  | .round => [collateral]
  | .readyToReimburse => [burnConnector]
  | .kickoff => [⟨roundTxid, 1⟩]
  | .assertTimeout index =>
    [kickoffOutput (.assert index), kickoffOutput .kickoffFinalizer, burnConnector]
  | .latestBlockhashTimeout =>
    [kickoffOutput .latestBlockhash, kickoffOutput .kickoffFinalizer, burnConnector]
  | .watchtowerChallengeTimeout index =>
    [kickoffOutput (.watchtowerChallenge index), kickoffOutput (.watchtowerChallengeAck index)]
  | .operatorChallengeNack index =>
    [kickoffOutput (.watchtowerChallengeAck index), kickoffOutput .kickoffFinalizer, burnConnector]
  | .challengeTimeout => [kickoffOutput .challenge, kickoffOutput .kickoffFinalizer]
  | _ => []

/-- The outputs of the transaction of a type. -/
def outputsOf : TransactionType → List TxOut
  | .round => List.replicate 3 ⟨330, Recorded.p2tr operatorXonlyPk⟩
  | .readyToReimburse => [⟨330, Recorded.p2tr operatorXonlyPk⟩]
  | _ => [Recorded.anchorOutput]

/-- The handler of a type. -/
def handlerOf (type : TransactionType) : TxHandler where
  transactionType := type
  version := 3
  lockTime := 0
  txins := (spendsOf type).map fun outpoint =>
    ⟨⟨outpoint, ⟨330, []⟩, [], none⟩, 0xFFFFFFFD, none, .keySpend, .normalSignature .noSignature⟩
  txouts := (outputsOf type).map .fromPartial

/-- The transaction ids of the assert timeouts. -/
def assertTimeoutTxids : List Txid :=
  (List.range numberOfAssertTxs).map fun index => beBytes 32 (0x10000 + index)

/-- The types of all handlers of a round with a kickoff. -/
def handlerTypes : List TransactionType :=
  [.round, .readyToReimburse, .kickoff, .latestBlockhashTimeout, .watchtowerChallengeTimeout 0,
    .operatorChallengeNack 0, .challengeTimeout] ++
    (List.range numberOfAssertTxs).map .assertTimeout

/-- The transaction ids of these handlers. -/
def handlerTxids : List Txid :=
  [roundTxid, readyToReimburseTxid, kickoffTxid,
    beBytes 32 0x1493449f4ce95c089770264bf026245fa08a6ba4f8186beb09789cc9d8c745e6,
    beBytes 32 0x98ebbc83cf413e7f71da0f4e7e68bb23421880b120cdb3521984cd3ba6f1d736,
    beBytes 32 0x436d155da21fd7bc6e446b47299009c741faad394635e1710b22168183150495,
    beBytes 32 0xefb0d724c6ba3a6483f56d862372d05339ae13b167576f610df46bb9cbe39526] ++
    assertTimeoutTxids

/-- The outputs that a transaction of the deployment spends, with its transaction id: the
handlers, a challenge, a watchtower challenge, a latest block hash, and a transaction that spends
the kickoff finalizer. -/
def txidTable : List (List OutPoint × Txid) :=
  (handlerTypes.map spendsOf).zip handlerTxids ++ [([kickoffOutput .challenge],
        beBytes 32 0x7fc1c1d30f0958e674f0d49487af6d577fa5fb2db6470e29d8f89cec0c952eb3),
      ([kickoffOutput (.watchtowerChallenge 0)],
        beBytes 32 0x71e7f7a1a0be3f9c868860ba5a9c6fc5bb081d193f7ddad5df5a550da2cb53d6),
      ([kickoffOutput .latestBlockhash],
        beBytes 32 0xb0d79db0f3d71df408fb7f7362b17bd9fda9c68e3eda0aab6814c216f9b5f037),
      ([kickoffOutput .kickoffFinalizer],
        beBytes 32 0x25e4772f34e1fb7ebd8989f4b44840867c6e7eff0820de0d0675b7350ad30d82)]

/-- The functions of other crates, on the data of the deployment. -/
def library : BuilderLibrary where
  toCircuitLibrary :=
    { Recorded.library with
      computeTxid := fun tx => (txidTable.lookup tx.spends).getD zeroBytes }
  taprootMerkleRoot _ := none
  tapTweak key _ := key
  checksigVerifyAndClearStack _ _ _ := []
  tapLeafHash _ := zeroBytes
  taprootKeySpendSignatureHash _ _ _ _ := none
  taprootScriptSpendSignatureHash _ _ _ _ _ := none
  fromMusig2Pks _ := none
  createAdditionalReplacableDisproveScriptWithDummy _ _ _ _ _ := []
  replacePlaceholdersInScript script _ _ := script
  getG16VerifierDisproveScripts _ := none
  deriveBitvmAssertPk _ _ _ _ _ := none
  getEvmAddress _ := none
  xOnlyPublicKeyFromSlice _ := true
  bridgeCircuitConstant _ := zeroBytes

def config : StateConfig := ⟨paramset, 216⟩

/-- An owner that knows the kickoff and finds it malicious. -/
def owner : Owner where
  handleDuty
    | .checkIfKickoff txid _ _ => .ok (.checkIfKickoff (txid = kickoffTxid))
    | .checkIfKickoffMalicious _ _ _ _ => .ok (.checkIfKickoffMalicious true)
    | _ => .ok .handled
  createTxhandlers _ _ := .ok (TxHandlers.insertAll ∅ (handlerTypes.map handlerOf))
  isKickoffRelevantForOwner _ := true

/-- Tables are iterated from the newest entry. -/
def tableOrder (ε : Type) : TableOrder ε where
  iter matchers := matchers.entries
  perm _ := .refl _

/-- The block of a height with the given transactions. -/
def blockWith (height : UInt32) (txdata : List CircuitTransaction) : Block where
  header := ⟨2, zeroBytes, zeroBytes, 1700000000, 0x207FFFFF, height⟩
  txdata

/-- A transaction that spends the given outputs. -/
def spendingTx (spends : List OutPoint) : CircuitTransaction where
  version := 3
  lockTime := 0
  input := spends.map fun outpoint => ⟨outpoint, [], 0xFFFFFFFD, [[1]]⟩
  output := [Recorded.anchorOutput]

/-- All blocks are empty. -/
def environment : StateEnvironment where
  owner
  config
  roundOrder := tableOrder _
  kickoffOrder := tableOrder _
  getBlock height := .ok (blockWith height [])

/-- The round, the kickoff and the spending of its finalizer, in consecutive blocks. -/
def chain (height : UInt32) : Block :=
  blockWith height
    (match height with
    | 190 => [spendingTx (spendsOf .round)]
    | 191 => [spendingTx (spendsOf .kickoff)]
    | 192 => [spendingTx [kickoffOutput .kickoffFinalizer]]
    | _ => [])

/-- The environment with the blocks of a chain. -/
def environmentOf (chain : UInt32 → Block) : StateEnvironment :=
  { environment with getBlock := fun height => .ok (chain height) }

/-- The task that `StateManager::new` starts on an empty database. -/
def task : ConsumerTask := (ConsumerTask.start library environment {} ⟨∅, ∅, none⟩).task

end Regtest

end Clementine
