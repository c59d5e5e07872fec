import Clementine.Core.Builder.Creator

/-!
# What the built transactions spend

Builders are described by the outputs that their transactions spend and the names of the
signatures they need.  Rounds form a chain, and no transaction of the challenge game takes the
place of the kickoff.
-/

namespace Clementine

open ExceptRun

/-! ## Single transactions -/

variable {library : BuilderLibrary} {paramset : ProtocolParamset} {txhandler : TxHandler}

theorem connectTxhandler_type {type : TransactionType} {version : Int32}
    {inputs : List HandlerInput} {txouts : List UnspentTxOut}
    (built : connectTxhandler library type version inputs txouts = .ok txhandler) :
    txhandler.transactionType = type := by
  obtain ⟨_, _, finished⟩ := bind_ok_iff.mp built
  cases finished
  rfl

theorem SpendableTxIn.fromScripts_previousOutpoint {outpoint : OutPoint} {value : UInt64}
    {scripts : List SpendableScript} {keyPath : Option XOnlyPublicKey} {spendable : SpendableTxIn}
    (built : SpendableTxIn.fromScripts library outpoint value scripts keyPath = .ok spendable) :
    spendable.previousOutpoint = outpoint := by
  obtain ⟨output, -, finished⟩ := bind_ok_iff.mp built
  cases finished
  rfl

variable {depositData : DepositData}

theorem createMoveToVaultTxhandler_type
    (built : createMoveToVaultTxhandler library depositData paramset = .ok txhandler) :
    txhandler.transactionType = .moveToVault := by
  simp only [createMoveToVaultTxhandler, bind_ok_iff] at built
  obtain ⟨_, _, _, _, _, _, _, _, finished⟩ := built
  cases finished
  rfl

/-- The output that the input of a round spends. -/
def RoundTxInput.outpoint : RoundTxInput → OutPoint
  | .prevout spendable => spendable.previousOutpoint
  | .collateral outpoint _ => outpoint

variable {operatorXonlyPk : XOnlyPublicKey} {input : RoundTxInput}

theorem RoundTxInput.toSpentTxIn_eq_ok {txin : SpentTxIn}
    (built : input.toSpentTxIn library operatorXonlyPk paramset = .ok txin) :
    txin.spendable.previousOutpoint = input.outpoint := by
  cases input with
  | prevout spendable =>
    cases built
    rfl
  | collateral outpoint amount =>
    obtain ⟨spendable, spent, finished⟩ := bind_ok_iff.mp built
    cases finished
    exact SpendableTxIn.fromScripts_previousOutpoint (liftPanic_eq_ok.mp spent)

theorem createRoundTxhandler_shape {pubkeys : List WinternitzPublicKey}
    (built : createRoundTxhandler library operatorXonlyPk input pubkeys paramset = .ok txhandler) :
    txhandler.transactionType = .round ∧ txhandler.spends = [input.outpoint] := by
  simp only [createRoundTxhandler, bind_ok_iff] at built
  obtain ⟨txin, spent, _, _, _, _, _, _, _, _, _, _, _, _, finished⟩ := built
  cases finished
  simp [TxHandler.finalize, TxHandler.spends, RoundTxInput.toSpentTxIn_eq_ok spent]

variable {round : TxHandler}

theorem createReadyToReimburseTxhandler_shape
    (built : createReadyToReimburseTxhandler library round operatorXonlyPk paramset =
      .ok txhandler) :
    txhandler.transactionType = .readyToReimburse ∧
      txhandler.spends = [round.outpoint library .collateralInRound] := by
  simp only [createReadyToReimburseTxhandler, bind_ok_iff] at built
  obtain ⟨txin, spent, _, _, _, _, finished⟩ := built
  cases finished
  simp [TxHandler.finalize, TxHandler.spends, HandlerInput.toSpentTxIn_eq_ok spent]

theorem createKickoffTxhandler_type {kickoffData : KickoffData} {round move : TxHandler}
    {assertScripts latestBlockhashScript : AssertScripts} {disprovePath : DisprovePath}
    {additionalScript : List UInt8} {hashes : List PublicHash}
    (built : createKickoffTxhandler library kickoffData round move depositData operatorXonlyPk
      assertScripts disprovePath additionalScript latestBlockhashScript hashes paramset =
        .ok txhandler) : txhandler.transactionType = .kickoff := by
  simp only [createKickoffTxhandler, bind_ok_iff] at built
  obtain ⟨_, _, _, _, _, _, _, _, _, _, _, _, _, _, _, _, _, _, finished⟩ := built
  cases finished
  rfl

/-! ## The chain of rounds -/

section Rounds

variable {collateral : OutPoint} {amount : UInt64} {keys : KickoffWinternitzKeys}
variable {pair : TxHandler × TxHandler}

/-- A later round is built from the round before it. -/
theorem createRoundNthTxhandler_succ {index : Nat} :
    createRoundNthTxhandler library operatorXonlyPk collateral amount (.round (index + 1)) keys
        paramset = .ok pair ↔
      index + 1 ≤ paramset.numRoundTxs ∧
        ∃ previous, createRoundNthTxhandler library operatorXonlyPk collateral amount
            (.round index) keys paramset = .ok previous ∧
          nextRoundTxhandlers library operatorXonlyPk keys paramset previous.2
            (.round (index + 1)) = .ok pair := by
  have rounds : RoundIndex.iterRoundsRange 1 (index + 1 + 1) =
      RoundIndex.iterRoundsRange 1 (index + 1) ++ [.round (index + 1)] := by
    simp [RoundIndex.iterRoundsRange, List.range'_concat, Nat.add_comm]
  simp only [createRoundNthTxhandler, bind_ok_iff, errorIf_eq_ok, RoundIndex.toIndex,
    rounds, run_snoc_iff, reduceCtorEq, false_or, not_lt, Nat.add_le_add_iff_right,
    exists_const]
  constructor
  · rintro ⟨bound, first, firstBuilt, previous, run, next⟩
    exact ⟨bound, previous, ⟨by omega, first, firstBuilt, run⟩, next⟩
  · rintro ⟨bound, previous, ⟨_, first, firstBuilt, run⟩, next⟩
    exact ⟨bound, first, firstBuilt, previous, run, next⟩

theorem createRoundNthTxhandler_zero :
    createRoundNthTxhandler library operatorXonlyPk collateral amount (.round 0) keys
        paramset = .ok pair ↔
      firstRoundTxhandlers library operatorXonlyPk collateral amount keys paramset = .ok pair := by
  simp [createRoundNthTxhandler, bind_ok_iff, RoundIndex.toIndex,
    RoundIndex.iterRoundsRange, pure, Except.pure]

theorem withReadyToReimburse_eq_ok
    (built : withReadyToReimburse library operatorXonlyPk paramset round = .ok pair) :
    pair.1 = round ∧ pair.2.transactionType = .readyToReimburse ∧
      pair.2.spends = [round.outpoint library .collateralInRound] := by
  obtain ⟨readyToReimburse, created, finished⟩ := bind_ok_iff.mp built
  cases finished
  exact ⟨rfl, createReadyToReimburseTxhandler_shape created⟩

variable {index : RoundIndex}

theorem roundAfter_shape {readyToReimburse round : TxHandler}
    (built : roundAfter library operatorXonlyPk readyToReimburse index keys paramset = .ok round) :
    round.transactionType = .round ∧
      round.spends = [readyToReimburse.outpoint library .collateralInReadyToReimburse] := by
  simp only [roundAfter, bind_ok_iff, TxHandler.getSpendableOutput_eq_ok] at built
  obtain ⟨prevout, ⟨txout, _, rfl⟩, _, _, created⟩ := built
  exact createRoundTxhandler_shape created

theorem nextRoundTxhandlers_eq_ok {readyToReimburse : TxHandler}
    (built : nextRoundTxhandlers library operatorXonlyPk keys paramset readyToReimburse index =
      .ok pair) :
    roundAfter library operatorXonlyPk readyToReimburse index keys paramset = .ok pair.1 ∧
      pair.2.transactionType = .readyToReimburse ∧
      pair.2.spends = [pair.1.outpoint library .collateralInRound] := by
  obtain ⟨round, created, paired⟩ := bind_ok_iff.mp built
  obtain ⟨rfl, shape⟩ := withReadyToReimburse_eq_ok paired
  exact ⟨created, shape⟩

/-- The transactions of any round have the shapes of a round and of its ready-to-reimburse
transaction. -/
theorem createRoundNthTxhandler_shapes
    (built : createRoundNthTxhandler library operatorXonlyPk collateral amount index keys
      paramset = .ok pair) :
    pair.1.transactionType = .round ∧ pair.2.transactionType = .readyToReimburse ∧
      pair.2.spends = [pair.1.outpoint library .collateralInRound] := by
  cases index with
  | collateral => simp [createRoundNthTxhandler, errorIf, bind, Except.bind] at built
  | round number =>
    cases number with
    | zero =>
      rw [createRoundNthTxhandler_zero] at built
      simp only [firstRoundTxhandlers, bind_ok_iff] at built
      obtain ⟨_, _, round, created, paired⟩ := built
      obtain ⟨rfl, shape⟩ := withReadyToReimburse_eq_ok paired
      exact ⟨(createRoundTxhandler_shape created).1, shape⟩
    | succ number =>
      obtain ⟨_, _, _, next⟩ := createRoundNthTxhandler_succ.mp built
      obtain ⟨created, shape⟩ := nextRoundTxhandlers_eq_ok next
      exact ⟨(roundAfter_shape created).1, shape⟩

/-- All earlier rounds of a round are built. -/
theorem createRoundNthTxhandler_earlier {index : Nat}
    (built : createRoundNthTxhandler library operatorXonlyPk collateral amount (.round index)
      keys paramset = .ok pair) {earlier : Nat} (before : earlier ≤ index) :
    ∃ pair, createRoundNthTxhandler library operatorXonlyPk collateral amount (.round earlier)
      keys paramset = .ok pair := by
  induction index generalizing pair with
  | zero =>
    obtain rfl := Nat.le_zero.mp before
    exact ⟨pair, built⟩
  | succ index ih =>
    rcases Nat.le_succ_iff.mp before with before | rfl
    · obtain ⟨_, previous, previousBuilt, _⟩ := createRoundNthTxhandler_succ.mp built
      exact ih previousBuilt before
    · exact ⟨pair, built⟩

end Rounds

/-! ## The challenge game -/

section Contract

variable {round kickoff : TxHandler} {txhandlers : List TxHandler}
  {transactionType : TransactionType}

theorem watchtowerTxhandlers_ne_kickoff {idx : Nat}
    (built : watchtowerTxhandlers library kickoff round paramset idx = .ok txhandlers)
    (member : txhandler ∈ txhandlers) : txhandler.transactionType ≠ .kickoff := by
  simp only [watchtowerTxhandlers, bind_ok_iff] at built
  obtain ⟨timeout, timeoutBuilt, nack, nackBuilt, ack, ackBuilt, finished⟩ := built
  cases finished
  simp only [List.mem_cons, List.not_mem_nil, or_false] at member
  rcases member with rfl | rfl | rfl
  · simp [connectTxhandler_type timeoutBuilt]
  · simp [connectTxhandler_type nackBuilt]
  · simp [connectTxhandler_type ackBuilt]

theorem disproveTxhandlers_ne_kickoff
    (built : disproveTxhandlers library transactionType kickoff round = .ok txhandlers)
    (member : txhandler ∈ txhandlers) : txhandler.transactionType ≠ .kickoff := by
  unfold disproveTxhandlers at built
  split at built
  · obtain ⟨disprove, created, finished⟩ := bind_ok_iff.mp built
    cases finished
    rw [List.mem_singleton.mp member, connectTxhandler_type created]
    simp
  · obtain ⟨disprove, created, finished⟩ := bind_ok_iff.mp built
    cases finished
    rw [List.mem_singleton.mp member, connectTxhandler_type created]
    simp
  · cases built
    cases member

/-- No transaction of the challenge game is a kickoff. -/
theorem contractTxhandlers_ne_kickoff {signer : Option Actor} {operatorData : OperatorData}
    {numWatchtowers : Nat} {kickoffIdx : UInt32} {parents : KickoffParents}
    (built : contractTxhandlers library transactionType signer paramset operatorData
      numWatchtowers kickoffIdx parents kickoff = .ok txhandlers)
    (member : txhandler ∈ txhandlers) : txhandler.transactionType ≠ .kickoff := by
  simp only [contractTxhandlers, bind_ok_iff] at built
  obtain ⟨_, _, challenge, challengeBuilt, challengeTimeout, challengeTimeoutBuilt, notFinalized,
    notFinalizedBuilt, blockhashTimeout, blockhashTimeoutBuilt, watchtowers, watchtowersBuilt,
    _, _, assertTimeouts, assertTimeoutsBuilt, disproveTimeout, disproveTimeoutBuilt, reimburse,
    reimburseBuilt, disprove, disproveBuilt, finished⟩ := built
  cases finished
  obtain ⟨_, _, reimburseConnected⟩ := bind_ok_iff.mp reimburseBuilt
  simp only [List.mem_append, List.mem_cons, List.not_mem_nil, or_false, List.mem_flatten] at member
  rcases member with (((((rfl | rfl | rfl | rfl) | ⟨group, groupMem, member⟩) | member) |
    (rfl | rfl)) | member)
  · simp [connectTxhandler_type challengeBuilt]
  · simp [connectTxhandler_type challengeTimeoutBuilt]
  · simp [connectTxhandler_type notFinalizedBuilt]
  · simp [connectTxhandler_type blockhashTimeoutBuilt]
  · obtain ⟨idx, -, created⟩ := (mem_mapM_ok watchtowersBuilt).mp groupMem
    exact watchtowerTxhandlers_ne_kickoff created member
  · obtain ⟨idx, -, created⟩ := (mem_mapM_ok assertTimeoutsBuilt).mp member
    simp [connectTxhandler_type created]
  · simp [connectTxhandler_type disproveTimeoutBuilt]
  · simp [connectTxhandler_type reimburseConnected]
  · exact disproveTxhandlers_ne_kickoff disproveBuilt member

end Contract

end Clementine
