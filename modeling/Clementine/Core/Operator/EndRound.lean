import Clementine.Core.Builder.Connectors
import Clementine.Core.Operator.Payouts

/-!
# Ending a round

`end_round` burns the kickoff connectors of the current round that no kickoff was assigned to
and queues the next round, which the ready-to-reimburse transaction activates.  The builder of
the burn transaction refuses an empty list of connectors, so a round whose connectors are all
assigned cannot be ended, and a payout that took the last one is rolled back with it.
-/

namespace Clementine

open ExceptRun Regtest KickoffWinternitzKeys List UInt32 Except Nat

/-! ## The connectors of a round -/

variable {roundIdx : RoundIndex} {indices : List Nat}

section Round

variable {library : BuilderLibrary} {operatorXonlyPk : XOnlyPublicKey} {paramset : ProtocolParamset}

theorem UnspentTxOut.fromScripts_value {value : UInt64} {scripts : List SpendableScript}
    {keyPath : Option XOnlyPublicKey} {output : UnspentTxOut}
    (built : UnspentTxOut.fromScripts library value scripts keyPath = .ok output) :
    output.txout.value = value := by
  obtain ⟨_, -, rest⟩ := bind_ok_iff.mp built
  obtain ⟨_, -, finished⟩ := bind_ok_iff.mp rest
  cases finished
  rfl

theorem KickoffWinternitzKeys.getKeysForRound_length {keys : KickoffWinternitzKeys}
    {roundKeys : List WinternitzPublicKey} (read : keys.getKeysForRound roundIdx = .ok roundKeys) :
    roundKeys.length = keys.numKickoffsPerRound ∧ keys.numKickoffsPerRound < 2 ^ 64 := by
  simp only [getKeysForRound, bind_ok_iff, okOr_eq_ok, liftPanic_eq_ok, vecSlice,
    checkedUsize] at read
  obtain ⟨-, -, round, -, startIdx, -, endIdx, endEq, slice⟩ := read
  split_ifs at endEq slice with fits inside
  cases endEq
  cases slice
  rw [length_take, length_drop]
  omega

variable {round : TxHandler} {pubkeys : List WinternitzPublicKey}

/-- The output for a kickoff is at the position after its index. -/
theorem createRoundTxhandler_kickoff {txin : RoundTxInput}
    (built : createRoundTxhandler library operatorXonlyPk txin pubkeys paramset = .ok round)
    (enoughKeys : paramset.numKickoffsPerRound ≤ pubkeys.length) {index : Nat}
    (inside : index < paramset.numKickoffsPerRound) :
    ∃ output, round.txouts[index + 1]? = some output ∧
      output.txout.value = paramset.kickoffAmount := by
  simp only [createRoundTxhandler, bind_ok_iff, pure, Except.pure, ok.injEq] at built
  obtain ⟨spent, -, _, -, _, -, _, -, collateral, -, kickoffs, kickoffsBuilt, reimburses, -,
    rfl⟩ := built
  have kickoffsLength : kickoffs.length = paramset.numKickoffsPerRound := by
    rw [length_mapM_ok kickoffsBuilt, length_take, Nat.min_eq_left enoughKeys]
  have pubkeyEq := getElem?_eq_getElem (inside.trans_le enoughKeys)
  obtain ⟨output, outputEq, outputBuilt⟩ := getElem?_mapM_ok kickoffsBuilt
    ((getElem?_take_of_lt inside).trans pubkeyEq)
  refine ⟨output, ?_, UnspentTxOut.fromScripts_value (liftPanic_eq_ok.mp outputBuilt)⟩
  change (kickoffs ++ reimburses ++ [anchorTxout paramset])[index]? = some output
  rw [append_assoc, getElem?_append_left (kickoffsLength ▸ inside), outputEq]

/-- The outputs of a round for the kickoffs, and that their sum is an amount. -/
structure HoldsKickoffs (paramset : ProtocolParamset) (round : TxHandler) : Prop where
  output : ∀ idx < paramset.numKickoffsPerRound, idx + 1 < 2 ^ 32 →
    ∃ output, round.txouts[(UtxoVout.kickoff idx).getVout.toNat]? = some output ∧
      output.txout.value = paramset.kickoffAmount
  total : paramset.numKickoffsPerRound * paramset.kickoffAmount.toNat < 2 ^ 64

theorem createRoundTxhandler_holdsKickoffs {txin : RoundTxInput}
    (built : createRoundTxhandler library operatorXonlyPk txin pubkeys paramset = .ok round)
    (enoughKeys : pubkeys.length = paramset.numKickoffsPerRound)
    (fits : paramset.numKickoffsPerRound < 2 ^ 64) : HoldsKickoffs paramset round := by
  refine ⟨fun idx inside position => ?_, ?_⟩
  · rw [(UtxoVout.kickoff idx).toNat_getVout position]
    exact createRoundTxhandler_kickoff built enoughKeys.ge inside
  · simp only [createRoundTxhandler, bind_ok_iff, okOr_eq_ok, liftPanic_eq_ok,
      amountAdd, expectSome_eq_ok, Option.bind_eq_some_iff, amountCheckedAdd_eq_some,
      amountCheckedMul_eq_some] at built
    obtain ⟨_, -, perKickoff, perKickoffEq, total, ⟨product, productEq, -⟩, -⟩ := built
    rw [UInt64.toNat_ofNat', mod_eq_of_lt fits] at productEq
    calc paramset.numKickoffsPerRound * paramset.kickoffAmount.toNat
        ≤ paramset.numKickoffsPerRound * perKickoff.toNat :=
          Nat.mul_le_mul_left _ (by omega)
      _ = product.toNat := by rw [Nat.mul_comm, productEq]
      _ < 2 ^ 64 := product.toNat_lt

theorem createRoundNthTxhandler_holdsKickoffs {collateral : OutPoint} {amount : UInt64}
    {index : RoundIndex} {keys : KickoffWinternitzKeys} {pair : TxHandler × TxHandler}
    (built : createRoundNthTxhandler library operatorXonlyPk collateral amount index keys
      paramset = .ok pair)
    (perRound : keys.numKickoffsPerRound = paramset.numKickoffsPerRound) :
    HoldsKickoffs paramset pair.1 := by
  cases index with
  | collateral => simp [createRoundNthTxhandler, errorIf, bind, Except.bind] at built
  | round number =>
    cases number with
    | zero =>
      rw [createRoundNthTxhandler_zero] at built
      simp only [firstRoundTxhandlers, bind_ok_iff] at built
      obtain ⟨roundKeys, read, round, created, paired⟩ := built
      obtain ⟨count, fits⟩ := getKeysForRound_length read
      rw [(withReadyToReimburse_eq_ok paired).1]
      exact createRoundTxhandler_holdsKickoffs created (count.trans perRound) (perRound ▸ fits)
    | succ number =>
      obtain ⟨_, _, _, next⟩ := createRoundNthTxhandler_succ.mp built
      have created := (nextRoundTxhandlers_eq_ok next).1
      simp only [roundAfter, bind_ok_iff] at created
      obtain ⟨_, -, roundKeys, read, created⟩ := created
      obtain ⟨count, fits⟩ := getKeysForRound_length read
      exact createRoundTxhandler_holdsKickoffs created (count.trans perRound) (perRound ▸ fits)

/-! ## The burn transaction -/

variable (library) in
/-- An input for a connector is added while the amount fits. -/
theorem addBurnInput_eq_ok (holds : HoldsKickoffs paramset round) (inputs : UInt64 × List SpentTxIn)
    {idx : Nat} (inside : idx < paramset.numKickoffsPerRound) (position : idx + 1 < 2 ^ 32)
    (fits : inputs.1.toNat + paramset.kickoffAmount.toNat < 2 ^ 64) :
    ∃ added, addBurnInput library round inputs idx = .ok added ∧
      added.1.toNat = inputs.1.toNat + paramset.kickoffAmount.toNat := by
  obtain ⟨output, outputEq, valueEq⟩ := holds.output idx inside position
  have spendable : round.getSpendableOutput library (.kickoff idx) = .ok
      ⟨round.outpoint library (.kickoff idx), output.txout, output.scripts, output.spendinfo⟩ :=
    (TxHandler.getSpendableOutput_eq_ok library).mpr ⟨output, outputEq, rfl⟩
  have sum : amountCheckedAdd inputs.1 output.txout.value =
      some (inputs.1 + output.txout.value) := by
    rw [amountCheckedAdd, if_pos (valueEq ▸ fits)]
  refine ⟨_, bind_ok_iff.mpr ⟨_, bind_ok_iff.mpr ⟨_, spendable, rfl⟩,
    bind_ok_iff.mpr ⟨_, okOr_eq_ok.mpr sum, rfl⟩⟩, ?_⟩
  rw [← valueEq]
  exact (amountCheckedAdd_eq_some.mp sum).symm

variable (library) in
theorem addBurnInputs_eq_ok (holds : HoldsKickoffs paramset round)
    (inputs : UInt64 × List SpentTxIn)
    (inside : ∀ idx ∈ indices, idx < paramset.numKickoffsPerRound ∧ idx + 1 < 2 ^ 32)
    (fits : inputs.1.toNat + indices.length * paramset.kickoffAmount.toNat < 2 ^ 64) :
    ∃ added, indices.foldlM (addBurnInput library round) inputs = .ok added := by
  induction indices generalizing inputs with
  | nil => exact ⟨inputs, rfl⟩
  | cons idx indices ih =>
    rw [length_cons, Nat.add_mul, Nat.one_mul] at fits
    obtain ⟨idxInside, position⟩ := inside idx (by simp)
    obtain ⟨added, addedEq, sum⟩ :=
      addBurnInput_eq_ok library holds inputs idxInside position (by omega)
    obtain ⟨all, allEq⟩ := ih added
      (fun other member => inside other (mem_cons_of_mem _ member)) (by omega)
    exact ⟨all, run_cons_iff.mpr ⟨added, addedEq, allEq⟩⟩

theorem burnChange_eq_ok (paramset : ProtocolParamset) (inputAmount : UInt64)
    (changeAddress : ScriptBuf) :
    ∃ change, burnChange inputAmount changeAddress paramset = .ok change := by
  unfold burnChange
  split_ifs with enough
  · obtain ⟨-, enough⟩ := enough
    have anchor : paramset.anchorAmount ≤ inputAmount := by
      unfold ProtocolParamset.anchorAmount at enough ⊢
      simp only [ProtocolParamset.minTaprootAmount,
        ProtocolParamset.nonEphemeralAnchorAmount] at enough ⊢
      rw [UInt64.le_iff_toNat_le] at enough ⊢
      split_ifs at enough ⊢ <;> simp at enough ⊢
      omega
    refine ⟨_, bind_ok_iff.mpr ⟨inputAmount - paramset.anchorAmount, ?_, rfl⟩⟩
    rw [amountSub, amountCheckedSub, if_pos anchor]
    rfl
  · exact ⟨[], rfl⟩

/-- The burn transaction is built for any connectors of the round, but not for none. -/
theorem createBurnUnusedKickoffConnectorsTxhandler_isOk_iff (holds : HoldsKickoffs paramset round)
    (inside : ∀ idx ∈ indices, idx < paramset.numKickoffsPerRound ∧ idx + 1 < 2 ^ 32)
    (count : indices.length ≤ paramset.numKickoffsPerRound) (changeAddress : ScriptBuf) :
    (∃ burn, createBurnUnusedKickoffConnectorsTxhandler library round indices changeAddress
        paramset = .ok burn) ↔ indices ≠ [] := by
  constructor
  · rintro ⟨burn, built⟩
    obtain ⟨_, notEmpty, -⟩ := bind_ok_iff.mp built
    exact errorIf_eq_ok.mp notEmpty
  · intro notEmpty
    have total := Nat.mul_le_mul_right paramset.kickoffAmount.toNat count
    obtain ⟨inputs, inputsEq⟩ := addBurnInputs_eq_ok library holds (0, [])
      inside (by simpa using total.trans_lt holds.total)
    obtain ⟨change, changeEq⟩ := burnChange_eq_ok paramset inputs.1 changeAddress
    exact ⟨_, bind_ok_iff.mpr ⟨(), errorIf_eq_ok.mpr notEmpty, bind_ok_iff.mpr ⟨inputs, inputsEq,
        bind_ok_iff.mpr ⟨change, changeEq, rfl⟩⟩⟩⟩

/-- The burn transaction spends the connectors it was built for. -/
theorem createBurnUnusedKickoffConnectorsTxhandler_spends {round burn : TxHandler}
    {changeAddress : ScriptBuf}
    (built : createBurnUnusedKickoffConnectorsTxhandler library round indices changeAddress
      paramset = .ok burn) :
    burn.spends = indices.map fun idx => round.outpoint library (.kickoff idx) := by
  obtain ⟨_, -, built⟩ := bind_ok_iff.mp built
  obtain ⟨inputs, inputsEq, built⟩ := bind_ok_iff.mp built
  obtain ⟨_, -, finished⟩ := bind_ok_iff.mp built
  cases finished
  refine run_history (fun seen (inputs : UInt64 × List SpentTxIn) =>
      inputs.2.map (fun txin => txin.spendable.previousOutpoint) =
        seen.map fun idx => round.outpoint library (.kickoff idx)) [] rfl ?_ inputsEq
  intro seen inputs idx added soFar stepped
  simp only [addBurnInput, bind_ok_iff, pure, Except.pure, ok.injEq] at stepped
  obtain ⟨txin, txinEq, _, -, rfl⟩ := stepped
  simp only [map_append, soFar, map_cons, map_nil, HandlerInput.toSpentTxIn_eq_ok txinEq]

end Round

namespace Operator

variable {self : Operator}

/-! ## The connectors without a kickoff -/

/-- Whether a kickoff was assigned to a connector. -/
def isAssigned (state : OperatorState) (roundIdx : RoundIndex) (idx : Nat) : Bool :=
  idx < 2 ^ 32 ∧ (state.getKickoffTxidForUsedKickoffConnector roundIdx (UInt32.ofNat idx)).isSome

variable (self) in
/-- The connectors of a round that no kickoff was assigned to. -/
def unassigned (state : OperatorState) (roundIdx : RoundIndex) : List Nat :=
  (range self.paramset.numKickoffsPerRound).filter fun idx => !isAssigned state roundIdx idx

theorem getKickoffTxid_markKickoffConnectorAsUsed_none (state : OperatorState)
    (roundIdx round : RoundIndex) (kickoffIdx idx : UInt32) :
    (state.markKickoffConnectorAsUsed roundIdx kickoffIdx
        none).getKickoffTxidForUsedKickoffConnector round idx =
      state.getKickoffTxidForUsedKickoffConnector round idx := by
  simp only [OperatorState.getKickoffTxidForUsedKickoffConnector, markKickoffConnectorAsUsed_eq]
  split_ifs
  · cases state.usedKickoffConnectors round idx <;> rfl
  · rfl

/-- Marking an unspent connector names no kickoff, so the loop collects the connectors that had
none before it. -/
theorem foldl_collectUnspent_fst {state : OperatorState} (small : ∀ idx ∈ indices, idx < 2 ^ 32)
    (unspent : List Nat × OperatorState)
    (same : ∀ idx, unspent.2.getKickoffTxidForUsedKickoffConnector roundIdx idx =
      state.getKickoffTxidForUsedKickoffConnector roundIdx idx) :
    (indices.foldl (collectUnspent roundIdx) unspent).1 =
      unspent.1 ++ indices.filter fun idx => !isAssigned state roundIdx idx := by
  induction indices generalizing unspent with
  | nil => simp
  | cons idx indices ih =>
    have idxSmall := small idx (by simp)
    have rest := fun idx member => small idx (mem_cons_of_mem _ member)
    rw [foldl_cons]
    cases found : state.getKickoffTxidForUsedKickoffConnector roundIdx (ofNat idx) with
    | some kickoffTxid =>
      have assigned : isAssigned state roundIdx idx = true := by
        simp only [isAssigned, found, idxSmall, Option.isSome_some, and_self, decide_true]
      have step : collectUnspent roundIdx unspent idx = unspent := by
        rw [collectUnspent, same, found]
      rw [step, ih rest unspent same, filter_cons_of_neg (by simp [assigned])]
    | none =>
      have free : isAssigned state roundIdx idx = false := by
        simp only [isAssigned, found, Option.isSome_none, Bool.false_eq_true, and_false,
          decide_false]
      have step : collectUnspent roundIdx unspent idx = (unspent.1 ++ [idx],
          unspent.2.markKickoffConnectorAsUsed roundIdx (ofNat idx) none) := by
        rw [collectUnspent, same, found]
      rw [step, ih rest _ fun other => by
        rw [getKickoffTxid_markKickoffConnectorAsUsed_none, same]]
      rw [filter_cons_of_pos (by simp [free]), append_assoc, singleton_append]

theorem unspentKickoffConnectors_fst (state : OperatorState) :
    (self.unspentKickoffConnectors state).1 =
      (range (self.paramset.numKickoffsPerRound % 2 ^ 32)).filter
        fun idx => !isAssigned state state.currentRoundIndex idx := by
  have small : ∀ idx ∈ range (self.paramset.numKickoffsPerRound % 2 ^ 32), idx < 2 ^ 32 := by
    intro idx member
    have := mem_range.mp member
    omega
  exact foldl_collectUnspent_fst small ([], state) fun _ => rfl

theorem mem_unspentKickoffConnectors {state : OperatorState} {idx : Nat} :
    idx ∈ (self.unspentKickoffConnectors state).1 ↔
      idx < self.paramset.numKickoffsPerRound % 2 ^ 32 ∧
        isAssigned state state.currentRoundIndex idx = false := by
  rw [unspentKickoffConnectors_fst, mem_filter, mem_range, Bool.not_eq_true']

/-! ## When a round can be ended -/

variable (self) in
/-- Signing a transaction succeeds. -/
def CanSign (txhandler : TxHandler) : Prop :=
  ∃ witnesses, self.txSignAndFillSigs txhandler = .ok witnesses

/-- The operator can sign what `end_round` signs: the transactions of its rounds and the burn
transactions of their connectors. -/
structure Signs (operator : Operator) : Prop where
  pair : ∀ {kickoffWpks : KickoffWinternitzKeys} {roundIdx : RoundIndex}
    {pair : TxHandler × TxHandler}, operator.roundTxhandlers kickoffWpks roundIdx = .ok pair →
      operator.CanSign pair.1 ∧ operator.CanSign pair.2
  burn : ∀ {kickoffWpks : KickoffWinternitzKeys} {roundIdx : RoundIndex}
    {pair : TxHandler × TxHandler} {indices : List Nat} {burn : TxHandler},
    operator.roundTxhandlers kickoffWpks roundIdx = .ok pair →
      createBurnUnusedKickoffConnectorsTxhandler operator.library pair.1 indices operator.address
        operator.paramset = .ok burn → operator.CanSign burn

variable (self) in
/-- The next round can be built, and a connector of a round that was started is left over. -/
def CanEnd (roundIdx : RoundIndex) (assigned : Nat → Bool) : Prop :=
  ∃ kickoffWpks next, new self.kickoffWinternitzPublicKeys self.paramset.numKickoffsPerRound
        self.paramset.numRoundTxs = .ok kickoffWpks ∧
      self.roundTxhandlers kickoffWpks roundIdx.nextRound = .ok next ∧
      (roundIdx = .collateral ∨
        ∃ idx < self.paramset.numKickoffsPerRound % 2 ^ 32, assigned idx = false)

theorem CanSign.exists_signedTx {txhandler : TxHandler} (can : self.CanSign txhandler) :
    ∃ tx, self.signedTx txhandler = .ok tx := by
  obtain ⟨witnesses, signed⟩ := can
  exact ⟨_, bind_ok_iff.mpr ⟨witnesses, liftBridge_eq_ok.mpr signed, rfl⟩⟩

theorem signedTx_spends {txhandler : TxHandler} {tx : CircuitTransaction}
    (signed : self.signedTx txhandler = .ok tx) :
    tx.input.map TxIn.previousOutput = txhandler.spends := by
  obtain ⟨witnesses, -, finished⟩ := bind_ok_iff.mp signed
  cases finished
  rw [← TxHandler.map_previousOutput_getCachedTx]
  apply ext_getElem?
  intro index
  simp only [getElem?_map, getElem?_mapIdx, Option.map_map, Function.comp_def]

variable {kickoffWpks : KickoffWinternitzKeys}

/-- The keys are divided as the parameters say. -/
theorem numKickoffsPerRound_of_new (read : new self.kickoffWinternitzPublicKeys
      self.paramset.numKickoffsPerRound self.paramset.numRoundTxs = .ok kickoffWpks) :
    kickoffWpks.numKickoffsPerRound = self.paramset.numKickoffsPerRound := by
  simp only [new, bind_ok_iff] at read
  obtain ⟨_, _, finished⟩ := read
  cases finished
  rfl

variable {round : Nat}

/-- A round is built when the one after it is. -/
theorem roundTxhandlers_previous {next : TxHandler × TxHandler}
    (built : self.roundTxhandlers kickoffWpks (.round (round + 1)) = .ok next) :
    ∃ current, self.roundTxhandlers kickoffWpks (.round round) = .ok current := by
  obtain ⟨current, currentBuilt⟩ :=
    createRoundNthTxhandler_earlier (liftBridge_eq_ok.mp built) (le_succ round)
  exact ⟨current, liftBridge_eq_ok.mpr currentBuilt⟩

theorem endStartedRound_isOk_iff (signs : self.Signs) (read : new self.kickoffWinternitzPublicKeys
      self.paramset.numKickoffsPerRound self.paramset.numRoundTxs = .ok kickoffWpks)
    {state : OperatorState} (current : state.currentRoundIndex = .round round) :
    (∃ after, self.endStartedRound state kickoffWpks = .ok after) ↔
      (∃ next, self.roundTxhandlers kickoffWpks (.round (round + 1)) = .ok next) ∧
        ∃ idx < self.paramset.numKickoffsPerRound % 2 ^ 32,
          isAssigned state state.currentRoundIndex idx = false := by
  have burns : ∀ pair, self.roundTxhandlers kickoffWpks (.round round) = .ok pair →
      ((∃ burn, createBurnUnusedKickoffConnectorsTxhandler self.library pair.1
          (self.unspentKickoffConnectors state).1 self.address self.paramset = .ok burn) ↔
        (self.unspentKickoffConnectors state).1 ≠ []) := by
    intro pair built
    have holds := createRoundNthTxhandler_holdsKickoffs (liftBridge_eq_ok.mp built)
      (numKickoffsPerRound_of_new read)
    refine createBurnUnusedKickoffConnectorsTxhandler_isOk_iff holds ?_ ?_ _
    · intro idx member
      obtain ⟨inside, -⟩ := mem_unspentKickoffConnectors.mp member
      omega
    · rw [unspentKickoffConnectors_fst]
      have count := length_filter_le (fun idx => !isAssigned state state.currentRoundIndex idx)
        (range (self.paramset.numKickoffsPerRound % 2 ^ 32))
      rw [length_range] at count
      exact count.trans (mod_le _ _)
  have free : (self.unspentKickoffConnectors state).1 ≠ [] ↔
      ∃ idx, idx < self.paramset.numKickoffsPerRound % 2 ^ 32 ∧
        isAssigned state state.currentRoundIndex idx = false := by
    simp only [← mem_unspentKickoffConnectors]
    exact ⟨exists_mem_of_ne_nil _, fun ⟨_, member⟩ => ne_nil_of_mem member⟩
  rw [← free]
  constructor
  · rintro ⟨after, ended⟩
    simp only [endStartedRound, bind_ok_iff, liftBridge_eq_ok, current] at ended
    obtain ⟨pair, built, next, nextBuilt, _, -, _, -, burn, burnBuilt, -⟩ := ended
    exact ⟨⟨next, nextBuilt⟩, (burns pair built).mp ⟨burn, burnBuilt⟩⟩
  · rintro ⟨⟨next, nextBuilt⟩, notEmpty⟩
    obtain ⟨pair, built⟩ := roundTxhandlers_previous nextBuilt
    obtain ⟨readyToReimburseTx, readySigned⟩ := (signs.pair built).2.exists_signedTx
    obtain ⟨roundTx, roundSigned⟩ := (signs.pair nextBuilt).1.exists_signedTx
    obtain ⟨burn, burnBuilt⟩ := (burns pair built).mpr notEmpty
    obtain ⟨burnTx, burnSigned⟩ := (signs.burn built burnBuilt).exists_signedTx
    simp only [endStartedRound, bind_ok_iff, liftBridge_eq_ok, current]
    exact ⟨_, pair, built, next, nextBuilt, _, readySigned, _, roundSigned, burn, burnBuilt, _,
      burnSigned, rfl⟩

/-- When ending a round succeeds. -/
theorem endRound_isOk_iff (signs : self.Signs) {state : OperatorState} :
    (∃ after, self.endRound state = .ok after) ↔
      self.CanEnd state.currentRoundIndex (isAssigned state state.currentRoundIndex) := by
  simp only [endRound, CanEnd, bind_ok_iff, liftBridge_eq_ok]
  cases current : state.currentRoundIndex with
  | collateral =>
    simp only [if_true, true_or, and_true]
    constructor
    · rintro ⟨after, kickoffWpks, read, started⟩
      obtain ⟨firstRound, built, -⟩ := bind_ok_iff.mp started
      exact ⟨kickoffWpks, firstRound, read, built⟩
    · rintro ⟨kickoffWpks, firstRound, read, built⟩
      obtain ⟨tx, signed⟩ := (signs.pair built).1.exists_signedTx
      exact ⟨_, kickoffWpks, read, bind_ok_iff.mpr ⟨firstRound, built,
        bind_ok_iff.mpr ⟨tx, signed, rfl⟩⟩⟩
  | round number =>
    simp only [reduceCtorEq, if_false, false_or, RoundIndex.nextRound]
    constructor
    · rintro ⟨after, kickoffWpks, read, ended⟩
      obtain ⟨⟨next, built⟩, free⟩ :=
        (endStartedRound_isOk_iff signs read current).mp ⟨after, ended⟩
      exact ⟨kickoffWpks, next, read, built, current ▸ free⟩
    · rintro ⟨kickoffWpks, next, read, built, free⟩
      obtain ⟨after, ended⟩ := (endStartedRound_isOk_iff signs read current).mpr
        ⟨⟨next, built⟩, current ▸ free⟩
      exact ⟨after, kickoffWpks, read, ended⟩

/-! ## What is queued -/

variable (self) in
/-- The burn transaction of a round spends the connectors without a kickoff; there is none when
all have one. -/
def BurnsUnassigned (before : OperatorState) (round : Nat) (roundTxhandler : TxHandler)
    (burns : List QueuedTx) : Prop :=
  if self.unassigned before (.round round) = [] then burns = []
  else ∃ burnTx, burns =
      [{ metadata := self.roundMetadata .burnUnusedKickoffConnectors (.round round)
         tx := burnTx
         activatedWith := [] }] ∧
    burnTx.input.map TxIn.previousOutput = (self.unassigned before (.round round)).map
      fun idx => roundTxhandler.outpoint self.library (.kickoff idx)

/-- The end of a round: the next round is queued and waits for the ready-to-reimburse
transaction, and the connectors without a kickoff are burnt. -/
structure RoundEnded (operator : Operator) (round : Nat) (before after : OperatorState) :
    Prop where
  currentRoundIndex : after.currentRoundIndex = .round (round + 1)
  queue : ∃ kickoffWpks current next readyToReimburseTx roundTx burns,
    new operator.kickoffWinternitzPublicKeys
        operator.paramset.numKickoffsPerRound operator.paramset.numRoundTxs = .ok kickoffWpks ∧
      operator.roundTxhandlers kickoffWpks (.round round) = .ok current ∧
      operator.roundTxhandlers kickoffWpks (.round (round + 1)) = .ok next ∧
      operator.signedTx current.2 = .ok readyToReimburseTx ∧
      operator.signedTx next.1 = .ok roundTx ∧
      operator.BurnsUnassigned before round current.1 burns ∧
      after.queue = before.queue ++ burns ++
        [{ metadata := operator.roundMetadata .round (.round (round + 1))
           tx := roundTx
           activatedWith := [(operator.library.computeTxid readyToReimburseTx,
             operator.paramset.operatorReimburseTimelock.toUInt32)] }]

/-- What a successful end of a round queues: one burn transaction and the next round. -/
theorem endRound_queue {state after : OperatorState}
    (current : state.currentRoundIndex = .round round) (ended : self.endRound state = .ok after) :
    ∃ kickoffWpks pair next readyToReimburseTx roundTx burnTx, new self.kickoffWinternitzPublicKeys
          self.paramset.numKickoffsPerRound self.paramset.numRoundTxs = .ok kickoffWpks ∧
        self.roundTxhandlers kickoffWpks (.round round) = .ok pair ∧
        self.roundTxhandlers kickoffWpks (.round (round + 1)) = .ok next ∧
        self.signedTx pair.2 = .ok readyToReimburseTx ∧ self.signedTx next.1 = .ok roundTx ∧
        burnTx.input.map TxIn.previousOutput = ((self.unspentKickoffConnectors state).1.map
          fun idx => pair.1.outpoint self.library (.kickoff idx)) ∧
        after.queue = state.queue ++
          [{ metadata := self.roundMetadata .burnUnusedKickoffConnectors (.round round)
             tx := burnTx
             activatedWith := [] }] ++
          [{ metadata := self.roundMetadata .round (.round (round + 1))
             tx := roundTx
             activatedWith := [(self.library.computeTxid readyToReimburseTx,
               self.paramset.operatorReimburseTimelock.toUInt32)] }] := by
  have marks := self.unspentKickoffConnectors_marksRound state
  simp only [endRound, bind_ok_iff, liftBridge_eq_ok, current, reduceCtorEq, if_false,
    endStartedRound, RoundIndex.nextRound, pure, Except.pure, ok.injEq] at ended
  obtain ⟨kickoffWpks, read, pair, built, next, nextBuilt, readyToReimburseTx, readySigned,
    roundTx, roundSigned, burn, burnBuilt, burnTx, burnSigned, rfl⟩ := ended
  refine ⟨kickoffWpks, pair, next, readyToReimburseTx, roundTx, burnTx, read, built, nextBuilt,
    readySigned, roundSigned, ?_, ?_⟩
  · rw [signedTx_spends burnSigned, createBurnUnusedKickoffConnectorsTxhandler_spends burnBuilt]
  · simp only [OperatorState.insertTryToSend, marks.queue]

/-- The number of connectors as the loop sees it is the real one when it fits. -/
theorem unspentKickoffConnectors_eq_unassigned {state : OperatorState}
    (current : state.currentRoundIndex = .round round)
    (fits : self.paramset.numKickoffsPerRound < 2 ^ 32) :
    (self.unspentKickoffConnectors state).1 = self.unassigned state (.round round) := by
  rw [unspentKickoffConnectors_fst, mod_eq_of_lt fits, current, unassigned]

/-- When the number of connectors does not fit, the loop misses some. -/
theorem fits_of_unspent_length {state : OperatorState}
    (current : state.currentRoundIndex = .round round)
    (notEmpty : (self.unspentKickoffConnectors state).1 ≠ [])
    (sameLength : (self.unspentKickoffConnectors state).1.length =
      (self.unassigned state (.round round)).length) :
    self.paramset.numKickoffsPerRound < 2 ^ 32 := by
  obtain ⟨idx, member⟩ := exists_mem_of_ne_nil _ notEmpty
  have inside := (mem_unspentKickoffConnectors.mp member).1
  by_contra large
  have sublist : (self.unspentKickoffConnectors state).1.Sublist
      (self.unassigned state (.round round)) := by
    rw [unspentKickoffConnectors_fst, current, unassigned]
    exact (range_sublist.mpr (mod_le _ _)).filter _
  have missed : 2 ^ 32 ∈ self.unassigned state (.round round) := by
    rw [unassigned, mem_filter, mem_range]
    refine ⟨by omega, ?_⟩
    simp [isAssigned]
  rw [← sublist.eq_of_length sameLength, mem_unspentKickoffConnectors] at missed
  omega

/-- A round ends as it should when it can be ended and the number of connectors fits. -/
theorem roundEnded_iff (signs : self.Signs) {state : OperatorState}
    (current : state.currentRoundIndex = .round round) :
    (∃ after, self.endRound state = .ok after ∧ RoundEnded self round state after) ↔
      self.paramset.numKickoffsPerRound < 2 ^ 32 ∧
        self.CanEnd (.round round) (isAssigned state (.round round)) := by
  have ends := @endRound_isOk_iff self signs state
  rw [current] at ends
  constructor
  · rintro ⟨after, ended, -, queued⟩
    have canEnd := ends.mp ⟨after, ended⟩
    refine ⟨?_, canEnd⟩
    obtain ⟨_, _, -, -, started | ⟨idx, inside, free⟩⟩ := canEnd
    · cases started
    have notEmpty : (self.unspentKickoffConnectors state).1 ≠ [] :=
      ne_nil_of_mem (mem_unspentKickoffConnectors.mpr ⟨inside, current ▸ free⟩)
    obtain ⟨_, pair, next, _, roundTx, burns, -, -, -, -, -, burnt, queue⟩ := queued
    obtain ⟨_, _, _, _, _, burnTx, -, -, -, -, -, spends, queue'⟩ := endRound_queue current ended
    -- both describe the entry between the old queue and the next round
    rw [queue', append_assoc, append_assoc, append_cancel_left_eq] at queue
    obtain ⟨sameBurns, -⟩ := append_inj' queue rfl
    rw [BurnsUnassigned, ← sameBurns] at burnt
    split_ifs at burnt with none
    obtain ⟨burnTx', sameTx, spends'⟩ := burnt
    have txEq : burnTx = burnTx' := by
      injection sameTx with head
      injection head
    rw [← txEq, spends] at spends'
    have lengths := congrArg length spends'
    rw [length_map, length_map] at lengths
    exact fits_of_unspent_length current notEmpty lengths
  · rintro ⟨fits, canEnd⟩
    obtain ⟨after, ended⟩ := ends.mpr canEnd
    obtain ⟨_, _, -, -, started | ⟨idx, inside, free⟩⟩ := canEnd
    · cases started
    have member := mem_unspentKickoffConnectors.mpr ⟨inside, current ▸ free⟩
    obtain ⟨kickoffWpks, pair, next, readyToReimburseTx, roundTx, burnTx, read, built, nextBuilt,
      readySigned, roundSigned, spends, queue⟩ := endRound_queue current ended
    rw [unspentKickoffConnectors_eq_unassigned current fits] at member spends
    refine ⟨after, ended, ?_, kickoffWpks, pair, next, readyToReimburseTx, roundTx, _, read,
      built, nextBuilt, readySigned, roundSigned, ?_, queue⟩
    · rw [(endRound_endsRound ended).currentRoundIndex, current]
      rfl
    · rw [BurnsUnassigned, if_neg (ne_nil_of_mem member)]
      exact ⟨burnTx, rfl, spends⟩

/-! ## When a payout is handled -/

/-- The first payout that is not handled, with what the calls read about it; the kickoff of the
connector that is picked can be signed. -/
structure PayoutData (operator : Operator) (state : OperatorState) (pick : Nat) where
  payout : Withdrawal
  found : operator.getFirstUnhandledPayout state = some payout
  blockhash : Bytes32
  blockhash_eq : payout.payoutTxBlockhash = some blockhash
  depositData : DepositData
  depositData_eq : operator.depositDataWithMoveTx payout.moveToVaultTxid = some depositData
  stored : Nat × DepositData
  stored_eq : operator.depositData depositData.getDepositOutpoint = some stored
  height : Nat
  height_eq : operator.blockHeight blockhash = some height
  lcp_eq : operator.fetchValidateAndStoreLcp height payout.idx = .ok ()
  signs : ∀ connector,
    operator.getUnusedAndSignedKickoffConnector state stored.1 pick = some connector →
    ∃ signedTxs kickoffTx,
      operator.createAndSignTxs (operator.kickoffContext stored.2 connector.1 connector.2)
        (some (last20Bytes blockhash)) = .ok signedTxs ∧
      findTx .kickoff "Couldn't find kickoff tx in signed_txs" signedTxs = .ok kickoffTx

/-- A deposit finds a connector while a round is left: the ones of the next round are free. -/
theorem exists_unusedAndSignedKickoffConnector (signed : SignedInEveryRound self)
    {state : OperatorState} (sound : Sound self state)
    (left : state.currentRoundIndex.toIndex < self.paramset.numRoundTxs)
    {depositOutpoint : OutPoint} {deposit : Nat × DepositData}
    (depositEq : self.depositData depositOutpoint = some deposit) (pick : Nat) :
    ∃ connector, self.getUnusedAndSignedKickoffConnector state deposit.1 pick = some connector ∧
      (connector.1 = state.currentRoundIndex ∨
        connector.1 = state.currentRoundIndex.nextRound) := by
  let rows := self.depositSignatures.filter fun row =>
    row.depositId = deposit.1 ∧ row.operatorXonlyPk = self.xonlyPublicKey ∧
      state.currentRoundIndex.toIndex ≤ row.roundIdx.toIndex ∧
      state.usedKickoffConnectors row.roundIdx row.kickoffIdx = none
  have mem_rows : ∀ row, row ∈ rows ↔ row ∈ self.depositSignatures ∧ row.depositId = deposit.1 ∧
      row.operatorXonlyPk = self.xonlyPublicKey ∧
      state.currentRoundIndex.toIndex ≤ row.roundIdx.toIndex ∧
      state.usedKickoffConnectors row.roundIdx row.kickoffIdx = none := by
    simp [rows]
  obtain ⟨kickoffIdx, isRow⟩ := signed.exists_row depositOutpoint deposit.1 deposit.2 depositEq
    state.currentRoundIndex.toIndex left
  have next : (⟨deposit.1, self.xonlyPublicKey, .round state.currentRoundIndex.toIndex,
      kickoffIdx⟩ : SignedKickoff) ∈ rows :=
    (mem_rows _).mpr ⟨isRow, rfl, rfl, by rw [RoundIndex.toIndex]; omega, sound.unused⟩
  obtain ⟨first, isFirst, smallest⟩ := rows.toFinset.exists_min_image
    (fun row => row.roundIdx.toIndex) ⟨_, mem_toFinset.mpr next⟩
  have member : first ∈ self.firstUnusedKickoffs state deposit.1 :=
    mem_firstUnusedKickoffs.mpr ⟨(mem_rows first).mp (mem_toFinset.mp isFirst),
      fun other isOther sameDeposit sameOperator notBefore otherUnused =>
        smallest other (mem_toFinset.mpr ((mem_rows other).mpr
          ⟨isOther, sameDeposit, sameOperator, notBefore, otherUnused⟩))⟩
  have picked : pick % (self.firstUnusedKickoffs state deposit.1).length <
      (self.firstUnusedKickoffs state deposit.1).length :=
    mod_lt _ (length_pos_of_mem member)
  refine ⟨_, congrArg (Option.map _) (getElem?_eq_getElem picked), ?_⟩
  exact firstUnusedKickoffs_round signed sound depositEq (getElem_mem picked)

/-- Whether a kickoff is assigned to a connector once the given one is taken as well. -/
def isAssignedWith (state : OperatorState) (connector : RoundIndex × UInt32) (idx : Nat) : Bool :=
  isAssigned state connector.1 idx ∨ UInt32.ofNat idx = connector.2

theorem isAssigned_markKickoffConnectorAsUsed {before entered : OperatorState}
    {connector : RoundIndex × UInt32} {kickoffTxid : Txid}
    (same : entered.usedKickoffConnectors connector.1 = before.usedKickoffConnectors connector.1)
    (unused : before.usedKickoffConnectors connector.1 connector.2 = none) {idx : Nat}
    (small : idx < 2 ^ 32) :
    isAssigned (entered.markKickoffConnectorAsUsed connector.1 connector.2 (some kickoffTxid))
        connector.1 idx = isAssignedWith before connector idx := by
  simp only [isAssignedWith, isAssigned, OperatorState.getKickoffTxidForUsedKickoffConnector,
    markKickoffConnectorAsUsed_eq, same, small, true_and]
  by_cases taken : ofNat idx = connector.2
  · simp [taken, unused]
  · simp [taken]

theorem CanEnd.congr {assigned assigned' : Nat → Bool}
    (same : ∀ idx < 2 ^ 32, assigned idx = assigned' idx) :
    self.CanEnd roundIdx assigned ↔ self.CanEnd roundIdx assigned' := by
  have free : (∃ idx < self.paramset.numKickoffsPerRound % 2 ^ 32, assigned idx = false) ↔
      ∃ idx < self.paramset.numKickoffsPerRound % 2 ^ 32, assigned' idx = false := by
    apply exists_congr
    intro idx
    apply and_congr_right
    intro inside
    rw [same idx (by omega)]
  simp only [CanEnd, free]

/-- The tables before the round is ended again: the round of the connector is entered, the
kickoff is queued and the connector is marked. -/
def assignedState (operator : Operator) (entered : OperatorState) (data : DepositData)
    (connector : RoundIndex × UInt32) (blockhash : Bytes32)
    (signedTxs : List (TransactionType × CircuitTransaction)) (kickoffTxid : Txid) :
    OperatorState :=
  let sent :=
    operator.kickoffQueue data.getDepositOutpoint connector.1 connector.2 signedTxs
  let marked := { entered with queue := entered.queue ++ sent }.markKickoffConnectorAsUsed
    connector.1 connector.2 (some kickoffTxid)
  { marked with
    assignments := ⟨data.getDepositOutpoint, connector.1, connector.2, blockhash,
      kickoffTxid⟩ :: entered.assignments }

/-- The payout checker with the data of the payout enters the round, assigns the connector and
ends the round. -/
theorem runOnce_eq_ok_iff {state after : OperatorState} {pick : Nat}
    (data : PayoutData self state pick) {connector : RoundIndex × UInt32}
    (picked : self.getUnusedAndSignedKickoffConnector state data.stored.1 pick = some connector)
    {signedTxs : List (TransactionType × CircuitTransaction)} {kickoffTx : CircuitTransaction}
    (signed : self.createAndSignTxs (self.kickoffContext data.stored.2 connector.1 connector.2)
      (some (last20Bytes data.blockhash)) = .ok signedTxs)
    (kickoff : findTx .kickoff "Couldn't find kickoff tx in signed_txs" signedTxs = .ok kickoffTx) :
    self.runOnce pick state = .ok (true, after) ↔
      ∃ entered, self.enterRound true state connector.1 data.depositData.getDepositOutpoint =
          .ok entered ∧
        ∃ ended, self.endRound (self.assignedState entered data.depositData connector
            data.blockhash signedTxs (self.library.computeTxid kickoffTx)) = .ok ended ∧
          after = ended.markPayoutHandled data.payout.idx (self.library.computeTxid kickoffTx) := by
  simp only [runOnce, data.found, handlePayout, handleFinalizedPayout, assignKickoff,
    data.blockhash_eq, data.depositData_eq, data.stored_eq, data.height_eq, data.lcp_eq, picked,
    signed, kickoff, expectSome, okOr, liftPanic, liftBridge, bind_ok_iff, pure,
    Except.pure, ok.injEq, exists_eq_left', exists_const, Prod.mk.injEq, true_and, if_true]
  constructor
  · rintro ⟨_, ⟨_, ⟨entered, entersEq, rfl⟩, ended, endedEq, rfl⟩, rfl⟩
    exact ⟨entered, entersEq, ended, endedEq, rfl⟩
  · rintro ⟨entered, entersEq, ended, endedEq, rfl⟩
    exact ⟨_, ⟨_, ⟨entered, entersEq, rfl⟩, ended, endedEq, rfl⟩, rfl⟩

theorem enterRound_isOk_iff (signs : self.Signs) {state : OperatorState}
    (near : roundIdx = state.currentRoundIndex ∨ roundIdx = state.currentRoundIndex.nextRound)
    (depositOutpoint : OutPoint) :
    (∃ entered, self.enterRound true state roundIdx depositOutpoint = .ok entered) ↔
      roundIdx = state.currentRoundIndex ∨
        self.CanEnd state.currentRoundIndex (isAssigned state state.currentRoundIndex) := by
  by_cases same : roundIdx = state.currentRoundIndex
  · have stays : self.enterRound true state roundIdx depositOutpoint = .ok state := by
      rw [enterRound, if_pos (.inr same.symm)]
    exact ⟨fun _ => .inl same, fun _ => ⟨state, stays⟩⟩
  · have ends : self.enterRound true state roundIdx depositOutpoint = self.endRound state := by
      rw [enterRound, if_neg (by simpa using Ne.symm same), if_pos (near.resolve_left same).symm]
    rw [ends, endRound_isOk_iff signs]
    exact ⟨.inr, fun can => can.resolve_left same⟩

/-- When the payout checker handles the payout it finds. -/
theorem runOnce_isOk_iff (signs : self.Signs) {state : OperatorState}
    {pick : Nat} (data : PayoutData self state pick) {connector : RoundIndex × UInt32}
    (picked : self.getUnusedAndSignedKickoffConnector state data.stored.1 pick = some connector)
    (near : connector.1 = state.currentRoundIndex ∨
      connector.1 = state.currentRoundIndex.nextRound) :
    (∃ after, self.runOnce pick state = .ok (true, after) ∧
        ∀ row ∈ after.withdrawals, row.idx = data.payout.idx → row.isPayoutHandled = true) ↔
      (connector.1 = state.currentRoundIndex ∨
          self.CanEnd state.currentRoundIndex (isAssigned state state.currentRoundIndex)) ∧
        self.CanEnd connector.1 (isAssignedWith state connector) := by
  obtain ⟨signedTxs, kickoffTx, signed, kickoff⟩ := data.signs connector picked
  -- after the round is entered, the condition for ending it reads the old tables
  have endsAfter : ∀ entered, self.enterRound true state connector.1
        data.depositData.getDepositOutpoint = .ok entered →
      ((∃ ended, self.endRound (self.assignedState entered data.depositData connector
          data.blockhash signedTxs (self.library.computeTxid kickoffTx)) = .ok ended) ↔
        self.CanEnd connector.1 (isAssignedWith state connector)) := by
    intro entered entersEq
    obtain ⟨row, member, rfl⟩ := getUnusedAndSignedKickoffConnector_eq_some picked
    obtain ⟨⟨-, -, -, -, unused⟩, -⟩ := mem_firstUnusedKickoffs.mp member
    have enters := enterRound_eq_ok entersEq
    obtain ⟨current, -⟩ := entered_unused member enters
    have same : entered.usedKickoffConnectors row.roundIdx =
        state.usedKickoffConnectors row.roundIdx := by
      rcases enters with ⟨rfl, -⟩ | ⟨ends, next⟩
      · rfl
      · refine ends.others _ fun equal => ?_
        have indices := congrArg RoundIndex.toIndex (next.trans equal)
        rw [toIndex_nextRound] at indices
        omega
    rw [endRound_isOk_iff signs]
    change self.CanEnd entered.currentRoundIndex (isAssigned (entered.markKickoffConnectorAsUsed
      row.roundIdx row.kickoffIdx _) entered.currentRoundIndex) ↔ _
    rw [current]
    exact CanEnd.congr fun idx small =>
      @isAssigned_markKickoffConnectorAsUsed state entered (row.roundIdx, row.kickoffIdx) _ same
        unused idx small
  rw [← enterRound_isOk_iff signs near data.depositData.getDepositOutpoint]
  constructor
  · rintro ⟨after, ran, -⟩
    obtain ⟨entered, entersEq, ended, endedEq, -⟩ :=
      (runOnce_eq_ok_iff data picked signed kickoff).mp ran
    exact ⟨⟨entered, entersEq⟩, (endsAfter entered entersEq).mp ⟨ended, endedEq⟩⟩
  · rintro ⟨⟨entered, entersEq⟩, canEnd⟩
    obtain ⟨ended, endedEq⟩ := (endsAfter entered entersEq).mpr canEnd
    refine ⟨_, (runOnce_eq_ok_iff data picked signed kickoff).mpr
      ⟨entered, entersEq, ended, endedEq, rfl⟩, ?_⟩
    intro row member sameIdx
    obtain ⟨before, -, rfl⟩ := mem_map.mp member
    split_ifs at sameIdx ⊢ with handled
    · rfl
    · exact absurd sameIdx handled

/-- A round is ended as it should be, and a payout is handled, exactly when a connector of the
round is left over. -/
theorem rounds_end_iff (signs : self.Signs) (signed : SignedInEveryRound self)
    {withdrawals : List Withdrawal} {state : OperatorState}
    (reaches : self.Reaches (.new withdrawals) state) :
    (∀ round, state.currentRoundIndex = .round round → round < self.paramset.numRoundTxs →
      ((∃ after, self.endRound state = .ok after ∧ RoundEnded self round state after) ↔
        self.paramset.numKickoffsPerRound < 2 ^ 32 ∧
          self.CanEnd (.round round) (isAssigned state (.round round)))) ∧
    ∀ (pick : Nat) (data : PayoutData self state pick),
      state.currentRoundIndex.toIndex < self.paramset.numRoundTxs →
      ∃ connector,
        self.getUnusedAndSignedKickoffConnector state data.stored.1 pick = some connector ∧
        ((∃ after, self.runOnce pick state = .ok (true, after) ∧
            ∀ row ∈ after.withdrawals, row.idx = data.payout.idx → row.isPayoutHandled = true) ↔
          (connector.1 = state.currentRoundIndex ∨
              self.CanEnd state.currentRoundIndex (isAssigned state state.currentRoundIndex)) ∧
            self.CanEnd connector.1 (isAssignedWith state connector)) := by
  obtain ⟨sound, -⟩ := reaches.sound (sound_new withdrawals)
  refine ⟨fun round current _ => roundEnded_iff signs current, ?_⟩
  intro pick data left
  obtain ⟨connector, picked, near⟩ :=
    exists_unusedAndSignedKickoffConnector signed sound left data.stored_eq pick
  exact ⟨connector, picked, runOnce_isOk_iff signs data picked near⟩

end Operator

namespace Regtest

/-- The signer refuses the transactions of deposits, but none of those of a round. -/
theorem signs_operator : operator.Signs where
  pair built := by
    obtain ⟨round, readyToReimburse, -⟩ :=
      createRoundNthTxhandler_shapes (liftBridge_eq_ok.mp built)
    simp [Operator.CanSign, operator, round, readyToReimburse]
  burn _ built := by
    obtain ⟨_, -, built⟩ := bind_ok_iff.mp built
    obtain ⟨_, -, built⟩ := bind_ok_iff.mp built
    obtain ⟨_, -, finished⟩ := bind_ok_iff.mp built
    cases finished
    exact ⟨_, rfl⟩

/-- A payout of the operator that was not handled. -/
def withdrawal : Withdrawal where
  idx := 5
  moveToVaultTxid := zeroBytes
  payoutTxid := some zeroBytes
  payoutPayerOperatorXonlyPk := some operatorXonlyPk
  payoutTxBlockhash := some zeroBytes
  isPayoutHandled := false
  kickoffTxid := none

end Regtest

/-- A round with one kickoff is ended, and a payout is handled. -/
theorem rounds_end_iff_paidOut : (∃ after, operator.endRound paidOut = .ok after ∧
      Operator.RoundEnded operator 0 paidOut after) ∧
    ∃ after, operator.runOnce 0 (.new [withdrawal]) = .ok (true, after) ∧
      ∀ row ∈ after.withdrawals, row.idx = 5 → row.isPayoutHandled = true := by
  have read : new operator.kickoffWinternitzPublicKeys operator.paramset.numKickoffsPerRound
      operator.paramset.numRoundTxs = .ok ⟨replicate 6 [], 2, 2⟩ := rfl
  have built : ∀ round, round < 2 → ∃ pair, operator.roundTxhandlers ⟨replicate 6 [], 2, 2⟩
      (.round round) = .ok pair := by
    intro round small
    apply exists_eq_ok_of_isOk
    interval_cases round <;> decide +kernel
  constructor
  · refine ((Operator.rounds_end_iff signs_operator signedInEveryRound_operator
      reaches_paidOut).1 0 (by decide +kernel) (by decide)).mpr ⟨by decide, ?_⟩
    obtain ⟨pair, next⟩ := built 1 (by decide)
    exact ⟨_, pair, read, next, .inr ⟨1, by decide, by decide +kernel⟩⟩
  · have first : operator.getUnusedAndSignedKickoffConnector (.new [withdrawal]) 1 0 =
        some (.round 0, 0) := by
      decide +kernel
    let data : Operator.PayoutData operator (.new [withdrawal]) 0 := {
      payout := withdrawal
      found := by decide +kernel
      blockhash := zeroBytes
      blockhash_eq := rfl
      depositData
      depositData_eq := rfl
      stored := (1, depositData)
      stored_eq := by simp [operator]
      height := 192
      height_eq := rfl
      lcp_eq := rfl
      signs := by
        intro connector picked
        rw [first, Option.some.injEq] at picked
        have signed : (liftBridge (operator.createAndSignTxs (operator.kickoffContext depositData
            connector.1 connector.2) (some (Operator.last20Bytes zeroBytes))) >>=
              Operator.findTx .kickoff "Couldn't find kickoff tx in signed_txs").isOk = true := by
          rw [← picked]
          decide +kernel
        obtain ⟨kickoffTx, found⟩ := exists_eq_ok_of_isOk signed
        obtain ⟨signedTxs, created, kickoff⟩ := bind_ok_iff.mp found
        exact ⟨signedTxs, kickoffTx, liftBridge_eq_ok.mp created, kickoff⟩ }
    obtain ⟨connector, picked, handled⟩ := (Operator.rounds_end_iff signs_operator
      signedInEveryRound_operator (.refl (.new [withdrawal]))).2 0 data (by decide)
    rw [show data.stored.1 = 1 from rfl, first, Option.some.injEq] at picked
    obtain ⟨current, started⟩ := built 0 (by decide)
    obtain ⟨pair, next⟩ := built 1 (by decide)
    refine handled.mpr ⟨.inr ⟨_, current, read, started, .inl rfl⟩, ?_⟩
    rw [← picked]
    exact ⟨_, pair, read, next, .inr ⟨1, by decide, by decide +kernel⟩⟩

/-- A round whose connectors were all assigned to payouts cannot be ended. -/
theorem assigned_round_never_ends :
    operator.Signs ∧ Operator.SignedInEveryRound operator ∧
      operator.Reaches (.new []) allAssigned ∧
      allAssigned.currentRoundIndex = .round 0 ∧ 0 < operator.paramset.numRoundTxs ∧
      (operator.endRound allAssigned).map (fun _ => ()) =
        .error (.error (.bridge (.eyre (.text
          ("create_burn_unused_kickoff_connectors_txhandler called with " ++
            "no unused kickoff connectors"))))) :=
  ⟨signs_operator, signedInEveryRound_operator, .call reaches_paidOut _ true,
    by decide +kernel, by decide, by decide +kernel⟩

end Clementine
