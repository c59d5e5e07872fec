import Clementine.Core.Builder.Caching
import Clementine.Core.Builder.Taproot
import Clementine.Core.Verifier.OperatorKeys

/-!
# The kickoff in every mode

The kickoff is built with the scripts of its assertions and disprove output only when they are
spent; otherwise with the hashes that were stored when the operator sent its keys.  It is the same
transaction in each of these ways.
-/

namespace Clementine

open DepthTree ExceptRun ReimburseDbCache Except Option

variable {library : BuilderLibrary} {tapBranch : Bytes32 → Bytes32 → Bytes32}

/-! ## Outputs -/

section Outputs

variable (semantics : library.TaprootSemantics tapBranch)

include semantics

/-- The root of a single script is the hash of its leaf. -/
theorem taptreeRootHash_singleton (script : ScriptBuf) :
    taptreeRootHash library [script] = .ok (library.tapLeafHash script) := by
  have built : library.taprootMerkleRoot (taprootBuilderWithScripts [script]) =
      some (some (library.tapLeafHash script)) := semantics _
  rw [taptreeRootHash, built]
  rfl

theorem singleScriptRootHash_eq_ok {script : SpendableScript} {hash : Bytes32} :
    singleScriptRootHash library script = .ok hash ↔
      ∃ scriptBuf, script.toScriptBuf library = .ok scriptBuf ∧
        library.tapLeafHash scriptBuf = hash := by
  simp only [singleScriptRootHash, bind_ok_iff, taptreeRootHash_singleton semantics, ok.injEq]

/-- An output with a timeout and a script is the same with the script and with its leaf hash. -/
theorem assertOutput_agree {timeout script : SpendableScript} {timeoutBuf scriptBuf : ScriptBuf}
    (timeoutCompiled : timeout.toScriptBuf library = .ok timeoutBuf)
    (scriptCompiled : script.toScriptBuf library = .ok scriptBuf) (amount : UInt64) :
    ∃ withScript withHash,
      UnspentTxOut.fromScripts library amount [timeout, script] none = .ok withScript ∧
        createTaprootOutputWithHiddenNode library timeout (library.tapLeafHash scriptBuf) amount =
          .ok withHash ∧
        withScript.txout = withHash.txout := by
  have compiled : [timeout, script].mapM (SpendableScript.toScriptBuf library) =
      .ok [timeoutBuf, scriptBuf] :=
    mapM_ok_iff.mpr (.cons timeoutCompiled (.cons scriptCompiled .nil))
  have scriptsBuilt : taprootBuild library tapBranch
      (taprootBuilderWithScripts [timeoutBuf, scriptBuf]) = some (some _) := rfl
  have hashBuilt : taprootBuild library tapBranch
      [(1, .leaf timeoutBuf), (1, .hidden (library.tapLeafHash scriptBuf))] = some (some _) := rfl
  have withScript : createTaprootAddress library [timeoutBuf, scriptBuf] none = _ :=
    finalizeTaproot_eq semantics scriptsBuilt unspendableXonlyPubkey
  have withHash : finalizeTaproot library "cannot fail since it is a valid taptree" _ _ = _ :=
    finalizeTaproot_eq semantics hashBuilt unspendableXonlyPubkey
  refine ⟨_, _, bind_ok_iff.mpr ⟨_, compiled, bind_ok_iff.mpr
    ⟨_, withScript, rfl⟩⟩, bind_ok_iff.mpr ⟨_, timeoutCompiled,
      bind_ok_iff.mpr ⟨_, withHash, rfl⟩⟩, ?_⟩
  rfl

end Outputs

/-! ## Scripts and their hashes -/

variable (library) in
/-- The two build the same outputs, with any timeout. -/
def AssertScripts.Agree (scripts scripts' : AssertScripts) : Prop :=
  scripts.length = scripts'.length ∧ ∀ (timeout : SpendableScript) (timeoutBuf : ScriptBuf),
    timeout.toScriptBuf library = .ok timeoutBuf → ∀ amount : UInt64, ∃ outputs outputs',
      scripts.outputs library timeout amount = .ok outputs ∧
        scripts'.outputs library timeout amount = .ok outputs' ∧
        outputs.map UnspentTxOut.txout = outputs'.map UnspentTxOut.txout

variable (library) in
/-- The two build the same disprove output, with any timeout and additional script. -/
def DisprovePath.Agree (path path' : DisprovePath) : Prop :=
  ∀ (timeout : SpendableScript) (timeoutBuf : ScriptBuf),
    timeout.toScriptBuf library = .ok timeoutBuf →
      ∀ (additionalScript : ScriptBuf) (amount : UInt64), ∃ output output',
        createDisproveTaprootOutput library timeout additionalScript path amount = .ok output ∧
          createDisproveTaprootOutput library timeout additionalScript path' amount = .ok output' ∧
          output.txout = output'.txout

namespace AssertScripts.Agree

variable {scripts scripts' : AssertScripts} (agree : scripts.Agree library scripts')

include agree

theorem symm : scripts'.Agree library scripts := by
  refine ⟨agree.1.symm, fun timeout timeoutBuf compiled amount => ?_⟩
  obtain ⟨outputs, outputs', built, built', same⟩ := agree.2 timeout timeoutBuf compiled amount
  exact ⟨outputs', outputs, built', built, same.symm⟩

theorem left : scripts.Agree library scripts := by
  refine ⟨rfl, fun timeout timeoutBuf compiled amount => ?_⟩
  obtain ⟨outputs, outputs', built, built', same⟩ := agree.2 timeout timeoutBuf compiled amount
  exact ⟨outputs, outputs, built, built, rfl⟩

end AssertScripts.Agree

namespace DisprovePath.Agree

variable {path path' : DisprovePath} (agree : path.Agree library path')

include agree

theorem symm : path'.Agree library path := by
  intro timeout timeoutBuf compiled additionalScript amount
  obtain ⟨output, output', built, built', same⟩ :=
    agree timeout timeoutBuf compiled additionalScript amount
  exact ⟨output', output, built', built, same.symm⟩

theorem left : path.Agree library path := by
  intro timeout timeoutBuf compiled additionalScript amount
  obtain ⟨output, output', built, built', same⟩ :=
    agree timeout timeoutBuf compiled additionalScript amount
  exact ⟨output, output, built, built, rfl⟩

end DisprovePath.Agree

/-- Scripts build the same outputs as their hashes. -/
theorem AssertScripts.agree_of_hashed (semantics : library.TaprootSemantics tapBranch)
    {scripts : List SpendableScript} {hashes : List Bytes32}
    (hashed : scripts.mapM (singleScriptRootHash library) = .ok hashes) :
    AssertScripts.Agree library (.assertSpendableScript scripts)
      (.assertScriptTapNodeHash hashes) := by
  refine ⟨(length_mapM_ok hashed).symm, fun timeout timeoutBuf compiled amount => ?_⟩
  rw [mapM_ok_iff] at hashed
  simp only [AssertScripts.outputs, mapM_ok_iff, liftPanic_eq_ok]
  induction hashed with
  | nil => exact ⟨[], [], .nil, .nil, rfl⟩
  | cons head _ ih =>
    obtain ⟨scriptBuf, scriptCompiled, rfl⟩ := (singleScriptRootHash_eq_ok semantics).mp head
    obtain ⟨output, output', built, built', same⟩ :=
      assertOutput_agree semantics compiled scriptCompiled amount
    obtain ⟨outputs, outputs', rest, rest', sameRest⟩ := ih
    refine ⟨output :: outputs, output' :: outputs', .cons built rest, .cons built' rest', ?_⟩
    rw [List.map_cons, List.map_cons, same, sameRest]

variable {scripts : List ScriptBuf} {request : TransactionType} {db : BuilderDatabase}
  {context : ContractContext}

/-- Scripts that have a root are not empty. -/
theorem ne_nil_of_taptreeRootHash (semantics : library.TaprootSemantics tapBranch) {root : Bytes32}
    (hashed : taptreeRootHash library scripts = .ok root) : scripts ≠ [] := by
  rintro rfl
  have noRoot : library.taprootMerkleRoot (taprootBuilderWithScripts []) = some none := semantics _
  rw [taptreeRootHash, noRoot] at hashed
  cases hashed

/-- The disprove scripts build the same output as their root. -/
theorem DisprovePath.agree_of_hashed (semantics : library.TaprootSemantics tapBranch)
    (vecLength : scripts.length ≤ 2 ^ 63) {root : Bytes32}
    (hashed : taptreeRootHash library scripts = .ok root) :
    DisprovePath.Agree library (.scripts scripts) (.hiddenNode root) := by
  intro timeout timeoutBuf compiled additionalScript amount
  obtain ⟨root', withScripts, withHidden, rooted, built, built', same, -⟩ :=
    createDisproveTaprootOutput_agree semantics (ne_nil_of_taptreeRootHash semantics hashed)
      vecLength compiled additionalScript amount
  rw [taptreeRootHash, rooted] at hashed
  cases hashed
  exact ⟨withScripts, withHidden, built, built', same⟩

/-! ## The kickoff -/

section Kickoff

variable {kickoffData : KickoffData} {roundTxhandler moveTxhandler : TxHandler}
  {depositData : DepositData} {operatorXonlyPk : XOnlyPublicKey}
  {assertScripts assertScripts' latestBlockhashScript latestBlockhashScript' : AssertScripts}
  {disprovePath disprovePath' : DisprovePath} {additionalDisproveScript : List UInt8}
  {operatorUnlockHashes : List PublicHash} {paramset : ProtocolParamset} {kickoff : TxHandler}

/-- A kickoff that can be built is built as the same transaction with scripts that agree. -/
theorem createKickoffTxhandler_agree (asserts : assertScripts.Agree library assertScripts')
    (disproves : disprovePath.Agree library disprovePath')
    (latest : latestBlockhashScript.Agree library latestBlockhashScript')
    (built : createKickoffTxhandler library kickoffData roundTxhandler moveTxhandler depositData
      operatorXonlyPk assertScripts disprovePath additionalDisproveScript latestBlockhashScript
      operatorUnlockHashes paramset = .ok kickoff) :
    ∃ kickoff', createKickoffTxhandler library kickoffData roundTxhandler moveTxhandler depositData
        operatorXonlyPk assertScripts' disprovePath' additionalDisproveScript
        latestBlockhashScript' operatorUnlockHashes paramset = .ok kickoff' ∧
      kickoff'.getCachedTx = kickoff.getCachedTx := by
  simp only [createKickoffTxhandler, bind_ok_iff, liftPanic_eq_ok, errorIf_eq_ok, pure,
    Except.pure, ok.injEq] at built ⊢
  obtain ⟨txin, txinBuilt, nofnXonlyPk, nofn, challenge, challengeBuilt, nofnOutput,
    nofnOutputBuilt, disprove, disproveBuilt, _, single, latests, latestsBuilt, assertOutputs,
    assertsBuilt, watchtowers, watchtowersBuilt, rfl⟩ := built
  obtain ⟨disproveLeft, disprove', disproveBuiltLeft, disproveBuilt', sameDisprove⟩ :=
    disproves (.timelockScript (some operatorXonlyPk) paramset.disproveTimeoutTimelock) _ rfl
      additionalDisproveScript paramset.defaultUtxoAmount
  cases disproveBuilt.symm.trans disproveBuiltLeft
  obtain ⟨latestsLeft, latests', latestsBuiltLeft, latestsBuilt', sameLatests⟩ :=
    latest.2 (.timelockScript (some nofnXonlyPk) paramset.latestBlockhashTimeoutTimelock) _ rfl
      paramset.defaultUtxoAmount
  cases latestsBuilt.symm.trans latestsBuiltLeft
  obtain ⟨assertsLeft, asserts', assertsBuiltLeft, assertsBuilt', sameAsserts⟩ :=
    asserts.2 (.timelockScript (some nofnXonlyPk) paramset.assertTimeoutTimelock) _ rfl
      paramset.defaultUtxoAmount
  cases assertsBuilt.symm.trans assertsBuiltLeft
  refine ⟨_, ⟨txin, txinBuilt, nofnXonlyPk, nofn, challenge, challengeBuilt, nofnOutput,
    nofnOutputBuilt, disprove', disproveBuilt', (), latest.1 ▸ single, latests', latestsBuilt',
    asserts', assertsBuilt', watchtowers, watchtowersBuilt, rfl⟩, ?_⟩
  simp only [TxHandler.getCachedTx, TxHandler.finalize, List.map_append, List.map_cons,
    sameDisprove, sameLatests, sameAsserts]

/-- The disprove output of a kickoff. -/
theorem createKickoffTxhandler_disprove
    (built : createKickoffTxhandler library kickoffData roundTxhandler moveTxhandler depositData
      operatorXonlyPk assertScripts disprovePath additionalDisproveScript latestBlockhashScript
      operatorUnlockHashes paramset = .ok kickoff) :
    ∃ output, kickoff.txouts[UtxoVout.disprove.getVout.toNat]? = some output ∧
      createDisproveTaprootOutput library
        (.timelockScript (some operatorXonlyPk) paramset.disproveTimeoutTimelock)
        additionalDisproveScript disprovePath paramset.defaultUtxoAmount = .ok output := by
  simp only [createKickoffTxhandler, bind_ok_iff, liftPanic_eq_ok, errorIf_eq_ok, pure,
    Except.pure, ok.injEq] at built
  obtain ⟨_, _, _, _, _, _, _, _, disprove, disproveBuilt, _, _, _, _, _, _, _, _, rfl⟩ := built
  exact ⟨disprove, rfl, disproveBuilt⟩

end Kickoff

/-! ## Stored data -/

section Stored

variable {operatorData : OperatorData} {depositData : DepositData} {kickoffIdx : UInt32}
  {moveTxhandler roundTxhandler : TxHandler} {additionalScript : List UInt8}
  {hashes : List PublicHash} {setup : List Bytes32 × Bytes32 × Bytes32}
  {bitvmPks : ClementineBitVMPublicKeys}

theorem exists_of_bitvmSetup {paramset : ProtocolParamset} {operatorXonlyPk : XOnlyPublicKey}
    (computed : bitvmSetup library paramset operatorXonlyPk bitvmPks = .ok setup) :
    ∃ assertScripts disproveScripts, bitvmPks.getAssertScripts operatorXonlyPk = .ok assertScripts ∧
        assertScripts.mapM (singleScriptRootHash library) = .ok setup.1 ∧
        library.getG16VerifierDisproveScripts bitvmPks = some disproveScripts ∧
        taptreeRootHash library disproveScripts = .ok setup.2.1 ∧
        singleScriptRootHash library (.winternitzCommit [(bitvmPks.latestBlockhashPk, 40)]
          operatorXonlyPk paramset.winternitzLogD) = .ok setup.2.2 := by
  obtain ⟨hashes, root, latest⟩ := setup
  simp only [bitvmSetup, ClementineBitVMPublicKeys.getAssertTaprootLeafHashes,
    bind_ok_iff, liftPanic_eq_ok, okOr_eq_ok, pure, Except.pure, ok.injEq,
    Prod.mk.injEq] at computed
  obtain ⟨_, ⟨assertScripts, made, hashed⟩, scripts, replaced, _, rooted, _, latestHashed, rfl,
    rfl, rfl⟩ := computed
  exact ⟨assertScripts, scripts, made, hashed, replaced, rooted, latestHashed⟩

variable (library db context operatorData depositData) in
/-- The rows of the operator and the deposit hold the keys and what follows from them. -/
structure SetupStored (setup : List Bytes32 × Bytes32 × Bytes32)
    (bitvmPks : ClementineBitVMPublicKeys) : Prop where
  hashes : db.getBitvmSetup context.operatorXonlyPk depositData.getDepositOutpoint = some setup
  keys : ∃ payoutTxBlockhashPk,
    db.getOperatorBitvmKeys context.operatorXonlyPk depositData.getDepositOutpoint =
      some (bitvmPks.toFlattenedVec payoutTxBlockhashPk)
  sized : bitvmPks.WellSized
  computed : bitvmSetup library context.paramset operatorData.xonlyPk bitvmPks = .ok setup

variable (library context depositData bitvmPks) in
/-- The request is made with the signer of the keys, if it needs one. -/
def OwnKeys (request : TransactionType) : Prop :=
  request.needsScripts = true → ∀ signer, context.signer = some signer →
    ∀ generated, signer.generateBitvmPksForDeposit library depositData.getDepositOutpoint =
      .ok generated → generated = bitvmPks

/-- The stored keys are read back. -/
theorem SetupStored.getOperatorBitvmKeys_eq (deposit : context.depositData = some depositData)
    (stored : SetupStored library db context operatorData depositData setup bitvmPks) :
    (fromContext db context).getOperatorBitvmKeys = .ok bitvmPks := by
  obtain ⟨payoutTxBlockhashPk, keys⟩ := stored.keys
  simp only [getOperatorBitvmKeys, getDepositOutpoint,
    fromContext, deposit, map_some, bind_ok_iff, okOr_eq_ok,
    some.injEq, liftPanic_eq_ok]
  exact ⟨_, rfl, _, keys, ClementineBitVMPublicKeys.fromFlattenedVec_toFlattenedVec stored.sized _⟩

/-- The disprove scripts are those of the stored keys. -/
theorem disprovePathFor_disprove (deposit : context.depositData = some depositData)
    (stored : SetupStored library db context operatorData depositData setup bitvmPks)
    {disproveScripts : List ScriptBuf}
    (replaced : library.getG16VerifierDisproveScripts bitvmPks = some disproveScripts)
    (root : Bytes32) :
    disprovePathFor library .disprove (.fromContext db context) root =
      .ok (.scripts disproveScripts) := by
  rw [disprovePathFor, if_pos rfl]
  simp only [bind_ok_iff, okOr_eq_ok]
  exact ⟨bitvmPks, stored.getOperatorBitvmKeys_eq deposit, disproveScripts, replaced, rfl⟩

variable {revealed : List TxHandler} (semantics : library.TaprootSemantics tapBranch)
  (vecLength : ∀ keys scripts, library.getG16VerifierDisproveScripts keys = some scripts →
    scripts.length ≤ 2 ^ 63) (deposit : context.depositData = some depositData)
  (stored : SetupStored library db context operatorData depositData setup bitvmPks)

include semantics vecLength deposit stored

/-- In every mode the kickoff is the transaction that is built with the stored hashes. -/
theorem kickoffTxhandlers_reference
    (ownKeys : OwnKeys library context depositData bitvmPks request) {kickoff : TxHandler}
    (built : kickoffTxhandlers library context (.fromContext db context) operatorData depositData
      kickoffIdx moveTxhandler roundTxhandler additionalScript hashes request =
        .ok (kickoff, revealed)) :
    ∃ reference, kickoffWith library context (.fromContext db context) operatorData depositData
        kickoffIdx moveTxhandler roundTxhandler additionalScript hashes
        (.assertScriptTapNodeHash setup.1) (.hiddenNode setup.2.1)
        (.assertScriptTapNodeHash [setup.2.2]) = .ok reference ∧
      reference.getCachedTx = kickoff.getCachedTx := by
  obtain ⟨assertScripts, disproveScripts, made, hashed, replaced, rooted, latestHashed⟩ :=
    exists_of_bitvmSetup stored.computed
  have assertsAgree := AssertScripts.agree_of_hashed semantics hashed
  have disprovesAgree :=
    DisprovePath.agree_of_hashed semantics (vecLength _ _ replaced) rooted
  have latestAgree := AssertScripts.agree_of_hashed semantics
    (mapM_ok_iff.mpr (.cons latestHashed .nil))
  have setupRead : (fromContext db context).getBitvmSetup = .ok setup := by
    simp only [getBitvmSetup, getDepositOutpoint,
      fromContext, deposit, map_some, bind_ok_iff, okOr_eq_ok]
    exact ⟨_, rfl, stored.hashes⟩
  simp only [kickoffTxhandlers, bind_ok_iff] at built
  obtain ⟨_, setupFound, disprovePath, pathBuilt, branch⟩ := built
  cases setupRead.symm.trans setupFound
  have pathAgrees : disprovePath.Agree library (.hiddenNode setup.2.1) := by
    by_cases isDisprove : request = .disprove
    · rw [isDisprove, disprovePathFor_disprove deposit stored replaced] at pathBuilt
      cases pathBuilt
      exact disprovesAgree
    · rw [disprovePathFor, if_neg isDisprove] at pathBuilt
      cases pathBuilt
      exact disprovesAgree.symm.left
  cases needed : request.needsScripts with
  | false =>
    rw [needed, cond_false] at branch
    obtain ⟨built, kickoffBuilt, finished⟩ := bind_ok_iff.mp branch
    cases finished
    exact createKickoffTxhandler_agree assertsAgree.symm.left pathAgrees
      latestAgree.symm.left kickoffBuilt
  | true =>
    rw [needed, cond_true] at branch
    simp only [revealedKickoffTxhandlers, bind_ok_iff, okOr_eq_ok, liftPanic_eq_ok,
      pure, Except.pure, ok.injEq, Prod.mk.injEq] at branch
    obtain ⟨actor, signer, generated, generatedKeys, scripts, scriptsMade, built, kickoffBuilt,
      _, _, _, _, rfl, -⟩ := branch
    cases ownKeys needed actor signer generated generatedKeys
    cases made.symm.trans scriptsMade
    exact createKickoffTxhandler_agree assertsAgree pathAgrees latestAgree kickoffBuilt

/-- The kickoff for the disprove transaction holds the disprove scripts. -/
theorem kickoffTxhandlers_disprove {kickoff : TxHandler}
    (built : kickoffTxhandlers library context (.fromContext db context) operatorData depositData
      kickoffIdx moveTxhandler roundTxhandler additionalScript hashes .disprove =
        .ok (kickoff, revealed)) :
    ∃ disproveScripts output timeoutBuf,
      library.getG16VerifierDisproveScripts bitvmPks = some disproveScripts ∧
        kickoff.txouts[UtxoVout.disprove.getVout.toNat]? = some output ∧
        DisproveScripts library tapBranch timeoutBuf additionalScript disproveScripts output := by
  obtain ⟨_, disproveScripts, _, _, replaced, rooted, _⟩ := exists_of_bitvmSetup stored.computed
  simp only [kickoffTxhandlers, bind_ok_iff] at built
  obtain ⟨_, _, disprovePath, pathBuilt, branch⟩ := built
  rw [disprovePathFor_disprove deposit stored replaced] at pathBuilt
  cases pathBuilt
  obtain ⟨_, kickoffBuilt, finished⟩ := bind_ok_iff.mp branch
  cases finished
  obtain ⟨output, found, outputBuilt⟩ := createKickoffTxhandler_disprove kickoffBuilt
  obtain ⟨_, withScripts, _, _, scriptsBuilt, _, _, proofs⟩ :=
    @createDisproveTaprootOutput_agree _ _ disproveScripts semantics
      (ne_nil_of_taptreeRootHash semantics rooted) (vecLength _ _ replaced)
      (.timelockScript (some operatorData.xonlyPk) context.paramset.disproveTimeoutTimelock) _ rfl
      additionalScript context.paramset.defaultUtxoAmount
  cases outputBuilt.symm.trans scriptsBuilt
  exact ⟨disproveScripts, output, _, replaced, found, proofs⟩

end Stored

/-! ## Requests -/

section Requests

variable {calls : List SetOperatorKeys} {operatorData : OperatorData} {keys : KickoffWinternitzKeys}
  {parts : DepositParts}

variable (library calls) in
/-- A request for scripts is made with the signer whose keys were sent for the deposit. -/
def SentKeys (context : ContractContext) (request : TransactionType) : Prop :=
  request.needsScripts = true → ∀ signer depositData, context.signer = some signer →
    context.depositData = some depositData → ∀ call ∈ calls,
      call.operatorXonlyPk = context.operatorXonlyPk →
        call.depositData.getDepositOutpoint = depositData.getDepositOutpoint →
          call.keys.SentBy library signer depositData.getDepositOutpoint

/-- For a kickoff that is built, keys and hashes are stored. -/
theorem DepositParts.Valid.setupStored
    (valid : DepositParts.Valid library db request context operatorData keys parts)
    (storedBy : StoredBy library context.paramset calls db) :
    ∃ setup bitvmPks, SetupStored library db context operatorData parts.depositData setup bitvmPks ∧
        (SentKeys library calls context request →
          OwnKeys library context parts.depositData bitvmPks request) := by
  obtain ⟨setup, setupRead, -⟩ := bind_ok_iff.mp valid.kickoff
  simp only [getBitvmSetup, getDepositOutpoint,
    fromContext, valid.depositData, map_some, bind_ok_iff,
    okOr_eq_ok, some.injEq] at setupRead
  obtain ⟨_, rfl, setupFound⟩ := setupRead
  have keysStored := storedBy.together context.operatorXonlyPk parts.depositData.getDepositOutpoint
  rw [setupFound, isSome_some, eq_comm] at keysStored
  obtain ⟨flattened, keysFound⟩ := isSome_iff_exists.mp keysStored
  obtain ⟨call, member, operatorEq, depositEq, storedData, winternitzKeys, bitvmPks, payout,
    operatorFound, parsed, unflattened, computed, rfl⟩ :=
    storedBy.rows _ _ _ _ setupFound keysFound
  have sameOperator : storedData = operatorData := by
    have read := okOr_eq_ok.mp valid.setup.readsOperator
    rw [operatorEq] at operatorFound
    exact some.inj (operatorFound.symm.trans read)
  subst sameOperator
  refine ⟨setup, bitvmPks, ⟨setupFound, ⟨payout, keysFound⟩,
    ClementineBitVMPublicKeys.fromFlattenedVec_wellSized unflattened, computed⟩, ?_⟩
  intro sent needed signer signerEq generated generatedEq
  have received := (sent needed signer _ signerEq valid.depositData call member operatorEq
    depositEq).received generatedEq parsed unflattened
  exact received.symm

/-- Two requests for a kickoff, whoever signs, build it as the same transaction. -/
theorem DepositParts.Valid.kickoff_agree (semantics : library.TaprootSemantics tapBranch)
    (vecLength : ∀ keys scripts, library.getG16VerifierDisproveScripts keys = some scripts →
      scripts.length ≤ 2 ^ 63)
    (storedBy : StoredBy library context.paramset calls db)
    (valid : DepositParts.Valid library db request context operatorData keys parts)
    (sent : SentKeys library calls context request) {signer' : Option Actor}
    {request' : TransactionType} {operatorData' : OperatorData} {keys' : KickoffWinternitzKeys}
    {parts' : DepositParts}
    (valid' : DepositParts.Valid library db request' { context with signer := signer' }
      operatorData' keys' parts')
    (sent' : SentKeys library calls { context with signer := signer' } request') :
    parts.kickoff.getCachedTx = parts'.kickoff.getCachedTx := by
  obtain ⟨setup, bitvmPks, stored, owned⟩ := valid.setupStored storedBy
  obtain ⟨setup', bitvmPks', stored', owned'⟩ := valid'.setupStored storedBy
  obtain ⟨reference, referenceBuilt, same⟩ := kickoffTxhandlers_reference semantics vecLength
    valid.depositData stored (owned sent) valid.kickoff
  obtain ⟨reference', referenceBuilt', same'⟩ := kickoffTxhandlers_reference semantics vecLength
    valid'.depositData stored' (owned' sent') valid'.kickoff
  -- everything but the scripts is read from the part of the context that the two share
  obtain ⟨depositData, kickoffIdx, hashes, withMove, ⟨round, ready, next, move⟩, script, kickoff,
    revealed, contract⟩ := parts
  obtain ⟨depositData', kickoffIdx', hashes', withMove', ⟨round', ready', next', move'⟩, script',
    kickoff', revealed', contract'⟩ := parts'
  cases valid.setup.readsOperator.symm.trans valid'.setup.readsOperator
  cases valid.setup.readsKeys.symm.trans valid'.setup.readsKeys
  cases valid.depositData.symm.trans valid'.depositData
  cases valid.kickoffIdx.symm.trans valid'.kickoffIdx
  cases valid.rounds.symm.trans valid'.rounds
  cases valid.moveToVault.symm.trans valid'.moveToVault
  cases valid.hashes.symm.trans valid'.hashes
  cases valid.additionalScript.symm.trans valid'.additionalScript
  cases stored.hashes.symm.trans stored'.hashes
  cases referenceBuilt.symm.trans referenceBuilt'
  exact same.symm.trans same'

variable (library) (tapBranch : Bytes32 → Bytes32 → Bytes32) in
/-- The kickoff and its outputs are the same in each of the ways in which they are built. -/
structure ModesAgree : Prop where
  /-- No call of the builders fails, and the disprove output with the scripts is the one with
  the root that is stored for them.  The bound is that of the length of a `Vec`. -/
  disproveOutput : ∀ scripts : List ScriptBuf, scripts ≠ [] → scripts.length ≤ 2 ^ 63 →
    ∀ (timeout : SpendableScript) (timeoutBuf : ScriptBuf),
      timeout.toScriptBuf library = .ok timeoutBuf →
        ∀ (additionalScript : ScriptBuf) (amount : UInt64), ∃ root withScripts withHidden,
          taptreeRootHash library scripts = .ok root ∧
            createDisproveTaprootOutput library timeout additionalScript (.scripts scripts)
              amount = .ok withScripts ∧
            createDisproveTaprootOutput library timeout additionalScript (.hiddenNode root)
              amount = .ok withHidden ∧
            withScripts.txout = withHidden.txout ∧
            DisproveScripts library tapBranch timeoutBuf additionalScript scripts withScripts
  /-- The output of an assertion with its script is the one with the stored hash. -/
  assertOutput : ∀ (timeout script : SpendableScript) (timeoutBuf scriptBuf : ScriptBuf),
    timeout.toScriptBuf library = .ok timeoutBuf → script.toScriptBuf library = .ok scriptBuf →
      ∀ amount : UInt64, ∃ hash withScript withHash,
        singleScriptRootHash library script = .ok hash ∧
          UnspentTxOut.fromScripts library amount [timeout, script] none = .ok withScript ∧
          createTaprootOutputWithHiddenNode library timeout hash amount = .ok withHash ∧
          withScript.txout = withHash.txout
  /-- With what `set_operator_keys` stored, any two requests return a kickoff with the same id,
  and the one for the disprove transaction holds the disprove scripts. -/
  kickoff : ∀ (initial : BuilderDatabase) (calls : List SetOperatorKeys)
    (context : ContractContext) (signer' : Option Actor) (request request' : TransactionType)
    (cache cache' : TxHandlerCache) (txhandlers txhandlers' : TxHandlers × TxHandlerCache),
    (∀ operator deposit, initial.getBitvmSetup operator deposit = none ∧
      initial.getOperatorBitvmKeys operator deposit = none) →
    let db := SetOperatorKeys.runAll library context.paramset initial calls
    let context' := { context with signer := signer' }
    request.isCollateral = false → request'.isCollateral = false →
    SentKeys library calls context request → SentKeys library calls context' request' →
    cache.Coherent library db context → cache'.Coherent library db context' →
    createTxhandlers library request context cache (.fromContext db context) = .ok txhandlers →
    createTxhandlers library request' context' cache' (.fromContext db context') = .ok txhandlers' →
    ∃ kickoff kickoff', txhandlers.1[TransactionType.kickoff]? = some kickoff ∧
      txhandlers'.1[TransactionType.kickoff]? = some kickoff' ∧
      kickoff.getTxid library = kickoff'.getTxid library ∧
      (request = .disprove → ∃ bitvmPks disproveScripts output timeoutBuf additionalScript,
        (fromContext db context).getOperatorBitvmKeys = .ok bitvmPks ∧
          library.getG16VerifierDisproveScripts bitvmPks = some disproveScripts ∧
          kickoff.txouts[UtxoVout.disprove.getVout.toNat]? = some output ∧
          DisproveScripts library tapBranch timeoutBuf additionalScript disproveScripts output)

/-- The kickoff is the same in every mode of construction. -/
theorem kickoff_modes_agree (semantics : library.TaprootSemantics tapBranch)
    (vecLength : ∀ keys scripts, library.getG16VerifierDisproveScripts keys = some scripts →
      scripts.length ≤ 2 ^ 63) :
    ModesAgree library tapBranch := by
  refine ⟨?_, ?_, ?_⟩
  · intro scripts notEmpty short timeout timeoutBuf compiled additionalScript amount
    obtain ⟨root, withScripts, withHidden, rooted, built, built', same, proofs⟩ :=
      createDisproveTaprootOutput_agree semantics notEmpty short compiled additionalScript amount
    refine ⟨root, withScripts, withHidden, ?_, built, built', same, proofs⟩
    rw [taptreeRootHash, rooted]
    rfl
  · intro timeout script timeoutBuf scriptBuf timeoutCompiled scriptCompiled amount
    obtain ⟨withScript, withHash, built, built', same⟩ :=
      assertOutput_agree semantics timeoutCompiled scriptCompiled amount
    exact ⟨_, withScript, withHash,
      (singleScriptRootHash_eq_ok semantics).mpr ⟨scriptBuf, scriptCompiled, rfl⟩, built, built',
      same⟩
  · intro initial calls context signer' request request' cache cache' txhandlers txhandlers' empty
      db context' kickoffRequest kickoffRequest' sent sent' coherent coherent' returned returned'
    have storedBy : StoredBy library context.paramset calls db := (StoredBy.runAll empty calls).1
    obtain ⟨operatorData, keys, parts, valid, sameMap⟩ :=
      createTxhandlers_parts coherent kickoffRequest returned
    obtain ⟨operatorData', keys', parts', valid', sameMap'⟩ :=
      createTxhandlers_parts coherent' kickoffRequest' returned'
    refine ⟨parts.kickoff, parts'.kickoff, ?_, ?_, ?_, ?_⟩
    · rw [sameMap, valid.getElem?_kickoff]
    · rw [sameMap', valid'.getElem?_kickoff]
    · exact congrArg library.computeTxid
        (valid.kickoff_agree semantics vecLength storedBy sent valid' sent')
    · rintro rfl
      obtain ⟨setup, bitvmPks, stored, -⟩ := valid.setupStored storedBy
      obtain ⟨disproveScripts, output, timeoutBuf, replaced, found, proofs⟩ :=
        kickoffTxhandlers_disprove semantics vecLength valid.depositData stored valid.kickoff
      exact ⟨bitvmPks, disproveScripts, output, timeoutBuf, _,
        stored.getOperatorBitvmKeys_eq valid.depositData, replaced, found, proofs⟩

end Requests

/-- The disprove output above three scripts is built alike from the scripts and from the root. -/
theorem kickoff_modes_agree_three_scripts : ∃ root withScripts withHidden,
      taptreeRootHash Recorded.treeLibrary [[0x51], [0x52], [0x53]] = .ok root ∧
        createDisproveTaprootOutput Recorded.treeLibrary (.timelockScript none 720) [0x54]
          (.scripts [[0x51], [0x52], [0x53]]) 330 = .ok withScripts ∧
        createDisproveTaprootOutput Recorded.treeLibrary (.timelockScript none 720) [0x54]
          (.hiddenNode root) 330 = .ok withHidden ∧
        withScripts.txout = withHidden.txout ∧
        withScripts.txout = ⟨330, p2trScriptPubkey Recorded.disproveTweak.2⟩ := by
  have agree : ModesAgree Recorded.treeLibrary Recorded.nodeHash :=
    kickoff_modes_agree (fun _ => rfl) fun _ _ same => by cases same
  obtain ⟨root, withScripts, withHidden, rooted, built, hidden, same, -⟩ :=
    agree.disproveOutput [[0x51], [0x52], [0x53]] (by decide) (by decide)
      (.timelockScript none 720) _ rfl [0x54] 330
  have output : (createDisproveTaprootOutput Recorded.treeLibrary (.timelockScript none 720) [0x54]
      (.scripts [[0x51], [0x52], [0x53]]) 330).map UnspentTxOut.txout =
        .ok ⟨330, p2trScriptPubkey Recorded.disproveTweak.2⟩ := by
    decide +kernel
  rw [built] at output
  exact ⟨root, withScripts, withHidden, rooted, built, hidden, same, Except.ok.inj output⟩

end Clementine
