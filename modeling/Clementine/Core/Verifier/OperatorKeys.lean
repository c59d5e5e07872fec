import Clementine.Core.Builder.Creator

/-!
# The keys of an operator for a deposit

Before a deposit is signed, every operator sends its hashes and Winternitz keys for it, and the
verifiers store them with what they compute from them: the leaf hashes of the assertion scripts,
the root of the disprove scripts and the hash of the script for the latest block hash.

The first call that succeeds decides what is stored, keys and hashes together.
-/

namespace Clementine

open ClementineBitVMPublicKeys ExceptRun List Except

/-- `OperatorKeys`, as it is sent. -/
structure OperatorKeys where
  challengeAckDigests : List (List UInt8)
  winternitzPubkeys : List (List (List UInt8))

/-- What `set_operator_keys` can fail with. -/
inductive OperatorKeysError where
  | bridge (error : BridgeError)
  /-- Invalid hash length, expected 20 bytes. -/
  | hashLength (got : Nat)
  /-- Invalid number of challenge ack hashes received from operator. -/
  | numChallengeAckHashes (operatorXonlyPk : XOnlyPublicKey) (got expected : Nat)
  /-- Operator challenge ack hashes mismatch. -/
  | operatorChallengeAckHashesMismatch (operatorXonlyPk : XOnlyPublicKey) (deposit : OutPoint)
  /-- Invalid number of winternitz keys received from operator. -/
  | numWinternitzKeys (operatorXonlyPk : XOnlyPublicKey) (got expected : Nat)
  | rpcParamOversized (name : String) (size : Nat)
  /-- Incorrect length, expected 20. -/
  | rpcParamMalformed (name : String) (got : Nat)
  /-- The disprove scripts cannot be made for the keys. -/
  | disproveScripts
  /-- BitVM setup data mismatch. -/
  | bitvmSetupDataMismatch (operatorXonlyPk : XOnlyPublicKey) (deposit : OutPoint)

/-- Results of `set_operator_keys`. -/
abbrev KeysResult (α : Type) := Except (Failure OperatorKeysError) α

/-- `try_into` of a vector for an array of 20 bytes. -/
def tryIntoHash (bytes : List UInt8) : Option PublicHash :=
  if length : bytes.length = 20 then some ⟨bytes.toArray, by simpa using length⟩ else none

@[simp] theorem tryIntoHash_toList (hash : PublicHash) : tryIntoHash hash.toList = some hash := by
  rw [tryIntoHash, dif_pos (by simp)]
  simp [Vector.toList]

/-- `MAX_WINTERNITZ_DIGITS_PER_KEY`. -/
def maxWinternitzDigitsPerKey : Nat := 68

/-- `MAX_BYTES_PER_WINTERNITZ_KEY`. -/
def maxBytesPerWinternitzKey : Nat := maxWinternitzDigitsPerKey * 20

/-- `TryFrom<WinternitzPubkey>` for a Winternitz key. -/
def winternitzTryFrom (digitPubkey : List (List UInt8)) : KeysResult WinternitzPublicKey := do
  errorIf (maxWinternitzDigitsPerKey < digitPubkey.length)
    (.rpcParamOversized "digit_pubkey" digitPubkey.length)
  errorIf (maxBytesPerWinternitzKey < digitPubkey.length * 20)
    (.rpcParamOversized "digit_pubkey" digitPubkey.length)
  digitPubkey.zipIdx.mapM fun entry =>
    okOr (.rpcParamMalformed ("digit_pubkey.[" ++ toString entry.2 ++ "]") entry.1.length)
      (tryIntoHash entry.1)

namespace ClementineBitVMPublicKeys

/-- `get_replacable_value`. -/
def getReplacableValue (pkTypeIdx : UInt8) (pkIdx : UInt16) (digitIdx : UInt8) : PublicHash :=
  #v[pkTypeIdx, (pkIdx >>> 8).toUInt8, pkIdx.toUInt8, digitIdx] ++ Vector.replicate 16 (255 : UInt8)

/-- `get_replacable_wpks`. -/
def getReplacableWpks (digitLen : Nat) (pkTypeIdx : UInt8) (pkIdx : UInt16) :
    WinternitzPublicKey :=
  (range digitLen).map fun digitIdx => getReplacableValue pkTypeIdx pkIdx digitIdx.toUInt8

/-- `to_flattened_vec`, with the key of the payout's block hash, which nothing else reads. -/
def toFlattenedVec (payoutTxBlockhashPk : WinternitzPublicKey) (self : ClementineBitVMPublicKeys) :
    List WinternitzPublicKey :=
  [payoutTxBlockhashPk, self.latestBlockhashPk, self.challengeSendingWatchtowersPk] ++
    self.bitvmPks.1 ++ self.bitvmPks.2.1 ++ self.bitvmPks.2.2

/-- `number_of_flattened_wpks`. -/
def numberOfFlattenedWpks : Nat := 381

end ClementineBitVMPublicKeys

section Store

variable (library : BuilderLibrary) (paramset : ProtocolParamset)

/-- `try_into_taptree` of the builder for scripts, and the root of the tree. -/
def taptreeRootHash (scripts : List ScriptBuf) : Except Panic Bytes32 :=
  expectSome "taproot builder always builds a full taptree"
    (library.taprootMerkleRoot (taprootBuilderWithScripts scripts)).join

/-- The root of the tree with a single script. -/
def singleScriptRootHash (script : SpendableScript) : Except Panic Bytes32 := do
  let scriptBuf ← script.toScriptBuf library
  taptreeRootHash library [scriptBuf]

/-- `get_assert_taproot_leaf_hashes`. -/
def ClementineBitVMPublicKeys.getAssertTaprootLeafHashes (self : ClementineBitVMPublicKeys)
    (xonlyPublicKey : XOnlyPublicKey) : Except Panic (List Bytes32) := do
  let assertScripts ← self.getAssertScripts xonlyPublicKey
  assertScripts.mapM (singleScriptRootHash library)

/-- What is stored of the scripts for the keys. -/
def bitvmSetup (operatorXonlyPk : XOnlyPublicKey) (bitvmPks : ClementineBitVMPublicKeys) :
    KeysResult (List Bytes32 × Bytes32 × Bytes32) := do
  let assertTxAddrs ← liftPanic (bitvmPks.getAssertTaprootLeafHashes library operatorXonlyPk)
  let scripts ← okOr .disproveScripts (library.getG16VerifierDisproveScripts bitvmPks)
  let rootHash ← liftPanic (taptreeRootHash library scripts)
  let latestBlockhashScript : SpendableScript :=
    .winternitzCommit [(bitvmPks.latestBlockhashPk, 40)] operatorXonlyPk paramset.winternitzLogD
  let latestBlockhashRootHash ← liftPanic (singleScriptRootHash library latestBlockhashScript)
  return (assertTxAddrs, rootHash, latestBlockhashRootHash)

/-- `INSERT … ON CONFLICT DO NOTHING`: a row that is there is kept. -/
def insertRow {α : Type} (table : XOnlyPublicKey → OutPoint → Option α)
    (operatorXonlyPk : XOnlyPublicKey) (depositOutpoint : OutPoint) (row : α) :
    XOnlyPublicKey → OutPoint → Option α :=
  fun operator deposit =>
    if operator = operatorXonlyPk ∧ deposit = depositOutpoint then
      some ((table operatorXonlyPk depositOutpoint).getD row)
    else table operator deposit

namespace BuilderDatabase

variable (self : BuilderDatabase) (operatorXonlyPk : XOnlyPublicKey) (depositOutpoint : OutPoint)

/-- `insert_operator_challenge_ack_hashes_if_not_exist`; hashes that are there are compared. -/
def insertOperatorChallengeAckHashesIfNotExist (publicHashes : List PublicHash) :
    KeysResult BuilderDatabase := do
  let existingHashes := self.getOperatorsChallengeAckHashes operatorXonlyPk depositOutpoint
  errorIf (existingHashes.getD publicHashes ≠ publicHashes)
    (.operatorChallengeAckHashesMismatch operatorXonlyPk depositOutpoint)
  return { self with
    getOperatorsChallengeAckHashes :=
      insertRow self.getOperatorsChallengeAckHashes operatorXonlyPk depositOutpoint publicHashes }

/-- `insert_operator_bitvm_keys_if_not_exist`; keys that are there are not compared. -/
def insertOperatorBitvmKeysIfNotExist (winternitzPublicKey : List WinternitzPublicKey) :
    BuilderDatabase :=
  { self with
    getOperatorBitvmKeys :=
      insertRow self.getOperatorBitvmKeys operatorXonlyPk depositOutpoint winternitzPublicKey }

/-- `insert_bitvm_setup_if_not_exists`; a setup that is there is compared. -/
def insertBitvmSetupIfNotExists (setup : List Bytes32 × Bytes32 × Bytes32) :
    KeysResult BuilderDatabase := do
  let existing := self.getBitvmSetup operatorXonlyPk depositOutpoint
  errorIf (existing.getD setup ≠ setup) (.bitvmSetupDataMismatch operatorXonlyPk depositOutpoint)
  return { self with
    getBitvmSetup := insertRow self.getBitvmSetup operatorXonlyPk depositOutpoint setup }

end BuilderDatabase

/-- The keys of a message, from their number on. -/
def parseBitvmPks (keys : OperatorKeys) (operatorXonlyPk : XOnlyPublicKey) :
    KeysResult (List WinternitzPublicKey) := do
  errorIf (keys.winternitzPubkeys.length ≠ numberOfFlattenedWpks)
    (.numWinternitzKeys operatorXonlyPk keys.winternitzPubkeys.length numberOfFlattenedWpks)
  keys.winternitzPubkeys.mapM winternitzTryFrom

/-- A call of `set_operator_keys`, with the outcome of the checks that do not read the keys: the
key of all verifiers, the validity of the deposit and its insertion. -/
structure SetOperatorKeys where
  depositChecks : KeysResult Unit
  depositData : DepositData
  keys : OperatorKeys
  operatorXonlyPk : XOnlyPublicKey

/-- `set_operator_keys`; its changes are committed at the end. -/
def setOperatorKeys (db : BuilderDatabase) (call : SetOperatorKeys) : KeysResult BuilderDatabase :=
  do
  call.depositChecks
  let hashes ← call.keys.challengeAckDigests.mapM fun digest =>
    okOr (.hashLength digest.length) (tryIntoHash digest)
  errorIf (hashes.length ≠ call.depositData.getNumWatchtowers)
    (.numChallengeAckHashes call.operatorXonlyPk hashes.length call.depositData.getNumWatchtowers)
  let operatorData ← okOr (.bridge (.operatorNotFound call.operatorXonlyPk))
    (db.getOperator call.operatorXonlyPk)
  let depositOutpoint := call.depositData.getDepositOutpoint
  let withHashes ← db.insertOperatorChallengeAckHashesIfNotExist call.operatorXonlyPk
    depositOutpoint hashes
  let winternitzKeys ← parseBitvmPks call.keys call.operatorXonlyPk
  let bitvmPks ← liftPanic (fromFlattenedVec winternitzKeys)
  let payoutTxBlockhashPk ← liftPanic (vecIndex winternitzKeys 0)
  let setup ← bitvmSetup library paramset operatorData.xonlyPk bitvmPks
  let withKeys := withHashes.insertOperatorBitvmKeysIfNotExist call.operatorXonlyPk depositOutpoint
    (bitvmPks.toFlattenedVec (vecToArray 43 payoutTxBlockhashPk))
  withKeys.insertBitvmSetupIfNotExists call.operatorXonlyPk depositOutpoint setup

/-- The database after a call; a call that fails is rolled back. -/
def SetOperatorKeys.run (db : BuilderDatabase) (call : SetOperatorKeys) : BuilderDatabase :=
  (setOperatorKeys library paramset db call).toOption.getD db

/-- The database after calls. -/
def SetOperatorKeys.runAll (db : BuilderDatabase) (calls : List SetOperatorKeys) :
    BuilderDatabase :=
  calls.foldl (SetOperatorKeys.run library paramset) db

end Store

/-! ## What is stored -/

variable {α : Type} {library : BuilderLibrary}

section Stored

variable {paramset : ProtocolParamset} {db after : BuilderDatabase} {call : SetOperatorKeys}
  {calls : List SetOperatorKeys}

variable {table : XOnlyPublicKey → OutPoint → Option α}

theorem insertRow_self {operator : XOnlyPublicKey} {deposit : OutPoint} {row : α} :
    insertRow table operator deposit row operator deposit =
      some ((table operator deposit).getD row) :=
  if_pos ⟨rfl, rfl⟩

theorem insertRow_of_ne {operator operator' : XOnlyPublicKey} {deposit deposit' : OutPoint}
    {row : α} (different : ¬(operator = operator' ∧ deposit = deposit')) :
    insertRow table operator' deposit' row operator deposit = table operator deposit :=
  if_neg different

variable (library paramset) in
/-- The rows that a call computes from its keys. -/
def KeyRows (db : BuilderDatabase) (call : SetOperatorKeys)
    (setup : List Bytes32 × Bytes32 × Bytes32) (flattened : List WinternitzPublicKey) : Prop :=
  ∃ operatorData winternitzKeys bitvmPks payoutTxBlockhashPk,
    db.getOperator call.operatorXonlyPk = some operatorData ∧
      call.keys.winternitzPubkeys.mapM winternitzTryFrom = .ok winternitzKeys ∧
      fromFlattenedVec winternitzKeys = .ok bitvmPks ∧
      bitvmSetup library paramset operatorData.xonlyPk bitvmPks = .ok setup ∧
      flattened = bitvmPks.toFlattenedVec payoutTxBlockhashPk

theorem KeyRows.congr {setup : List Bytes32 × Bytes32 × Bytes32}
    {flattened : List WinternitzPublicKey}
    (rows : KeyRows library paramset db call setup flattened)
    (operators : after.getOperator = db.getOperator) :
    KeyRows library paramset after call setup flattened := by
  unfold KeyRows at rows ⊢
  rwa [operators]

/-- A call inserts its rows, where there are none. -/
theorem setOperatorKeys_eq_ok (stored : setOperatorKeys library paramset db call = .ok after) :
    ∃ setup flattened, KeyRows library paramset db call setup flattened ∧
      after.getOperator = db.getOperator ∧
      after.getOperatorBitvmKeys = insertRow db.getOperatorBitvmKeys call.operatorXonlyPk
        call.depositData.getDepositOutpoint flattened ∧
      after.getBitvmSetup = insertRow db.getBitvmSetup call.operatorXonlyPk
        call.depositData.getDepositOutpoint setup := by
  simp only [setOperatorKeys, parseBitvmPks, BuilderDatabase.insertBitvmSetupIfNotExists,
    BuilderDatabase.insertOperatorChallengeAckHashesIfNotExist, bind_ok_iff, okOr_eq_ok,
    liftPanic_eq_ok, errorIf_eq_ok, vecIndex_eq_ok, pure, Except.pure, ok.injEq] at stored
  obtain ⟨_, _, hashes, _, _, _, operatorData, operator, _, ⟨_, _, rfl⟩, winternitzKeys,
    ⟨_, _, parsed⟩, bitvmPks, unflattened, payout, _, setup, computed, _, _, rfl⟩ := stored
  exact ⟨setup, _, ⟨operatorData, winternitzKeys, bitvmPks, _, operator, parsed, unflattened,
    computed, rfl⟩, rfl, rfl, rfl⟩

variable (library paramset) in
/-- Keys and setups are stored together, and by one of the calls. -/
structure StoredBy (calls : List SetOperatorKeys) (db : BuilderDatabase) : Prop where
  together : ∀ operator deposit,
    (db.getBitvmSetup operator deposit).isSome = (db.getOperatorBitvmKeys operator deposit).isSome
  rows : ∀ operator deposit setup flattened, db.getBitvmSetup operator deposit = some setup →
    db.getOperatorBitvmKeys operator deposit = some flattened → ∃ call ∈ calls,
      call.operatorXonlyPk = operator ∧ call.depositData.getDepositOutpoint = deposit ∧
        KeyRows library paramset db call setup flattened

theorem StoredBy.setOperatorKeys (before : StoredBy library paramset calls db)
    (stored : setOperatorKeys library paramset db call = .ok after) :
    StoredBy library paramset (calls ++ [call]) after := by
  obtain ⟨newSetup, newFlattened, computed, operators, keys, setups⟩ :=
    setOperatorKeys_eq_ok stored
  refine ⟨fun operator deposit => ?_, fun operator deposit setup flattened => ?_⟩
  · rw [keys, setups]
    by_cases same : operator = call.operatorXonlyPk ∧ deposit = call.depositData.getDepositOutpoint
    · obtain ⟨rfl, rfl⟩ := same
      rw [insertRow_self, insertRow_self, Option.isSome_some, Option.isSome_some]
    · rw [insertRow_of_ne same, insertRow_of_ne same, before.together]
  · rw [keys, setups]
    intro setupFound keysFound
    have kept : db.getBitvmSetup operator deposit = some setup →
        db.getOperatorBitvmKeys operator deposit = some flattened → ∃ call' ∈ calls ++ [call],
          call'.operatorXonlyPk = operator ∧ call'.depositData.getDepositOutpoint = deposit ∧
            KeyRows library paramset after call' setup flattened := by
      intro setupFound keysFound
      obtain ⟨earlier, member, operatorEq, depositEq, rows⟩ :=
        before.rows operator deposit setup flattened setupFound keysFound
      exact ⟨earlier, mem_append_left _ member, operatorEq, depositEq, rows.congr operators⟩
    by_cases same : operator = call.operatorXonlyPk ∧ deposit = call.depositData.getDepositOutpoint
    · obtain ⟨rfl, rfl⟩ := same
      rw [insertRow_self, Option.some.injEq] at setupFound keysFound
      -- the rows of an earlier call are kept
      have together := before.together call.operatorXonlyPk call.depositData.getDepositOutpoint
      cases setupBefore : db.getBitvmSetup call.operatorXonlyPk
          call.depositData.getDepositOutpoint with
      | none =>
        rw [setupBefore, Option.isSome_none, eq_comm, Option.isSome_eq_false_iff,
          Option.isNone_iff_eq_none] at together
        rw [setupBefore, Option.getD_none] at setupFound
        rw [together, Option.getD_none] at keysFound
        subst setupFound keysFound
        exact ⟨call, by simp, rfl, rfl, computed.congr operators⟩
      | some earlierSetup =>
        rw [setupBefore, Option.isSome_some, eq_comm] at together
        obtain ⟨earlierKeys, keysBefore⟩ := Option.isSome_iff_exists.mp together
        rw [setupBefore, Option.getD_some] at setupFound
        rw [keysBefore, Option.getD_some] at keysFound
        subst setupFound keysFound
        exact kept setupBefore keysBefore
    · rw [insertRow_of_ne same] at setupFound keysFound
      exact kept setupFound keysFound

theorem StoredBy.run (before : StoredBy library paramset calls db) :
    StoredBy library paramset (calls ++ [call]) (call.run library paramset db) ∧
      (call.run library paramset db).getOperator = db.getOperator := by
  unfold SetOperatorKeys.run
  cases stored : Clementine.setOperatorKeys library paramset db call with
  | ok after =>
    obtain ⟨-, -, -, operators, -⟩ := setOperatorKeys_eq_ok stored
    exact ⟨before.setOperatorKeys stored, operators⟩
  | error failure =>
    refine ⟨⟨before.together, fun operator deposit setup flattened setupFound keysFound => ?_⟩, rfl⟩
    obtain ⟨earlier, member, rest⟩ :=
      before.rows operator deposit setup flattened setupFound keysFound
    exact ⟨earlier, mem_append_left _ member, rest⟩

/-- After any calls on empty tables, what is stored was stored by one of them. -/
theorem StoredBy.runAll (empty : ∀ operator deposit, db.getBitvmSetup operator deposit = none ∧
      db.getOperatorBitvmKeys operator deposit = none) (calls : List SetOperatorKeys) :
    StoredBy library paramset calls (SetOperatorKeys.runAll library paramset db calls) ∧
      (SetOperatorKeys.runAll library paramset db calls).getOperator = db.getOperator := by
  induction calls using reverseRecOn with
  | nil =>
    refine ⟨⟨fun operator deposit => ?_, fun operator deposit setup flattened found => ?_⟩, rfl⟩
    · rw [SetOperatorKeys.runAll, foldl_nil, (empty operator deposit).1, (empty operator deposit).2]
      rfl
    · cases (empty operator deposit).1.symm.trans found
  | append_singleton calls call ih =>
    obtain ⟨before, operators⟩ := ih
    obtain ⟨storedBy, sameOperators⟩ := @StoredBy.run _ _ _ call _ before
    rw [SetOperatorKeys.runAll, foldl_append, foldl_cons, foldl_nil]
    exact ⟨storedBy, sameOperators.trans operators⟩

end Stored

/-- `Operator::generate_assert_winternitz_pubkeys`: what an operator sends for a deposit. -/
def Actor.generateAssertWinternitzPubkeys (library : BuilderLibrary) (self : Actor)
    (depositOutpoint : OutPoint) : BuildResult (List WinternitzPublicKey) := do
  let bitvmPks ← self.generateBitvmPksForDeposit library depositOutpoint
  return bitvmPks.toFlattenedVec (getReplacableWpks 43 0 0)

/-! ## Sizes of keys -/

namespace ClementineBitVMPublicKeys

/-- The lengths of the arrays that the source keeps the keys in. -/
structure WellSized (keys : ClementineBitVMPublicKeys) : Prop where
  latestBlockhashPk : keys.latestBlockhashPk.length = 43
  challengeSendingWatchtowersPk : keys.challengeSendingWatchtowersPk.length = 43
  pubsLength : keys.bitvmPks.1.length = numPubs
  u256sLength : keys.bitvmPks.2.1.length = numU256
  hashesLength : keys.bitvmPks.2.2.length = numHash
  pubs : ∀ key ∈ keys.bitvmPks.1, key.length = 67
  u256s : ∀ key ∈ keys.bitvmPks.2.1, key.length = 67
  hashes : ∀ key ∈ keys.bitvmPks.2.2, key.length = 35

theorem length_vecToArray (size : Nat) (vec : WinternitzPublicKey) :
    (vecToArray size vec).length = size := by
  rw [vecToArray, length_append, length_take, length_replicate]
  omega

variable {vec : WinternitzPublicKey} {size : Nat}

theorem vecToArray_of_length (length : vec.length = size) : vecToArray size vec = vec := by
  rw [vecToArray, length, Nat.sub_self, replicate_zero, append_nil, ← length, take_length]

variable {vecs : List WinternitzPublicKey}

theorem map_vecToArray_of_length (lengths : ∀ vec ∈ vecs, vec.length = size) :
    vecs.map (vecToArray size) = vecs := by
  rw [map_congr_left fun vec member => vecToArray_of_length (lengths vec member), map_id']

theorem length_of_mem_map_vecToArray (member : vec ∈ vecs.map (vecToArray size)) :
    vec.length = size := by
  obtain ⟨source, -, rfl⟩ := mem_map.mp member
  exact length_vecToArray size source

variable {start finish : Nat} {values slice : List α}

theorem vecSlice_eq_ok :
    vecSlice values start finish = .ok slice ↔ start ≤ finish ∧ finish ≤ values.length ∧
      (values.drop start).take (finish - start) = slice := by
  unfold vecSlice
  split_ifs with inside
  · rw [ok.injEq]
    exact ⟨fun same => ⟨inside.1, inside.2, same⟩, fun same => same.2.2⟩
  · simp only [false_iff]
    rintro ⟨ordered, bounded, -⟩
    exact inside ⟨ordered, bounded⟩

theorem length_vecSlice (taken : vecSlice values start finish = .ok slice) :
    slice.length = finish - start := by
  obtain ⟨ordered, bounded, rfl⟩ := vecSlice_eq_ok.mp taken
  rw [length_take, length_drop]
  omega

theorem vecSlice_append {before middle after : List α} (startEq : before.length = start)
    (finishEq : start + middle.length = finish) :
    vecSlice (before ++ middle ++ after) start finish = .ok middle := by
  subst startEq finishEq
  rw [vecSlice_eq_ok]
  refine ⟨Nat.le_add_right _ _, ?_, ?_⟩
  · rw [length_append, length_append]
    exact Nat.le_add_right _ _
  · rw [append_assoc, drop_left, Nat.add_sub_cancel_left, take_left]

variable {self : ClementineBitVMPublicKeys}

theorem fromFlattenedVec_wellSized {flattenedWpks : List WinternitzPublicKey}
    (built : fromFlattenedVec flattenedWpks = .ok self) :
    self.WellSized := by
  simp only [fromFlattenedVec, bind_ok_iff, pure, Except.pure, ok.injEq] at built
  obtain ⟨_, _, _, _, pubs, pubsTaken, u256s, u256sTaken, hashes, hashesTaken, rfl⟩ := built
  refine ⟨length_vecToArray _ _, length_vecToArray _ _, ?_, ?_, ?_,
    fun _ => length_of_mem_map_vecToArray, fun _ => length_of_mem_map_vecToArray,
    fun _ => length_of_mem_map_vecToArray⟩
  · rw [length_map, length_vecSlice pubsTaken, Nat.add_sub_cancel_left]
  · rw [length_map, length_vecSlice u256sTaken, Nat.add_sub_cancel_left]
  · rw [length_map, length_vecSlice hashesTaken, Nat.add_sub_cancel_left]

/-- Keys that were flattened are read back. -/
theorem fromFlattenedVec_toFlattenedVec (sized : self.WellSized)
    (payoutTxBlockhashPk : WinternitzPublicKey) :
    fromFlattenedVec (self.toFlattenedVec payoutTxBlockhashPk) = .ok self := by
  obtain ⟨latest, watchtowers, ⟨pubs, u256s, hashes⟩⟩ := self
  have pubsSlice : vecSlice (toFlattenedVec payoutTxBlockhashPk ⟨latest, watchtowers, pubs, u256s,
      hashes⟩) 3 (3 + numPubs) = .ok pubs := by
    rw [toFlattenedVec, append_assoc _ u256s]
    exact vecSlice_append rfl (by rw [sized.pubsLength])
  have u256sSlice : vecSlice (toFlattenedVec payoutTxBlockhashPk ⟨latest, watchtowers, pubs, u256s,
      hashes⟩) (3 + numPubs) (3 + numPubs + numU256) = .ok u256s :=
    vecSlice_append (by rw [length_append, sized.pubsLength]; rfl) (by rw [sized.u256sLength])
  have hashesSlice : vecSlice (toFlattenedVec payoutTxBlockhashPk ⟨latest, watchtowers, pubs,
      u256s, hashes⟩) (3 + numPubs + numU256) (3 + numPubs + numU256 + numHash) = .ok hashes := by
    rw [toFlattenedVec, ← append_nil (_ ++ hashes)]
    refine vecSlice_append ?_ (by rw [sized.hashesLength])
    rw [length_append, length_append, sized.pubsLength, sized.u256sLength]
    rfl
  simp only [fromFlattenedVec, bind_ok_iff, vecIndex_eq_ok]
  refine ⟨latest, rfl, watchtowers, rfl, pubs, pubsSlice, u256s, u256sSlice, hashes, hashesSlice,
    ?_⟩
  rw [vecToArray_of_length sized.latestBlockhashPk,
    vecToArray_of_length sized.challengeSendingWatchtowersPk, map_vecToArray_of_length sized.pubs,
    map_vecToArray_of_length sized.u256s, map_vecToArray_of_length sized.hashes]
  rfl

end ClementineBitVMPublicKeys

section Sent

variable {signer : Actor} {depositOutpoint : OutPoint} {bitvmPks : ClementineBitVMPublicKeys}

theorem Actor.deriveBitvmPks_sized {messageLength kind : UInt32} {size count : Nat}
    {keys : List WinternitzPublicKey}
    (derived : signer.deriveBitvmPks library depositOutpoint messageLength kind size count =
      .ok keys) : keys.length = count ∧ ∀ key ∈ keys, key.length = size := by
  refine ⟨(length_mapM_ok derived).trans (length_range), fun key member => ?_⟩
  obtain ⟨i, -, keyDerived⟩ := (mem_mapM_ok derived).mp member
  obtain ⟨pkVec, -, finished⟩ := bind_ok_iff.mp keyDerived
  cases finished
  exact length_vecToArray size pkVec

theorem Actor.generateBitvmPksForDeposit_wellSized
    (generated : signer.generateBitvmPksForDeposit library depositOutpoint = .ok bitvmPks) :
    bitvmPks.WellSized := by
  simp only [generateBitvmPksForDeposit, bind_ok_iff, liftPanic_eq_ok, vecIndex_eq_ok,
    pure, Except.pure, ok.injEq] at generated
  obtain ⟨latests, latestsDerived, latest, latestFound, watchtowers, watchtowersDerived,
    watchtower, watchtowerFound, pubs, pubsDerived, u256s, u256sDerived, hashes, hashesDerived,
    rfl⟩ := generated
  have latestSized := (deriveBitvmPks_sized latestsDerived).2
  have watchtowersSized := (deriveBitvmPks_sized watchtowersDerived).2
  have pubsSized := deriveBitvmPks_sized pubsDerived
  have u256sSized := deriveBitvmPks_sized u256sDerived
  have hashesSized := deriveBitvmPks_sized hashesDerived
  exact ⟨latestSized _ (mem_of_getElem? latestFound),
    watchtowersSized _ (mem_of_getElem? watchtowerFound), pubsSized.1, u256sSized.1,
    hashesSized.1, pubsSized.2, u256sSized.2, hashesSized.2⟩

/-- A key that is sent is read back, if it is not too long. -/
theorem winternitzTryFrom_map_toList {key : WinternitzPublicKey}
    (short : key.length ≤ maxWinternitzDigitsPerKey) :
    winternitzTryFrom (key.map Vector.toList) = .ok key := by
  have digits : ((key.map Vector.toList).zipIdx.mapM fun entry =>
      okOr (OperatorKeysError.rpcParamMalformed ("digit_pubkey.[" ++ toString entry.2 ++ "]")
        entry.1.length) (tryIntoHash entry.1)) = .ok key := by
    rw [mapM_ok_iff, forall₂_iff_get]
    refine ⟨by simp, fun i inside _ => ?_⟩
    simp [okOr]
  simp only [winternitzTryFrom, bind_ok_iff, errorIf_eq_ok, length_map, maxBytesPerWinternitzKey]
  exact ⟨(), by omega, (), by omega, digits⟩

variable (library signer depositOutpoint) in
/-- The keys are those that the signer makes for the deposit. -/
def OperatorKeys.SentBy (keys : OperatorKeys) : Prop :=
  ∃ flattened, signer.generateAssertWinternitzPubkeys library depositOutpoint = .ok flattened ∧
    keys.winternitzPubkeys = flattened.map (map Vector.toList)

/-- The verifier reads the keys of the signer out of its message. -/
theorem OperatorKeys.SentBy.received {keys : OperatorKeys}
    (sent : keys.SentBy library signer depositOutpoint)
    (generated : signer.generateBitvmPksForDeposit library depositOutpoint = .ok bitvmPks)
    {winternitzKeys : List WinternitzPublicKey} {received : ClementineBitVMPublicKeys}
    (parsed : keys.winternitzPubkeys.mapM winternitzTryFrom = .ok winternitzKeys)
    (unflattened : fromFlattenedVec winternitzKeys = .ok received) :
    received = bitvmPks := by
  obtain ⟨flattened, made, wire⟩ := sent
  obtain ⟨pks, sameGenerated, finished⟩ := bind_ok_iff.mp made
  cases generated.symm.trans sameGenerated
  cases finished
  have sized := Actor.generateBitvmPksForDeposit_wellSized generated
  have short : ∀ key ∈ bitvmPks.toFlattenedVec (getReplacableWpks 43 0 0),
      key.length ≤ maxWinternitzDigitsPerKey := by
    intro key member
    simp only [toFlattenedVec, mem_append, mem_cons, not_mem_nil, or_false] at member
    rcases member with (((rfl | rfl | rfl) | member) | member) | member
    · decide
    · rw [sized.latestBlockhashPk]
      decide
    · rw [sized.challengeSendingWatchtowersPk]
      decide
    · rw [sized.pubs key member]
      decide
    · rw [sized.u256s key member]
      decide
    · rw [sized.hashes key member]
      decide
  have readBack : keys.winternitzPubkeys.mapM winternitzTryFrom =
      .ok (bitvmPks.toFlattenedVec (getReplacableWpks 43 0 0)) := by
    rw [wire, mapM_ok_iff, forall₂_map_left_iff, forall₂_same]
    exact fun key member => winternitzTryFrom_map_toList (short key member)
  cases parsed.symm.trans readBack
  rw [fromFlattenedVec_toFlattenedVec sized] at unflattened
  exact (ok.inj unflattened).symm

end Sent

end Clementine
