import Clementine.BridgeCircuit.Structs

/-!
# Transaction handlers

The actors of the bridge derive all their transactions from the same data.  A `TxHandler` is
such a transaction together with what is needed to spend its outputs: the scripts behind
each output, their taproot tree, and for each input the path by which it is spent and the
name of the signature that it needs.

Scripts, taproot trees, signature hashes and key aggregation of other crates are parameters.
-/

namespace Clementine

open ConsensusEncode

abbrev XOnlyPublicKey := Bytes32

abbrev Txid := Bytes32

abbrev ScriptBuf := List UInt8

abbrev PublicHash := Vector UInt8 20

abbrev EVMAddress := Vector UInt8 20

/-- `secp256k1::PublicKey`, as its compressed bytes. -/
abbrev PublicKey := Vector UInt8 33

/-- `winternitz::PublicKey`. -/
abbrev WinternitzPublicKey := List (Vector UInt8 20)

/-! ## Rounds, transaction types and outputs -/

/-- `RoundIndex`; rounds are counted from zero after the collateral. -/
inductive RoundIndex where
  | collateral
  | round (index : Nat)
  deriving Repr, DecidableEq

namespace RoundIndex

/-- `RoundIndex::to_index`. -/
def toIndex : RoundIndex → Nat
  | .collateral => 0
  | .round index => index + 1

/-- `RoundIndex::from_index`. -/
def fromIndex : Nat → RoundIndex
  | 0 => .collateral
  | index + 1 => .round index

/-- `RoundIndex::next_round`. -/
def nextRound : RoundIndex → RoundIndex
  | .collateral => .round 0
  | .round index => .round (index + 1)

/-- `RoundIndex::iter_rounds_range`. -/
def iterRoundsRange (start finish : Nat) : List RoundIndex :=
  (List.range' start (finish - start)).map .round

/-- `RoundIndex::iter_rounds`. -/
def iterRounds (numRounds : Nat) : List RoundIndex := iterRoundsRange 0 numRounds

@[simp] theorem fromIndex_toIndex (round : RoundIndex) : fromIndex round.toIndex = round := by
  cases round <;> rfl

end RoundIndex

/-- `TransactionType`, in the order of its declaration. -/
inductive TransactionType where
  | assertTimeout (index : Nat)
  | burnUnusedKickoffConnectors
  | challenge
  | challengeTimeout
  | disprove
  | disproveTimeout
  | emergencyStop
  | kickoff
  | kickoffNotFinalized
  | latestBlockhash
  | latestBlockhashTimeout
  | miniAssert (index : Nat)
  | moveToVault
  | operatorChallengeAck (index : Nat)
  | operatorChallengeNack (index : Nat)
  | optimisticPayout
  | payout
  | readyToReimburse
  | reimburse
  | replacementDeposit
  | round
  | unspentKickoff (index : Nat)
  | watchtowerChallenge (index : Nat)
  | watchtowerChallengeTimeout (index : Nat)
  | allNeededForDeposit
  | yieldKickoffTxid
  | dummy
  deriving Repr, DecidableEq

namespace TransactionType

/-- Position of the constructor, the first key of the derived order. -/
def rank : TransactionType → Nat
  | .assertTimeout _ => 0
  | .burnUnusedKickoffConnectors => 1
  | .challenge => 2
  | .challengeTimeout => 3
  | .disprove => 4
  | .disproveTimeout => 5
  | .emergencyStop => 6
  | .kickoff => 7
  | .kickoffNotFinalized => 8
  | .latestBlockhash => 9
  | .latestBlockhashTimeout => 10
  | .miniAssert _ => 11
  | .moveToVault => 12
  | .operatorChallengeAck _ => 13
  | .operatorChallengeNack _ => 14
  | .optimisticPayout => 15
  | .payout => 16
  | .readyToReimburse => 17
  | .reimburse => 18
  | .replacementDeposit => 19
  | .round => 20
  | .unspentKickoff _ => 21
  | .watchtowerChallenge _ => 22
  | .watchtowerChallengeTimeout _ => 23
  | .allNeededForDeposit => 24
  | .yieldKickoffTxid => 25
  | .dummy => 26

/-- The index of a numbered type, the second key of the derived order. -/
def number : TransactionType → Nat
  | .assertTimeout index | .miniAssert index | .operatorChallengeAck index
  | .operatorChallengeNack index | .unspentKickoff index | .watchtowerChallenge index
  | .watchtowerChallengeTimeout index => index
  | _ => 0

/-- The type with the given keys. -/
def ofKeys (rank number : Nat) : TransactionType :=
  match rank with
  | 0 => .assertTimeout number
  | 1 => .burnUnusedKickoffConnectors
  | 2 => .challenge
  | 3 => .challengeTimeout
  | 4 => .disprove
  | 5 => .disproveTimeout
  | 6 => .emergencyStop
  | 7 => .kickoff
  | 8 => .kickoffNotFinalized
  | 9 => .latestBlockhash
  | 10 => .latestBlockhashTimeout
  | 11 => .miniAssert number
  | 12 => .moveToVault
  | 13 => .operatorChallengeAck number
  | 14 => .operatorChallengeNack number
  | 15 => .optimisticPayout
  | 16 => .payout
  | 17 => .readyToReimburse
  | 18 => .reimburse
  | 19 => .replacementDeposit
  | 20 => .round
  | 21 => .unspentKickoff number
  | 22 => .watchtowerChallenge number
  | 23 => .watchtowerChallengeTimeout number
  | 24 => .allNeededForDeposit
  | 25 => .yieldKickoffTxid
  | _ => .dummy

theorem ofKeys_keys (type : TransactionType) : ofKeys type.rank type.number = type := by
  cases type <;> rfl

/-- The derived order. -/
def cmp : TransactionType → TransactionType → Ordering :=
  compareLex (compareOn rank) (compareOn number)

instance : Std.TransCmp cmp :=
  inferInstanceAs (Std.TransCmp (compareLex (compareOn rank) (compareOn number)))

theorem eq_of_cmp_eq {left right : TransactionType} (equal : cmp left right = .eq) :
    left = right := by
  rw [cmp, compareLex_eq_eq, compareOn, compareOn, Nat.compare_eq_eq, Nat.compare_eq_eq] at equal
  rw [← ofKeys_keys left, equal.1, equal.2, ofKeys_keys]

instance : Std.LawfulEqCmp cmp where
  eq_of_compare := eq_of_cmp_eq

end TransactionType

/-- `NUMBER_OF_ASSERT_TXS`. -/
def numberOfAssertTxs : Nat := 36

/-- `UtxoVout`: the purposes of outputs. -/
inductive UtxoVout where
  | assert (index : Nat)
  | watchtowerChallenge (index : Nat)
  | watchtowerChallengeAck (index : Nat)
  | challenge
  | kickoffFinalizer
  | reimburseInKickoff
  | disprove
  | latestBlockhash
  | depositInMove
  | reimburseInRound (index numKickoffsPerRound : Nat)
  | kickoff (index : Nat)
  | collateralInRound
  | collateralInReadyToReimburse
  deriving Repr, DecidableEq

/-- `UtxoVout::get_vout`. -/
def UtxoVout.getVout : UtxoVout → UInt32
  | .assert index => UInt32.ofNat index + 5
  | .watchtowerChallenge index => UInt32.ofNat (2 * index + 5 + numberOfAssertTxs)
  | .watchtowerChallengeAck index => UInt32.ofNat (2 * index + 6 + numberOfAssertTxs)
  | .challenge => 0
  | .kickoffFinalizer => 1
  | .reimburseInKickoff => 2
  | .disprove => 3
  | .latestBlockhash => 4
  | .reimburseInRound index numKickoffsPerRound => UInt32.ofNat (numKickoffsPerRound + index + 1)
  | .kickoff index => UInt32.ofNat index + 1
  | .depositInMove => 0
  | .collateralInRound => 0
  | .collateralInReadyToReimburse => 0

/-- The position of an output of a round or a kickoff, without the conversion to 32 bits. -/
def UtxoVout.position : UtxoVout → Nat
  | .assert index => index + 5
  | .watchtowerChallenge index => 2 * index + 41
  | .watchtowerChallengeAck index => 2 * index + 42
  | .challenge | .depositInMove | .collateralInRound | .collateralInReadyToReimburse => 0
  | .kickoffFinalizer => 1
  | .reimburseInKickoff => 2
  | .disprove => 3
  | .latestBlockhash => 4
  | .reimburseInRound index numKickoffsPerRound => numKickoffsPerRound + index + 1
  | .kickoff index => index + 1

theorem UtxoVout.toNat_getVout (vout : UtxoVout) (fits : vout.position < 2 ^ 32) :
    vout.getVout.toNat = vout.position := by
  cases vout <;> simp only [getVout, position, numberOfAssertTxs] at fits ⊢ <;>
    simp only [UInt32.toNat_add, UInt32.toNat_ofNat', UInt32.reduceToNat] <;> omega

/-! ## Errors -/

/-- `TxError`, as far as the modelled functions return it. -/
inductive TxError where
  | insufficientContext
  | txHandlerNotFound (type : TransactionType)
  | bitvmSetupNotFound (operatorXonlyPk : XOnlyPublicKey) (depositTxid : Txid)
  | missingSpendInfo
  | latestBlockhashScriptNumber
  | invalidRoundIndex (index : RoundIndex)
  | indexOverflow
  | kickoffWinternitzKeysDBInconsistency
  deriving Repr, DecidableEq

/-- `eyre` reports; those with parameters stand for a text that shows them. -/
inductive Report where
  | text (text : String)
  /-- Could not find output in transaction. -/
  | outputNotFound (index : UInt32)
  /-- Operator not found for xonly_pk. -/
  | operatorDataNotFound (xonlyPk : XOnlyPublicKey)
  /-- Operator xonly pk mismatch between ContractContext and ReimburseDbCache. -/
  | operatorMismatch (context cache : XOnlyPublicKey)
  /-- Deposit outpoint mismatch between ReimburseDbCache and ContractContext. -/
  | depositMismatch (cache context : OutPoint)
  /-- Deposit outpoint is not set in ReimburseDbCache, but is set in ContractContext. -/
  | depositNotSet (context : OutPoint)
  /-- Watchtower public hashes not found for operator and deposit. -/
  | ackHashesNotFound (xonlyPk : XOnlyPublicKey) (depositTxid : Txid)
  /-- Expected number of challenge ack public hashes, but got another one from db. -/
  | ackHashes (expected got : Nat)
  /-- Could not find session id. -/
  | session (sessionId : Nat)
  deriving Repr, DecidableEq

/-- `BridgeError`, as far as the modelled functions return it. -/
inductive BridgeError where
  | transaction (error : TxError)
  | arithmeticOverflow (text : String)
  | insufficientFunds (text : String)
  | operatorNotFound (xonlyPk : XOnlyPublicKey)
  | eyre (report : Report)
  deriving Repr, DecidableEq

/-- Results of the transaction builder. -/
abbrev BuildResult (α : Type) := Except (Failure BridgeError) α

/-! ## Scripts -/

/-- The opcodes and pushes of the Bitcoin library's script builder. -/
inductive Opcode where
  | opFalse
  | opTrue
  | opIf
  | opEndif
  | opReturn
  | opDrop
  | opSize
  | opEqualverify
  | opNumequal
  | opHash160
  | opChecksig
  | opCsv
  | opChecksigadd

/-- The byte of an opcode. -/
def Opcode.toU8 : Opcode → UInt8
  | .opFalse => 0x00
  | .opTrue => 0x51
  | .opIf => 0x63
  | .opEndif => 0x68
  | .opReturn => 0x6a
  | .opDrop => 0x75
  | .opSize => 0x82
  | .opEqualverify => 0x88
  | .opNumequal => 0x9c
  | .opHash160 => 0xa9
  | .opChecksig => 0xac
  | .opCsv => 0xb2
  | .opChecksigadd => 0xba

/-- `push_slice`. -/
def pushSlice (data : List UInt8) : ScriptBuf :=
  if data.length < 0x4c then
    UInt8.ofNat data.length :: data
  else if data.length < 0x100 then
    0x4c :: UInt8.ofNat data.length :: data
  else if data.length < 0x10000 then
    0x4d :: leBytes 2 data.length ++ data
  else
    0x4e :: leBytes 4 data.length ++ data

/-- `push_x_only_key`. -/
def pushXOnlyKey (key : XOnlyPublicKey) : ScriptBuf := pushSlice key.toList

/-- `push_int` for a value that is not negative: one byte up to sixteen, else the shortest
little-endian form whose sign bit is clear. -/
def pushInt (value : UInt32) : ScriptBuf :=
  let number := value.toNat
  if number = 0 then
    [0x00]
  else if number ≤ 16 then
    [UInt8.ofNat (0x50 + number)]
  else if number < 0x80 then
    pushSlice (leBytes 1 number)
  else if number < 0x8000 then
    pushSlice (leBytes 2 number)
  else if number < 0x800000 then
    pushSlice (leBytes 3 number)
  else if number < 0x80000000 then
    pushSlice (leBytes 4 number)
  else
    pushSlice (leBytes 5 number)

/-- A node of a taproot tree. -/
inductive TapNode where
  | leaf (script : ScriptBuf)
  | hidden (hash : Bytes32)
  deriving Repr, DecidableEq

/-- `ClementineBitVMPublicKeys`, as far as it is read. -/
structure ClementineBitVMPublicKeys where
  latestBlockhashPk : WinternitzPublicKey
  challengeSendingWatchtowersPk : WinternitzPublicKey
  bitvmPks : List WinternitzPublicKey × List WinternitzPublicKey × List WinternitzPublicKey
  deriving DecidableEq

/-- The functions of other crates that the builder of transactions calls. -/
structure BuilderLibrary extends CircuitLibrary where
  /-- The Merkle root of a `TaprootBuilder` to which nodes were added at their depths and that
  was finalized; `none` if one of these calls fails, no root if there are no nodes. -/
  taprootMerkleRoot : List (Nat × TapNode) → Option (Option Bytes32)
  /-- `tap_tweak` of an internal key. -/
  tapTweak : XOnlyPublicKey → Option Bytes32 → XOnlyPublicKey
  /-- `checksig_verify_and_clear_stack` of the Winternitz verifier, compiled, for a length of
  messages and a digit size. -/
  checksigVerifyAndClearStack : UInt32 → UInt32 → WinternitzPublicKey → ScriptBuf
  /-- `TapLeafHash::from_script`. -/
  tapLeafHash : ScriptBuf → Bytes32
  /-- `taproot_key_spend_signature_hash`. -/
  taprootKeySpendSignatureHash :
    CircuitTransaction → Nat → Prevouts → TapSighashType → Option Bytes32
  /-- `taproot_script_spend_signature_hash`. -/
  taprootScriptSpendSignatureHash :
    CircuitTransaction → Nat → Prevouts → Bytes32 → TapSighashType → Option Bytes32
  /-- `XOnlyPublicKey::from_musig2_pks` without a tweak. -/
  fromMusig2Pks : List PublicKey → Option XOnlyPublicKey
  /-- `create_additional_replacable_disprove_script_with_dummy`. -/
  createAdditionalReplacableDisproveScriptWithDummy : Bytes32 → WinternitzPublicKey →
    WinternitzPublicKey → WinternitzPublicKey → List PublicHash → List UInt8
  /-- `replace_placeholders_in_script`. -/
  replacePlaceholdersInScript : List UInt8 → WinternitzPublicKey → Bytes32 → List UInt8
  /-- `get_g16_verifier_disprove_scripts`. -/
  getG16VerifierDisproveScripts : ClementineBitVMPublicKeys → Option (List ScriptBuf)
  /-- `derive_winternitz_pk` for a secret key at the path `BitvmAssert` with a length of
  messages, a kind of key, an index and a deposit. -/
  deriveBitvmAssertPk : Bytes32 → UInt32 → UInt32 → UInt32 → OutPoint → Option WinternitzPublicKey
  /-- `get_evm_address` for a secret key. -/
  getEvmAddress : Bytes32 → Option EVMAddress
  /-- Whether `XOnlyPublicKey::from_slice` succeeds. -/
  xOnlyPublicKeyFromSlice : Bytes32 → Bool
  /-- `bridge_circuit_constant`. -/
  bridgeCircuitConstant : Network → Bytes32

/-- `SpendableScript`, with its implementations. -/
inductive SpendableScript where
  | otherSpendable (script : ScriptBuf)
  | checkSig (xonlyPk : XOnlyPublicKey)
  | multisig (pubkeys : List XOnlyPublicKey) (threshold : UInt32)
  | winternitzCommit (commitments : List (WinternitzPublicKey × UInt32))
      (checksigPubkey : XOnlyPublicKey) (logD : UInt32)
  | timelockScript (xonlyPk : Option XOnlyPublicKey) (blockCount : UInt16)
  | preimageRevealScript (xonlyPk : XOnlyPublicKey) (hash : PublicHash)
  | baseDepositScript (nofnXonlyPk : XOnlyPublicKey) (evmAddress : EVMAddress)
  | replacementDepositScript (nofnXonlyPk : XOnlyPublicKey) (oldMoveTxid : Txid)
  deriving Repr, DecidableEq

variable (library : BuilderLibrary)

/-- The key and the checks of a multi-signature script after the first key. -/
def multisigTail (pubkeys : List XOnlyPublicKey) (threshold : UInt32) : ScriptBuf :=
  pubkeys.flatMap (fun pubkey => pushXOnlyKey pubkey ++ [Opcode.opChecksigadd.toU8]) ++
    pushInt threshold ++ [Opcode.opNumequal.toU8]

/-- A key followed by a marker that is never executed. -/
def inscriptionScript (xonlyPk : XOnlyPublicKey) (marker : String) (data : List UInt8) :
    ScriptBuf :=
  pushXOnlyKey xonlyPk ++ [Opcode.opChecksig.toU8, Opcode.opFalse.toU8, Opcode.opIf.toU8] ++
    pushSlice marker.toUTF8.toList ++ pushSlice data ++ [Opcode.opEndif.toU8]

/-- `SpendableScript::to_script_buf`; a multi-signature script without keys panics. -/
def SpendableScript.toScriptBuf : SpendableScript → Except Panic ScriptBuf
  | .otherSpendable script => .ok script
  | .checkSig xonlyPk => .ok (pushXOnlyKey xonlyPk ++ [Opcode.opChecksig.toU8])
  | .multisig pubkeys threshold =>
    match pubkeys with
    | [] => .error .indexOutOfBounds
    | first :: rest =>
      .ok (pushXOnlyKey first ++ [Opcode.opChecksig.toU8] ++ multisigTail rest threshold)
  | .winternitzCommit commitments checksigPubkey logD =>
    .ok (commitments.flatMap (fun commitment =>
      library.checksigVerifyAndClearStack commitment.2 logD commitment.1) ++
        pushSlice checksigPubkey.toList ++ [Opcode.opChecksig.toU8])
  | .timelockScript xonlyPk blockCount =>
    let check := match xonlyPk with
      | some key => pushXOnlyKey key ++ [Opcode.opChecksig.toU8]
      | none => [Opcode.opTrue.toU8]
    .ok (pushInt blockCount.toUInt32 ++ [Opcode.opCsv.toU8, Opcode.opDrop.toU8] ++ check)
  | .preimageRevealScript xonlyPk hash =>
    .ok ([Opcode.opSize.toU8] ++ pushInt 20 ++
      [Opcode.opEqualverify.toU8, Opcode.opHash160.toU8] ++ pushSlice hash.toList ++
      [Opcode.opEqualverify.toU8] ++ pushXOnlyKey xonlyPk ++ [Opcode.opChecksig.toU8])
  | .baseDepositScript nofnXonlyPk evmAddress =>
    .ok (inscriptionScript nofnXonlyPk "citrea" evmAddress.toList)
  | .replacementDepositScript nofnXonlyPk oldMoveTxid =>
    .ok (inscriptionScript nofnXonlyPk "citreaReplace" oldMoveTxid.toList)

/-- `SpendPath`. -/
inductive SpendPath where
  | scriptSpend (index : Nat)
  | keySpend
  | unknown
  deriving Repr, DecidableEq

/-! ## Taproot outputs -/

/-- `UNSPENDABLE_XONLY_PUBKEY`. -/
def unspendableXonlyPubkey : XOnlyPublicKey :=
  ByteNumeral.beBytes 32 0x50929b74c1a04954b78b4b6035e97a5e078a5a0f28ec96d547bfee9ace803ac0

/-- `TaprootSpendInfo`, as far as it is read. -/
structure TaprootSpendInfo where
  merkleRoot : Option Bytes32
  outputKey : XOnlyPublicKey
  deriving Repr, DecidableEq

/-- `TaprootBuilder::finalize` after the nodes were added; all of these calls are expected to
succeed. -/
def finalizeTaproot (text : String) (nodes : List (Nat × TapNode)) (internalKey : XOnlyPublicKey) :
    Except Panic TaprootSpendInfo := do
  let merkleRoot ← expectSome text (library.taprootMerkleRoot nodes)
  return { merkleRoot, outputKey := library.tapTweak internalKey merkleRoot }

/-- `calculate_taproot_leaf_depths`. -/
def calculateTaprootLeafDepths (numScripts : Nat) : List Nat :=
  match numScripts with
  | 0 => []
  | 1 => [0]
  | _ =>
    let deepestLayerDepth := (numScripts - 1).log2 + 1
    let numEmptyNodesInFinalDepth := 2 ^ deepestLayerDepth - numScripts
    let numNodesInFinalDepth := numScripts - numEmptyNodesInFinalDepth
    (List.range numScripts).map fun i =>
      deepestLayerDepth - if numNodesInFinalDepth ≤ i then 1 else 0

/-- `taproot_builder_with_scripts`; the depths are those of `calculate_taproot_leaf_depths`. -/
def taprootBuilderWithScripts (scripts : List ScriptBuf) : List (Nat × TapNode) :=
  (calculateTaprootLeafDepths scripts.length).zip (scripts.map .leaf)

/-- `create_taproot_address`, up to the address, which is determined by the output key. -/
def createTaprootAddress (scripts : List ScriptBuf) (internalKey : Option XOnlyPublicKey) :
    Except Panic TaprootSpendInfo :=
  finalizeTaproot library "builder return is finalizable" (taprootBuilderWithScripts scripts)
    (internalKey.getD unspendableXonlyPubkey)

/-- The script of a taproot address. -/
def p2trScriptPubkey (outputKey : XOnlyPublicKey) : ScriptBuf :=
  Opcode.opTrue.toU8 :: pushXOnlyKey outputKey

/-- `UnspentTxOut`. -/
structure UnspentTxOut where
  txout : TxOut
  scripts : List SpendableScript
  spendinfo : Option TaprootSpendInfo
  deriving Repr, DecidableEq

/-- `UnspentTxOut::from_partial`. -/
def UnspentTxOut.fromPartial (txout : TxOut) : UnspentTxOut where
  txout
  scripts := []
  spendinfo := none

/-- An output with the given tree. -/
def UnspentTxOut.taproot (value : UInt64) (scripts : List SpendableScript)
    (spendinfo : TaprootSpendInfo) : UnspentTxOut where
  txout := { value, scriptPubkey := p2trScriptPubkey spendinfo.outputKey }
  scripts
  spendinfo := some spendinfo

/-- `UnspentTxOut::from_scripts`. -/
def UnspentTxOut.fromScripts (value : UInt64) (scripts : List SpendableScript)
    (keyPath : Option XOnlyPublicKey) : Except Panic UnspentTxOut := do
  let scriptBufs ← scripts.mapM (SpendableScript.toScriptBuf library)
  let spendInfo ← createTaprootAddress library scriptBufs keyPath
  return .taproot value scripts spendInfo

/-- `DisprovePath`. -/
inductive DisprovePath where
  | scripts (scripts : List ScriptBuf)
  | hiddenNode (rootHash : Bytes32)

/-- The nodes that `create_disprove_taproot_output` adds after the first two. -/
def DisprovePath.nodes : DisprovePath → List (Nat × TapNode)
  | .scripts extraScripts =>
    ((calculateTaprootLeafDepths extraScripts.length).map (2 + ·)).zip (extraScripts.map .leaf)
  | .hiddenNode rootHash => [(2, .hidden rootHash)]

/-- The scripts that `create_disprove_taproot_output` keeps. -/
def DisprovePath.extraScripts : DisprovePath → List ScriptBuf
  | .scripts extraScripts => extraScripts
  | .hiddenNode _ => []

/-- `create_disprove_taproot_output`. -/
def createDisproveTaprootOutput (operatorTimeoutScript : SpendableScript)
    (additionalScript : ScriptBuf) (disprovePath : DisprovePath) (amount : UInt64) :
    Except Panic UnspentTxOut := do
  let timeoutBuf ← operatorTimeoutScript.toScriptBuf library
  let spendInfo ← finalizeTaproot library "valid taptree"
    ((1, .leaf timeoutBuf) :: (2, .leaf additionalScript) :: disprovePath.nodes)
    unspendableXonlyPubkey
  return .taproot amount (operatorTimeoutScript ::
    (additionalScript :: disprovePath.extraScripts).map .otherSpendable) spendInfo

/-- `create_taproot_output_with_hidden_node`. -/
def createTaprootOutputWithHiddenNode (script : SpendableScript) (hiddenNode : Bytes32)
    (amount : UInt64) : Except Panic UnspentTxOut := do
  let scriptBuf ← script.toScriptBuf library
  let spendInfo ← finalizeTaproot library "cannot fail since it is a valid taptree"
    [(1, .leaf scriptBuf), (1, .hidden hiddenNode)] unspendableXonlyPubkey
  return .taproot amount [script] spendInfo

/-- `anchor_output`. -/
def TxOut.anchorOutput (amount : UInt64) : TxOut where
  value := amount
  scriptPubkey := [0x51, 0x02, 0x4e, 0x73]

/-- `op_return_txout`. -/
def TxOut.opReturnTxout (slice : List UInt8) : TxOut where
  value := 0
  scriptPubkey := Opcode.opReturn.toU8 :: pushSlice slice

/-! ## Names of signatures -/

/-- `NormalSignatureKind`. -/
inductive NormalSignatureKind where
  | normalSignatureUnknown
  | operatorSighashDefault
  | challenge
  | disproveTimeout2
  | disprove2
  | reimburse1
  | kickoffNotFinalized1
  | kickoffNotFinalized2
  | reimburse2
  | noSignature
  | challengeTimeout2
  | miniAssert1
  | operatorChallengeAck1
  | notStored
  | yieldKickoffTxid
  | latestBlockhashTimeout1
  | latestBlockhashTimeout2
  | latestBlockhashTimeout3
  | latestBlockhash
  deriving Repr, DecidableEq

/-- `NumberedSignatureKind`. -/
inductive NumberedSignatureKind where
  | numberedSignatureUnknown
  | numberedNotStored
  | operatorChallengeNack1
  | operatorChallengeNack2
  | operatorChallengeNack3
  | assertTimeout1
  | assertTimeout2
  | assertTimeout3
  | unspentKickoff1
  | unspentKickoff2
  | watchtowerChallengeTimeout1
  | watchtowerChallengeTimeout2
  | watchtowerChallenge
  deriving Repr, DecidableEq

/-- `SignatureId`. -/
inductive SignatureId where
  | normalSignature (signatureKind : NormalSignatureKind)
  | numberedSignature (signatureKind : NumberedSignatureKind) (idx : Int32)
  deriving Repr, DecidableEq

/-- The name of a numbered signature; `idx as i32`. -/
def SignatureId.numbered (signatureKind : NumberedSignatureKind) (idx : Nat) : SignatureId :=
  .numberedSignature signatureKind (Int32.ofNat idx)

/-! ## Handlers -/

/-- `SpendableTxIn`. -/
structure SpendableTxIn where
  previousOutpoint : OutPoint
  prevout : TxOut
  scripts : List SpendableScript
  spendinfo : Option TaprootSpendInfo
  deriving Repr, DecidableEq

/-- `SpendableTxIn::from_scripts`. -/
def SpendableTxIn.fromScripts (previousOutput : OutPoint) (value : UInt64)
    (scripts : List SpendableScript) (keyPath : Option XOnlyPublicKey) :
    Except Panic SpendableTxIn := do
  let output ← UnspentTxOut.fromScripts library value scripts keyPath
  return {
    previousOutpoint := previousOutput
    prevout := output.txout
    scripts := output.scripts
    spendinfo := output.spendinfo }

/-- `SpentTxIn`. -/
structure SpentTxIn where
  spendable : SpendableTxIn
  sequence : UInt32
  witness : Option (List (List UInt8))
  spendPath : SpendPath
  inputId : SignatureId
  deriving Repr, DecidableEq

/-- `SpentTxIn::to_txin`. -/
def SpentTxIn.toTxin (self : SpentTxIn) : TxIn where
  previousOutput := self.spendable.previousOutpoint
  scriptSig := []
  sequence := self.sequence
  witness := self.witness.getD []

/-- `TxHandler`; the cached transaction and its id are computed from the parts. -/
structure TxHandler where
  transactionType : TransactionType
  version : Int32
  lockTime : UInt32
  txins : List SpentTxIn
  txouts : List UnspentTxOut
  deriving Repr, DecidableEq

namespace TxHandler

/-- `TxHandler::get_cached_tx`. -/
def getCachedTx (self : TxHandler) : CircuitTransaction where
  version := self.version
  lockTime := self.lockTime
  input := self.txins.map SpentTxIn.toTxin
  output := self.txouts.map UnspentTxOut.txout

/-- `TxHandler::get_txid`. -/
def getTxid (self : TxHandler) : Txid := library.computeTxid self.getCachedTx

/-- `TxHandler::get_spendable_output`. -/
def getSpendableOutput (self : TxHandler) (vout : UtxoVout) : BuildResult SpendableTxIn := do
  let idx := vout.getVout
  let txout ← okOr (.eyre (.outputNotFound idx)) self.txouts[idx.toNat]?
  return {
    previousOutpoint := { txid := self.getTxid library, vout := idx }
    prevout := txout.txout
    scripts := txout.scripts
    spendinfo := txout.spendinfo }

/-- The outputs that a handler spends. -/
def spends (self : TxHandler) : List OutPoint :=
  self.txins.map fun txin => txin.spendable.previousOutpoint

/-- The name of an output of a handler. -/
def outpoint (self : TxHandler) (vout : UtxoVout) : OutPoint where
  txid := self.getTxid library
  vout := vout.getVout

theorem getSpendableOutput_eq_ok {self : TxHandler} {vout : UtxoVout} {spendable : SpendableTxIn} :
    self.getSpendableOutput library vout = .ok spendable ↔
      ∃ txout, self.txouts[vout.getVout.toNat]? = some txout ∧
        spendable = ⟨self.outpoint library vout, txout.txout, txout.scripts, txout.spendinfo⟩ := by
  simp only [getSpendableOutput, ExceptRun.bind_ok_iff, okOr_eq_ok, pure, Except.pure,
    Except.ok.injEq]
  constructor
  · rintro ⟨txout, found, rfl⟩
    exact ⟨txout, found, rfl⟩
  · rintro ⟨txout, found, rfl⟩
    exact ⟨txout, found, rfl⟩

@[simp] theorem map_previousOutput_getCachedTx (self : TxHandler) :
    self.getCachedTx.input.map TxIn.previousOutput = self.spends := by
  simp [getCachedTx, spends, Function.comp_def, SpentTxIn.toTxin]

end TxHandler

/-- The outputs that a transaction spends. -/
def CircuitTransaction.spends (self : CircuitTransaction) : List OutPoint :=
  self.input.map TxIn.previousOutput

/-- One input of a handler: the name of its signature, the output that it spends, the path
and the sequence number. -/
structure HandlerInput where
  inputId : SignatureId
  txhandler : TxHandler
  vout : UtxoVout
  spendPath : SpendPath
  sequence : UInt32

/-- `add_input` with an output of a handler. -/
def HandlerInput.toSpentTxIn (input : HandlerInput) : BuildResult SpentTxIn := do
  let spendable ← input.txhandler.getSpendableOutput library input.vout
  return {
    spendable
    sequence := input.sequence
    witness := none
    spendPath := input.spendPath
    inputId := input.inputId }

/-- `TxHandlerBuilder::finalize` for a version, inputs and outputs. -/
def TxHandler.finalize (transactionType : TransactionType) (version : Int32)
    (txins : List SpentTxIn) (txouts : List UnspentTxOut) : TxHandler where
  transactionType
  version
  lockTime := 0
  txins
  txouts

/-- A handler whose inputs are outputs of other handlers and whose outputs are fixed. -/
def connectTxhandler (transactionType : TransactionType) (version : Int32)
    (inputs : List HandlerInput) (txouts : List UnspentTxOut) : BuildResult TxHandler := do
  let txins ← inputs.mapM (HandlerInput.toSpentTxIn library)
  return .finalize transactionType version txins txouts

section Connect

variable {library}

theorem HandlerInput.toSpentTxIn_eq_ok {input : HandlerInput} {txin : SpentTxIn}
    (built : input.toSpentTxIn library = .ok txin) :
    txin.spendable.previousOutpoint = input.txhandler.outpoint library input.vout := by
  simp only [toSpentTxIn, ExceptRun.bind_ok_iff, TxHandler.getSpendableOutput_eq_ok] at built
  obtain ⟨spendable, ⟨txout, _, rfl⟩, finished⟩ := built
  cases finished
  rfl

end Connect

end Clementine
