import Clementine.BridgeCircuit.SPV
import Clementine.BridgeCircuit.Script
import Clementine.BridgeCircuit.Sighash
import Clementine.HeaderChain.Circuit
import Clementine.Lib.Sha2

/-!
# Inputs of the bridge circuit

The records that the host fills and the circuit reads, and the functions of other crates
that the circuit calls.  Those functions are parameters: hashing, encodings, scripts,
signatures, Groth16 proofs, storage proofs and the light client's journal.
-/

namespace Clementine

/-- `MAX_NUMBER_OF_WATCHTOWERS`. -/
def maxNumberOfWatchtowers : Nat := 160

/-- `TotalWork`: 128-bit work, most significant byte first. -/
abbrev TotalWork := Vector UInt8 16

/-- `ChallengeSendingWatchtowers`: one bit for every watchtower. -/
abbrev ChallengeSendingWatchtowers := Vector UInt8 20

/-- `WatchTowerChallengeTxCommitment`. -/
structure WatchTowerChallengeTxCommitment where
  compressedG16Proof : Vector UInt8 128
  totalWork : TotalWork
  deriving DecidableEq

/-- `LightClientProof`. -/
structure LightClientProof where
  lcJournal : List UInt8
  deriving DecidableEq

/-- `StorageProof`; the proofs are JSON texts. -/
structure StorageProof where
  storageProofUtxo : String
  storageProofVout : String
  storageProofDepositTxid : String
  index : UInt32
  deriving DecidableEq

/-- `WatchtowerInput`. -/
structure WatchtowerInput where
  watchtowerIdx : UInt32
  watchtowerChallengeInputIdx : UInt32
  watchtowerChallengeUtxos : List TxOut
  watchtowerChallengeTx : CircuitTransaction
  watchtowerChallengeWitness : List (List UInt8)
  annexDigest : Option Bytes32
  deriving DecidableEq

/-- `BridgeCircuitInput`. -/
structure BridgeCircuitInput where
  kickoffTx : CircuitTransaction
  allTweakedWatchtowerPubkeys : List Bytes32
  watchtowerInputs : List WatchtowerInput
  hcp : BlockHeaderCircuitOutput
  payoutSpv : SPV
  payoutInputIndex : UInt32
  lcp : LightClientProof
  sp : StorageProof
  watchtowerChallengeConnectorStartIdx : UInt32
  deriving DecidableEq

/-- `WatchtowerChallengeSet`. -/
structure WatchtowerChallengeSet where
  challengeSenders : ChallengeSendingWatchtowers
  challengeOutputs : List (List TxOut)
  deriving DecidableEq

/-- `EIP1186StorageProof`, as far as the circuit reads it. -/
structure EIP1186StorageProof where
  key : Bytes32
  value : U256
  proof : List (List UInt8)
  deriving DecidableEq

/-- `LightClientCircuitOutput`, as far as the circuit reads it. -/
structure LightClientCircuitOutput where
  l2StateRoot : Bytes32
  lightClientProofMethodId : MethodId
  latestDaStateBlockHash : Bytes32
  deriving DecidableEq

/-- The functions of other crates that the bridge circuit calls. -/
structure CircuitLibrary where
  sha256 : Sha256
  /-- `blake3::hash`. -/
  blake3 : List UInt8 → Bytes32
  /-- `Keccak256`. -/
  keccak256 : List UInt8 → Bytes32
  encode : ConsensusEncode
  signingEncode : SigningEncode
  script : ScriptLibrary
  /-- `Transaction::compute_txid`. -/
  computeTxid : CircuitTransaction → Bytes32
  /-- `TapSighash::from_engine` after the given bytes. -/
  tapSighash : List UInt8 → Bytes32
  /-- Whether `VerifyingKey::from_bytes` succeeds. -/
  verifyingKeyFromBytes : Bytes32 → Bool
  /-- Whether `Signature::try_from` succeeds. -/
  signatureTryFrom : Vector UInt8 64 → Bool
  /-- `verify_prehash` for a key, a message and a signature. -/
  verifyPrehash : Bytes32 → Bytes32 → Vector UInt8 64 → Bool
  /-- Whether `CircuitGroth16Proof::from_compressed` succeeds. -/
  groth16FromCompressed : Vector UInt8 128 → Bool
  /-- `CircuitGroth16WithTotalWork::verify` for a seal, a work, a genesis hash and an image. -/
  groth16Verify : Vector UInt8 128 → TotalWork → Bytes32 → Bytes32 → Bool
  /-- `serde_json::from_str` for a storage proof. -/
  storageProofFromStr : String → Option EIP1186StorageProof
  /-- `borsh::from_slice` for a `SparseMerkleProof`, and its `verify` for a root, a key hash
  and a value. -/
  sparseMerkleProofFromSlice : List UInt8 → Bool
  sparseMerkleProofVerify : List UInt8 → Bytes32 → Bytes32 → List UInt8 → Bool
  /-- `borsh::from_slice` for the light client's output. -/
  lightClientOutputFromSlice : List UInt8 → Option LightClientCircuitOutput
  /-- `env::verify` for an image and a journal. -/
  envVerify : Bytes32 → List UInt8 → Bool

/-- `HEADER_CHAIN_METHOD_ID` of the work-only and the bridge circuit. -/
def headerChainMethodId : Network → MethodId
  | .mainnet => #v[979737163, 3139115623, 434676403, 1033805265, 2367912767, 640592238, 952268029,
      3887751414]
  | .testnet4 => #v[2487449420, 2186829733, 2515280211, 3828941899, 3409442174, 3966286449,
      922629988, 1022921726]
  | .signet => #v[4072711430, 3526910400, 551000790, 1037364378, 1103702670, 2556721815,
      1120182538, 4161994494]
  | .regtest => #v[1720128379, 2377242113, 951606047, 2583305317, 2941342008, 2869654011,
      3094413664, 2824949714]

/-! ## A recorded run

One withdrawal of a small bridge on `regtest`: a chain of 290 blocks whose last block holds
the payout, one watchtower whose challenge carries the proof of a chain of the same work, and
a rollup state with four words.  The functions of other crates are given by their values on
these data. -/

namespace Recorded

open ByteNumeral

/-- A Taproot output script. -/
def p2tr (key : Bytes32) : List UInt8 := 0x51 :: 0x20 :: key.toList

/-- The key of the watchtower. -/
def watchtowerKey : Bytes32 :=
  beBytes 32 0x4e1a2145510639ae74c1500d40577bbfb7e5a0eadb400203468b417487b4bf27

/-- A kickoff output that no watchtower can spend. -/
def depositOutput : TxOut where
  value := 330
  scriptPubkey := p2tr
    (beBytes 32 0x848d2b2e5abf76b7a45b3f2a612c895e95711394819c6014e82f56811b677eee)

/-- The output that the watchtower spends with its challenge. -/
def connectorOutput : TxOut := ⟨330, p2tr watchtowerKey⟩

/-- The output that everyone may spend. -/
def anchorOutput : TxOut := ⟨240, [0x51, 0x02, 0x4E, 0x73]⟩

/-- The transaction id of the operator's round. -/
def roundTxid : Bytes32 :=
  beBytes 32 0x3459f9fe9cc9899664a1f175cda3ef29ae5108d8fecc6b3149c63ed4016f7436

/-- The kickoff transaction; its connectors start at output 41. -/
def kickoffTx : CircuitTransaction where
  version := 3
  lockTime := 0
  input := [⟨⟨roundTxid, 2⟩, [], 0xFFFFFFFD, []⟩]
  output := List.replicate 41 depositOutput ++ [connectorOutput, depositOutput,
    ⟨0, 0x6A :: 0x20 :: (beBytes 32
      0x683a62ce15fbabb1ac867022e56e6e4f4f581762d77c3abb2f8dc8b165b3b1b9).toList⟩,
    anchorOutput]

def kickoffTxid : Bytes32 :=
  beBytes 32 0xa1182da0c7a304da7faa7e9d200cccc82fbd8f82ad563d8faf84b6dce1b782eb

/-- The four parts of the watchtower's proof. -/
def proofParts : List Bytes32 :=
  [beBytes 32 0xff91de365e265972c841d4a49ff3c0a76339c770fab3c88426987867d257eb85,
    beBytes 32 0x6fa43543c40e90412bc908e70f0be3f35330e794bdb30c643d83e482ee27910d,
    beBytes 32 0x1eddbbd21a1dc733b4b0fe5906271774a072907e31c97e182456f20b4c8dba95,
    beBytes 32 0x735f64e1ae5ac51e678f977aa8255356db6fc431130941ca9a4f7e0a507e2a9a]

/-- The proof and the work of the watchtower. -/
def commitment : WatchTowerChallengeTxCommitment where
  compressedG16Proof := beBytes 128 (beNat (proofParts.flatMap Vector.toList))
  totalWork := beBytes 16 0x244

/-- The outputs of the watchtower's challenge. -/
def challengeOutputs : List TxOut :=
  let proof := commitment.compressedG16Proof.toList
  [⟨330, 0x51 :: 0x20 :: proof.take 32⟩, ⟨330, 0x51 :: 0x20 :: (proof.drop 32).take 32⟩,
    ⟨0, 0x6A :: 0x4C :: 0x50 :: proof.drop 64 ++ commitment.totalWork.toList⟩]

/-- A challenge that spends the given kickoff outputs with the given witnesses. -/
def challengeTx (spends : List (UInt32 × List (List UInt8))) : CircuitTransaction where
  version := 2
  lockTime := 0
  input := spends.map fun spend => ⟨⟨kickoffTxid, spend.1⟩, [], 0xFFFFFFFD, spend.2⟩
  output := challengeOutputs

/-- The watchtower's signature of the challenge that spends its connector only. -/
def connectorSignature : Vector UInt8 64 :=
  beBytes 64 (0x92c932d5b8a8ed75bb9b647fe728f6cfbaf0d7f662c7d678832d6ed6e13f64aa * 2 ^ 256 +
    0x4e452321f18323479d275eadefbdb17dfba17489846fda7aede0ba3e2369c3a8)

/-- The watchtower's signature of the challenge that spends the anchor first. -/
def anchorFirstSignature : Vector UInt8 64 :=
  beBytes 64 (0xc3faf4e5ff20d88b620928487392012109f2e29f471d34d4370deb37176a613b * 2 ^ 256 +
    0x7bbe101f5cb3b67105f2b54ff95bf62b6324086cdfcace9678d98585a29acaba)

/-- The challenge as the host should hand it to the circuit. -/
def watchtowerInput : WatchtowerInput where
  watchtowerIdx := 0
  watchtowerChallengeInputIdx := 0
  watchtowerChallengeUtxos := [connectorOutput]
  watchtowerChallengeTx := challengeTx [(41, [])]
  watchtowerChallengeWitness := [connectorSignature.toList]
  annexDigest := none

/-- The transaction that the user withdraws from, and the move transaction. -/
def withdrawalTxid : Bytes32 :=
  beBytes 32 0x67822815566c5e74f9aafdb96eb5ce6fd758e7224e05a52c7dbfda8504e6ad57

def moveTxid : Bytes32 :=
  beBytes 32 0xa9f6cea023319b2ebecc60bad64ff3be7fb7ea3d78922b8f4ec3560cfabecec7

/-- The operator's key. -/
def operatorXonlypk : Bytes32 :=
  beBytes 32 0x741e21a231fe427eab30bc182f01a6bef3269be431348d3feb81cc35a106621a

/-- A payout that spends the given outputs of the withdrawal transaction. -/
def payoutTx (vouts : List UInt32) : CircuitTransaction where
  version := 3
  lockTime := 0
  input := vouts.map fun vout => ⟨⟨withdrawalTxid, vout⟩, [], 0xFFFFFFFD, []⟩
  output := [⟨999900000, p2tr
      (beBytes 32 0xd2c1cb1575d323b6120b6e5bcc9ce5ad373e88e73e675030f1c2c5261b4dbc86)⟩,
    ⟨0, 0x6A :: 0x20 :: operatorXonlypk.toList⟩]

def blockHash : Bytes32 :=
  beBytes 32 0x1f25591b76a37961876f56cf4e47084a8a18fe25b23fb94b94f4b6ca02c0ad74

def previousBlockHash : Bytes32 :=
  beBytes 32 0x9df9c0c7eef718e33e5f52eec1782f9c9dd354fd1e279b389f81cc999328486b

/-- The payout in the last block of the chain, after the coinbase transaction. -/
def payoutSpv : SPV where
  transaction := payoutTx [0, 1]
  blockInclusionProof := ⟨1,
    [beBytes 32 0x247e272c8f022a5599b105397f908e798c3db395e20ec4e4e473a3a0e6d5457d]⟩
  blockHeader := {
    version := 0x20000000
    prevBlockHash := previousBlockHash
    merkleRoot := beBytes 32 0x20b06d8dfc9a05e00749abdb372f0e78fb9e5c8b59ef1d40b6e64a7628d5ed90
    time := 1761787340
    bits := 0x207FFFFF
    nonce := 0 }
  mmrInclusionProof := ⟨2, 1, [previousBlockHash]⟩

/-- The header chain output for the chain of 290 blocks. -/
def hcp : BlockHeaderCircuitOutput where
  methodId := headerChainMethodId .regtest
  genesisStateHash := beBytes 32 0x5f7302ad16c8bd9ef2f3be00c8199a86f9e0ba861484abb4af5f7e457f8c2216
  chainState := {
    blockHeight := 289
    totalWork := beBytes 32 0x244
    bestBlockHash := blockHash
    currentTargetBits := 0x207FFFFF
    epochStartTime := 0
    prev11Timestamps := #v[1761787160, 1761787220, 1761787280, 1761787340, 1761786740,
      1761786800, 1761786860, 1761786920, 1761786980, 1761787040, 1761787100]
    blockHashesMmr := {
      subroots := [beBytes 32 0xbbd48284510fb051d3996b8868c2d129a74a16fa5edbcd5f195cd2629d642577,
        beBytes 32 0xd6d1066106cb552a45b0ee7a7643d4ab7774cdeed99495be69df5554eb51575b,
        beBytes 32 0x273e8981182c08df2bc2b86b2c6b8ddb545b89fb8dccd017b094426a64d3e300]
      size := 290 } }

/-- The root of the rollup's state tree. -/
def l2StateRoot : Bytes32 :=
  beBytes 32 0xf7810b8acdf2f6d9ac9f6fbea63944ac43256b47de899f108a24b55663f20d5d

/-- A leaf and an inner node of the state tree, as siblings in a proof. -/
def leafNode (keyHash valueHash : Nat) : List UInt8 :=
  2 :: (beBytes 32 keyHash).toList ++ (beBytes 32 valueHash).toList

def innerNode (left right : Nat) : List UInt8 :=
  1 :: (beBytes 32 left).toList ++ (beBytes 32 right).toList

/-- A word of the state tree with its proof: the slot, the value, the two hashes of the leaf
and the siblings from the leaf up. -/
def stateEntry (slot value keyHash valueHash : Nat) (siblings : List (List UInt8)) :
    Bytes32 × EIP1186StorageProof where
  fst := beBytes 32 keyHash
  snd := {
    key := beBytes 32 slot
    value := BitVec.ofNat 256 value
    proof := [1 :: (beBytes 32 keyHash).toList ++ (beBytes 32 valueHash).toList ++
      u32LeBytes (UInt32.ofNat siblings.length) ++ siblings.flatten, [0x79]] }

/-- The withdrawal transaction id at index 0. -/
def utxoEntry : Bytes32 × EIP1186StorageProof :=
  stateEntry 0xa66cc928b5edb82af9bd49922954155ab7b0942694bea4ce44661d9a8736c688
    0x67822815566c5e74f9aafdb96eb5ce6fd758e7224e05a52c7dbfda8504e6ad57
    0x4a3586068b125a436045827ee6c7c0d013e8c57410fea993085b3f63d8e23ec1
    0x285fa87730723e7112c8a5d7d39d63ab63e446a59525eb7f5b87de0e270803aa
    [leafNode 0x0211d9fe48cf32fbe1aee2b9cbfde9b0edfcb967a2b44d30c632df384bd5caf6
        0xe8a93e9c64821494d9e6e486e36034e3f998611758b2dfb8ab0b75ccd9f5c66a,
      innerNode 0x05e70b570b70235b65470281dd4e3db9d858889706d837cd16a8712b8ac339c4
        0x5350415253455f4d45524b4c455f504c414345484f4c4445525f484153485f5f]

/-- The withdrawal output index at index 0. -/
def voutEntry : Bytes32 × EIP1186StorageProof :=
  stateEntry 0xa66cc928b5edb82af9bd49922954155ab7b0942694bea4ce44661d9a8736c689 0
    0x87456bba9436534c340776837663aa3ed7d64e7d023ed43317ec9f581c0b59b6
    0x66687aadf862bd776c8fc18b8e9f8e20089714856ee233b3902a591d0d5f2925
    [leafNode 0xb2c1f9435844623b4b1ae246cfcc8f4b7032cc4a4a96285469fbfdf6881b542f
        0x72f869896645e683537b5ff24165377d74d061a83cfed1cfd595efe4dc2fdae8,
      [0], innerNode 0xcd07f2498d048bf41563fbfb25c12d697f4269cacb42633208eae38166e279eb
        0x767e6745694cdf65f08fe154d3af6d6468b4cbd8db91d746b5ef194583bfee15]

/-- The move transaction id at index 0. -/
def depositEntry : Bytes32 × EIP1186StorageProof :=
  stateEntry 0xf3f7a9fe364faab93b216da50a3214154f22a0a2b415b23a84c8169e8b636ee3
    0xa9f6cea023319b2ebecc60bad64ff3be7fb7ea3d78922b8f4ec3560cfabecec7
    0x0211d9fe48cf32fbe1aee2b9cbfde9b0edfcb967a2b44d30c632df384bd5caf6
    0xe8a93e9c64821494d9e6e486e36034e3f998611758b2dfb8ab0b75ccd9f5c66a
    [leafNode 0x4a3586068b125a436045827ee6c7c0d013e8c57410fea993085b3f63d8e23ec1
        0x285fa87730723e7112c8a5d7d39d63ab63e446a59525eb7f5b87de0e270803aa,
      innerNode 0x05e70b570b70235b65470281dd4e3db9d858889706d837cd16a8712b8ac339c4
        0x5350415253455f4d45524b4c455f504c414345484f4c4445525f484153485f5f]

/-- Another move transaction id at index `2 ^ 31`. -/
def farDepositEntry : Bytes32 × EIP1186StorageProof :=
  stateEntry 0xf3f7a9fe364faab93b216da50a3214154f22a0a2b415b23a84c8169f0b636ee3
    0x8bdc35492d33f26b4954fa78a6d16707c1d8ad4f0c7377be9e42d1c3439e92e6
    0xb2c1f9435844623b4b1ae246cfcc8f4b7032cc4a4a96285469fbfdf6881b542f
    0x72f869896645e683537b5ff24165377d74d061a83cfed1cfd595efe4dc2fdae8
    [leafNode 0x87456bba9436534c340776837663aa3ed7d64e7d023ed43317ec9f581c0b59b6
        0x66687aadf862bd776c8fc18b8e9f8e20089714856ee233b3902a591d0d5f2925,
      [0], innerNode 0xcd07f2498d048bf41563fbfb25c12d697f4269cacb42633208eae38166e279eb
        0x767e6745694cdf65f08fe154d3af6d6468b4cbd8db91d746b5ef194583bfee15]

def stateEntries : List (Bytes32 × EIP1186StorageProof) :=
  [utxoEntry, voutEntry, depositEntry, farDepositEntry]

/-- The text of a storage proof. -/
def proofText (storageProof : EIP1186StorageProof) : String :=
  let digits (bytes : List UInt8) : List Char := bytes.flatMap fun byte =>
    [Nat.digitChar (byte.toNat / 16), Nat.digitChar (byte.toNat % 16)]
  let quoted (number : List Char) : String := "\"0x" ++ String.ofList number ++ "\""
  "\x7b\"key\":" ++ quoted (digits storageProof.key.toList) ++ ",\"value\":" ++
    quoted (Nat.toDigits 16 storageProof.value.toNat) ++ ",\"proof\":[" ++
    ",".intercalate (storageProof.proof.map fun part => quoted (digits part)) ++ "]\x7d"

/-- The storage proof of the withdrawal at index 0, with a deposit entry and an index. -/
def storageProof (deposit : Bytes32 × EIP1186StorageProof) (index : UInt32) : StorageProof where
  storageProofUtxo := proofText utxoEntry.2
  storageProofVout := proofText voutEntry.2
  storageProofDepositTxid := proofText deposit.2
  index

/-- The journal of the light client: state root, two ids, the last block with its height, work,
bits and times, and the heights of the rollup. -/
def lcJournal : List UInt8 :=
  l2StateRoot.toList ++
    (beBytes 32 0x07a2ce39cef982f6bcee060caadad2673051f7022fff73660c9615c8c7f64f50).toList ++
    (beBytes 32 0x03d4b547454d9db87ce4a5db2bac5bd32ecdf7c920a77e0b792b905aab9ceffe).toList ++
    blockHash.toList ++ (beBytes 8 289).toList.reverse ++ (beBytes 32 0x244).toList ++
    u32LeBytes 0x207FFFFF ++ u32LeBytes 0 ++
    hcp.chainState.prev11Timestamps.toList.flatMap u32LeBytes ++
    (beBytes 8 24).toList.reverse ++ u32LeBytes 6

/-- What the light client's journal says. -/
def lightClientOutput : LightClientCircuitOutput where
  l2StateRoot := l2StateRoot
  lightClientProofMethodId := #v[1203098627, 3097316677, 3685082236, 3546000427, 3388460334,
    192849696, 1519397753, 4277116075]
  latestDaStateBlockHash := blockHash

/-- The input of the bridge circuit. -/
def input : BridgeCircuitInput where
  kickoffTx := kickoffTx
  allTweakedWatchtowerPubkeys := [watchtowerKey]
  watchtowerInputs := [watchtowerInput]
  hcp := hcp
  payoutSpv := payoutSpv
  payoutInputIndex := 0
  lcp := ⟨lcJournal⟩
  sp := storageProof depositEntry 0
  watchtowerChallengeConnectorStartIdx := 41

/-- `REGTEST_WORK_ONLY_METHOD_ID`. -/
def workOnlyImageId : Bytes32 :=
  beBytes 32 0x49d82044e76b798efce15251096ea98f0edded1fd777fd29314a95d0995cb81a

/-- Digest of the tag `TapSighash`. -/
def tapSighashTag : Bytes32 :=
  beBytes 32 0xf40a48df4b2a70c8b4924bf2654661ed3d95fd66a313eb87237597c628e4a031

/-- The messages that the watchtower has signed, with their signatures. -/
def signatures : List (Bytes32 × Vector UInt8 64) :=
  [(beBytes 32 0x8ebff69a0d4f00f9daa5bde04ad2d236043d49596734c8eb2aa721fb46e1ba24,
      connectorSignature),
    (beBytes 32 0xf2da1083b0fae9e7f0b6020833bbc04e0dbfcb6ba3c56c840e64ab1392c9601e,
      anchorFirstSignature)]

/-- The two strings of the journal and their BLAKE3 hashes. -/
def blake3Table : List (List UInt8 × Bytes32) :=
  let inner :=
    beBytes 32 0x15e87df5c46cd84be4561daffcc43830bb2848bf6d8d4f9fc8ea1c3f2579fbd8
  [(blockHash.toList.drop 12 ++ blockHash.toList.drop 12 ++ 1 :: List.replicate 19 0, inner),
    ((beBytes 32 0x651d81878eea2bf1241ce0b049a8df7c3ad2e6f8efb02412cecbf2b0546f82cb).toList ++
        inner.toList,
      beBytes 32 0x89a3c77f8ec1937434d83b30c6c40d45142545f6b4668f234b72190dff8cb205)]

/-- The functions of other crates, on the data of the run. -/
def library : CircuitLibrary where
  sha256 := Sha2.sha256
  blake3 string := (blake3Table.lookup string).getD zeroBytes
  keccak256 string :=
    if string = (beBytes 32 7).toList then
      beBytes 32 0xa66cc928b5edb82af9bd49922954155ab7b0942694bea4ce44661d9a8736c688
    else
      beBytes 32 0xf3f7a9fe364faab93b216da50a3214154f22a0a2b415b23a84c8169e8b636ee3
  encode := .bitcoin
  signingEncode := .bitcoin
  script := .bitcoin
  computeTxid tx := if tx = kickoffTx then kickoffTxid else zeroBytes
  tapSighash written :=
    Sha2.sha256 (tapSighashTag.toList ++ tapSighashTag.toList ++ written)
  verifyingKeyFromBytes key := key = watchtowerKey
  signatureTryFrom signature := signature ∈ signatures.map Prod.snd
  verifyPrehash key message signature := key = watchtowerKey ∧ (message, signature) ∈ signatures
  groth16FromCompressed proof := proof = commitment.compressedG16Proof
  groth16Verify proof work genesisStateHash imageId :=
    (⟨proof, work⟩ : WatchTowerChallengeTxCommitment) = commitment ∧
      genesisStateHash = hcp.genesisStateHash ∧ imageId = workOnlyImageId
  storageProofFromStr text :=
    (stateEntries.find? fun entry => proofText entry.2 = text).map Prod.snd
  sparseMerkleProofFromSlice proof := proof ∈ stateEntries.flatMap (·.2.proof.take 1)
  sparseMerkleProofVerify proof root keyHash value :=
    root = l2StateRoot ∧ stateEntries.any fun entry =>
      entry.1 = keyHash ∧ entry.2.proof.take 1 = [proof] ∧
        entry.2.value.toBeBytes.toList.reverse = value
  lightClientOutputFromSlice journal :=
    if journal = lcJournal then some lightClientOutput else none
  envVerify _ _ := false

end Recorded

end Clementine
