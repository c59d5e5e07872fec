import Clementine.BridgeCircuit.Structs

/-!
# Storage proofs of the rollup's bridge contract

`verify_storage_proofs` reads the withdrawal outpoint and the move transaction id at one
index of the contract.  The contract keeps two words for a withdrawal and one for a
deposit, so the three storage keys are computed from the index: twice the index and the
next word in the withdrawal array, and the index itself in the deposit array.

The doubling is done in 32 bits, before the index is widened to a storage key.
-/

namespace Clementine

section Keys

variable (library : CircuitLibrary)

/-- `ADDRESS`, the bridge contract. -/
def bridgeAddress : List UInt8 :=
  (ByteNumeral.beBytes 20 0x3100000000000000000000000000000000000002).toList

/-- `UTXOS_STORAGE_INDEX`. -/
def utxosStorageIndex : List UInt8 := (ByteNumeral.beBytes 32 7).toList

/-- `DEPOSIT_STORAGE_INDEX`. -/
def depositStorageIndex : List UInt8 := (ByteNumeral.beBytes 32 8).toList

/-- The first slot of the withdrawal array. -/
def storageAddress : U256 := U256.fromBeBytes (library.keccak256 utxosStorageIndex)

/-- The first slot of the deposit array. -/
def storageAddressDeposit : U256 := U256.fromBeBytes (library.keccak256 depositStorageIndex)

/-- The bytes of `E/s/`. -/
def storagePrefixText : List UInt8 := [0x45, 0x2F, 0x73, 0x2F]

/-- The bytes of `y`. -/
def presentText : List UInt8 := [0x79]

/-- `storage_verify`. -/
def storageVerify (storageProof : EIP1186StorageProof) (expectedRootHash : Bytes32) :
    Except Panic Unit := do
  let kaddr := library.sha256 (bridgeAddress ++ storageProof.key.toList.reverse)
  let storageKey := storagePrefixText ++ kaddr.toList
  let keyHash := library.sha256 storageKey
  let presence ← vecIndex storageProof.proof 1
  panicIf (presence ≠ presentText) "storage does not exist"
  let provedValue := storageProof.value.toBeBytes.toList.reverse
  let merkleProof ← vecIndex storageProof.proof 0
  panicIf (library.sparseMerkleProofFromSlice merkleProof = false)
    "called `Result::unwrap()` on an `Err` value"
  panicIf (library.sparseMerkleProofVerify merkleProof expectedRootHash keyHash provedValue = false)
    "Account storage proof must be valid"

/-- Message of the check of a storage key. -/
def storageKeyText (name : String) (left right : Bytes32) : String :=
  s!"Invalid {name} storage key. left: {left.toList} right: {right.toList}"

/-- `u32::from_le_bytes` of the last four bytes of a word. -/
def voutOfValue (value : U256) : UInt32 :=
  UInt32.ofNat (ByteNumeral.leNat (value.toBeBytes.toList.drop 28))

/-- `verify_storage_proofs`: the withdrawal transaction id, its output index and the move
transaction id. -/
def verifyStorageProofs (storageProof : StorageProof) (stateRoot : Bytes32) :
    Except Panic (Bytes32 × UInt32 × Bytes32) := do
  let utxoStorageProof ← expectSome "Failed to deserialize UTXO storage proof"
    (library.storageProofFromStr storageProof.storageProofUtxo)
  let voutStorageProof ← expectSome "Failed to deserialize vout storage proof"
    (library.storageProofFromStr storageProof.storageProofVout)
  let depositStorageProof ← expectSome "Failed to deserialize deposit storage proof"
    (library.storageProofFromStr storageProof.storageProofDepositTxid)
  let storageKeyUtxo := storageAddress library + U256.fromU32 (storageProof.index * 2)
  let storageKeyVout := storageAddress library + U256.fromU32 (storageProof.index * 2 + 1)
  let depositStorageKey := storageAddressDeposit library + U256.fromU32 storageProof.index
  panicIf (depositStorageKey.toBeBytes ≠ depositStorageProof.key)
    (storageKeyText "deposit" depositStorageKey.toBeBytes depositStorageProof.key)
  panicIf (storageKeyUtxo.toBeBytes ≠ utxoStorageProof.key)
    (storageKeyText "withdrawal UTXO" storageKeyUtxo.toBeBytes utxoStorageProof.key)
  panicIf (storageKeyVout.toBeBytes ≠ voutStorageProof.key)
    (storageKeyText "withdrawal vout" storageKeyVout.toBeBytes voutStorageProof.key)
  storageVerify library utxoStorageProof stateRoot
  storageVerify library depositStorageProof stateRoot
  storageVerify library voutStorageProof stateRoot
  return (utxoStorageProof.value.toBeBytes, voutOfValue voutStorageProof.value,
    depositStorageProof.value.toBeBytes)

/-! ## Storage keys -/

/-- The three proofs of an accepted storage proof. -/
structure ProvedValues (storageProof : StorageProof) (stateRoot : Bytes32)
    (returned : Bytes32 × UInt32 × Bytes32) (utxo vout deposit : EIP1186StorageProof) : Prop where
  utxoRead : library.storageProofFromStr storageProof.storageProofUtxo = some utxo
  voutRead : library.storageProofFromStr storageProof.storageProofVout = some vout
  depositRead : library.storageProofFromStr storageProof.storageProofDepositTxid = some deposit
  utxoProved : storageVerify library utxo stateRoot = .ok ()
  voutProved : storageVerify library vout stateRoot = .ok ()
  depositProved : storageVerify library deposit stateRoot = .ok ()
  values : returned = (utxo.value.toBeBytes, voutOfValue vout.value, deposit.value.toBeBytes)

variable {storageProof : StorageProof}

/-- An accepted storage proof consists of three proofs at the computed keys. -/
theorem verifyStorageProofs_ok_iff {stateRoot : Bytes32} {returned : Bytes32 × UInt32 × Bytes32} :
    verifyStorageProofs library storageProof stateRoot = .ok returned ↔ ∃ utxo vout deposit,
        ProvedValues library storageProof stateRoot returned utxo vout deposit ∧
        utxo.key = (storageAddress library + U256.fromU32 (storageProof.index * 2)).toBeBytes ∧
        vout.key = (storageAddress library + U256.fromU32 (storageProof.index * 2 + 1)).toBeBytes ∧
        deposit.key =
          (storageAddressDeposit library + U256.fromU32 storageProof.index).toBeBytes := by
  simp only [verifyStorageProofs, ExceptRun.bind_ok_iff, expectSome_eq_ok, pure, Except.pure,
    Except.ok.injEq]
  constructor
  · rintro ⟨utxo, utxoRead, vout, voutRead, deposit, depositRead, ⟨⟩, depositKey, ⟨⟩, utxoKey, ⟨⟩,
      voutKey, ⟨⟩, utxoProved, ⟨⟩, depositProved, ⟨⟩, voutProved, values⟩
    rw [panicIf_eq_ok, not_not] at depositKey utxoKey voutKey
    exact ⟨utxo, vout, deposit, ⟨utxoRead, voutRead, depositRead, utxoProved, voutProved,
      depositProved, values.symm⟩, utxoKey.symm, voutKey.symm, depositKey.symm⟩
  · rintro ⟨utxo, vout, deposit, proved, utxoKey, voutKey, depositKey⟩
    exact ⟨utxo, proved.utxoRead, vout, proved.voutRead, deposit, proved.depositRead,
      (), panicIf_eq_ok.mpr (not_not.mpr depositKey.symm),
      (), panicIf_eq_ok.mpr (not_not.mpr utxoKey.symm),
      (), panicIf_eq_ok.mpr (not_not.mpr voutKey.symm),
      (), proved.utxoProved, (), proved.depositProved, (), proved.voutProved, proved.values.symm⟩

/-- The keys of the three proofs for the index as a natural number. -/
structure NaturalKeys (storageProof : StorageProof) (utxo vout deposit : EIP1186StorageProof) :
    Prop where
  utxoKey : utxo.key =
    (storageAddress library + BitVec.ofNat 256 (2 * storageProof.index.toNat)).toBeBytes
  voutKey : vout.key =
    (storageAddress library + BitVec.ofNat 256 (2 * storageProof.index.toNat + 1)).toBeBytes
  depositKey : deposit.key =
    (storageAddressDeposit library + BitVec.ofNat 256 storageProof.index.toNat).toBeBytes

/-- A key determines the offset of its slot. -/
theorem storageKey_inj {base offset offset' : U256} :
    (base + offset).toBeBytes = (base + offset').toBeBytes ↔ offset = offset' := by
  rw [U256.toBeBytes_inj]
  exact BitVec.add_right_inj base

theorem toNat_double (index : UInt32) : (index * 2).toNat = 2 * index.toNat % 2 ^ 32 := by
  rw [UInt32.toNat_mul, Nat.mul_comm]
  rfl

theorem toNat_double_add_one (index : UInt32) :
    (index * 2 + 1).toNat = 2 * index.toNat % 2 ^ 32 + 1 := by
  have even : 2 * index.toNat % 2 ^ 32 + 1 < 2 ^ 32 := by omega
  rw [UInt32.toNat_add, toNat_double, UInt32.toNat_one, Nat.mod_eq_of_lt even]

/-- The computed offset is the natural one unless the doubling wraps. -/
theorem fromU32_eq_ofNat_iff {word : UInt32} {value : Nat} (small : value < 2 ^ 256) :
    U256.fromU32 word = BitVec.ofNat 256 value ↔ word.toNat = value := by
  rw [← BitVec.toNat_inj, U256.toNat_fromU32, BitVec.toNat_ofNat, Nat.mod_eq_of_lt small]

/-- The keys of an accepted proof are the natural ones exactly for indices below
`2 ^ 31`. -/
theorem naturalKeys_iff {utxo vout deposit : EIP1186StorageProof} (utxoKey : utxo.key =
      (storageAddress library + U256.fromU32 (storageProof.index * 2)).toBeBytes)
    (voutKey : vout.key =
      (storageAddress library + U256.fromU32 (storageProof.index * 2 + 1)).toBeBytes)
    (depositKey : deposit.key =
      (storageAddressDeposit library + U256.fromU32 storageProof.index).toBeBytes) :
    NaturalKeys library storageProof utxo vout deposit ↔ storageProof.index.toNat < 2 ^ 31 := by
  have bound := storageProof.index.toNat_lt
  constructor
  · intro natural
    have doubled := utxoKey.symm.trans natural.utxoKey
    rw [storageKey_inj, fromU32_eq_ofNat_iff (by omega), toNat_double] at doubled
    omega
  · intro small
    exact {
      utxoKey := by
        rw [utxoKey, storageKey_inj, fromU32_eq_ofNat_iff (by omega), toNat_double]
        omega
      voutKey := by
        rw [voutKey, storageKey_inj, fromU32_eq_ofNat_iff (by omega), toNat_double_add_one]
        omega
      depositKey := by
        rw [depositKey, storageKey_inj, fromU32_eq_ofNat_iff (by omega)] }

/-- Two accepted storage proofs are proofs at the keys of their indices, and name one
deposit if they name one withdrawal, exactly if both indices are below `2 ^ 31`. -/
theorem verifyStorageProofs_keys_iff (left right : StorageProof) (leftRoot rightRoot : Bytes32)
    (leftReturned rightReturned : Bytes32 × UInt32 × Bytes32)
    (leftAccepted : verifyStorageProofs library left leftRoot = .ok leftReturned)
    (rightAccepted : verifyStorageProofs library right rightRoot = .ok rightReturned) :
    ∃ leftUtxo leftVout leftDeposit rightUtxo rightVout rightDeposit,
      ProvedValues library left leftRoot leftReturned leftUtxo leftVout leftDeposit ∧
      ProvedValues library right rightRoot rightReturned rightUtxo rightVout rightDeposit ∧
      ((NaturalKeys library left leftUtxo leftVout leftDeposit ∧
          NaturalKeys library right rightUtxo rightVout rightDeposit ∧
          (leftUtxo.key = rightUtxo.key ∨ leftVout.key = rightVout.key →
            leftDeposit.key = rightDeposit.key)) ↔
        left.index.toNat < 2 ^ 31 ∧ right.index.toNat < 2 ^ 31) := by
  obtain ⟨leftUtxo, leftVout, leftDeposit, leftProved, leftUtxoKey, leftVoutKey, leftDepositKey⟩ :=
    (verifyStorageProofs_ok_iff library).mp leftAccepted
  obtain ⟨rightUtxo, rightVout, rightDeposit, rightProved, rightUtxoKey, rightVoutKey,
    rightDepositKey⟩ := (verifyStorageProofs_ok_iff library).mp rightAccepted
  refine ⟨leftUtxo, leftVout, leftDeposit, rightUtxo, rightVout, rightDeposit, leftProved,
    rightProved, ?_⟩
  rw [naturalKeys_iff library leftUtxoKey leftVoutKey leftDepositKey,
    naturalKeys_iff library rightUtxoKey rightVoutKey rightDepositKey]
  refine ⟨fun ⟨leftSmall, rightSmall, _⟩ => ⟨leftSmall, rightSmall⟩,
    fun ⟨leftSmall, rightSmall⟩ => ⟨leftSmall, rightSmall, fun sameKey => ?_⟩⟩
  have sameIndex : left.index = right.index := by
    rw [leftUtxoKey, rightUtxoKey, leftVoutKey, rightVoutKey, storageKey_inj, storageKey_inj]
      at sameKey
    apply UInt32.toNat_inj.mp
    rcases sameKey with sameOffset | sameOffset
    · have offsets := congrArg BitVec.toNat sameOffset
      rw [U256.toNat_fromU32, U256.toNat_fromU32, toNat_double, toNat_double] at offsets
      omega
    · have offsets := congrArg BitVec.toNat sameOffset
      rw [U256.toNat_fromU32, U256.toNat_fromU32, toNat_double_add_one, toNat_double_add_one]
        at offsets
      omega
  rw [leftDepositKey, rightDepositKey, sameIndex]

end Keys

/-! ## Two indices with one withdrawal -/

namespace Recorded

/-- The texts of the recorded entries are read back. -/
theorem storageProofFromStr_proofText {entry : Bytes32 × EIP1186StorageProof}
    (member : entry ∈ stateEntries) :
    library.storageProofFromStr (proofText entry.2) = some entry.2 := by
  have texts : (stateEntries.map fun entry => proofText entry.2).Nodup := by decide +kernel
  cases found : stateEntries.find? (fun other => proofText other.2 = proofText entry.2) with
  | none =>
    rw [List.find?_eq_none] at found
    exact absurd (decide_eq_true rfl) (found entry member)
  | some other =>
    have same : other = entry := List.inj_on_of_nodup_map texts (List.mem_of_find?_eq_some found)
      member (by simpa using List.find?_some found)
    simp only [library, found, same, Option.map_some]

/-- The entries of the recorded state are proved. -/
theorem storageVerify_entries : storageVerify library utxoEntry.2 l2StateRoot = .ok () ∧
      storageVerify library voutEntry.2 l2StateRoot = .ok () ∧
      storageVerify library depositEntry.2 l2StateRoot = .ok () ∧
      storageVerify library farDepositEntry.2 l2StateRoot = .ok () := by
  decide +kernel

/-- A recorded storage proof is accepted if the keys of its entries are those of its index. -/
theorem verifyStorageProofs_recorded {deposit : Bytes32 × EIP1186StorageProof} {index : UInt32}
    (member : deposit ∈ stateEntries)
    (proved : storageVerify library deposit.2 l2StateRoot = .ok ())
    (keys : utxoEntry.2.key = (storageAddress library + U256.fromU32 (index * 2)).toBeBytes ∧
      voutEntry.2.key = (storageAddress library + U256.fromU32 (index * 2 + 1)).toBeBytes ∧
      deposit.2.key = (storageAddressDeposit library + U256.fromU32 index).toBeBytes) :
    verifyStorageProofs library (storageProof deposit index) l2StateRoot =
      .ok (utxoEntry.2.value.toBeBytes, voutOfValue voutEntry.2.value,
        deposit.2.value.toBeBytes) := by
  rw [verifyStorageProofs_ok_iff]
  exact ⟨utxoEntry.2, voutEntry.2, deposit.2, {
    utxoRead := storageProofFromStr_proofText (by simp [stateEntries])
    voutRead := storageProofFromStr_proofText (by simp [stateEntries])
    depositRead := storageProofFromStr_proofText member
    utxoProved := storageVerify_entries.1
    voutProved := storageVerify_entries.2.1
    depositProved := proved
    values := rfl }, keys⟩

theorem storageProof_accepted :
    verifyStorageProofs library (storageProof depositEntry 0) l2StateRoot =
      .ok (withdrawalTxid, 0, moveTxid) := by
  rw [verifyStorageProofs_recorded (by simp [stateEntries]) storageVerify_entries.2.2.1
    (by decide +kernel)]
  decide +kernel

theorem farStorageProof_accepted :
    verifyStorageProofs library (storageProof farDepositEntry 0x80000000) l2StateRoot =
      .ok (withdrawalTxid, 0, farDepositEntry.2.value.toBeBytes) := by
  rw [verifyStorageProofs_recorded (by simp [stateEntries]) storageVerify_entries.2.2.2
    (by decide +kernel)]
  decide +kernel

end Recorded

open Recorded in
/-- The recorded withdrawal has the keys of index 0. -/
theorem verifyStorageProofs_keys_iff_recorded :
    verifyStorageProofs Recorded.library (storageProof depositEntry 0) l2StateRoot =
        .ok (withdrawalTxid, 0, moveTxid) ∧
      ∃ utxo vout deposit, ProvedValues Recorded.library (storageProof depositEntry 0) l2StateRoot
          (withdrawalTxid, 0, moveTxid) utxo vout deposit ∧
        NaturalKeys Recorded.library (storageProof depositEntry 0) utxo vout deposit := by
  obtain ⟨utxo, vout, deposit, _, _, _, proved, -, keys⟩ := verifyStorageProofs_keys_iff
    Recorded.library _ _ _ _ _ _ storageProof_accepted storageProof_accepted
  exact ⟨storageProof_accepted, utxo, vout, deposit, proved, (keys.mpr (by decide)).1⟩

open Recorded in
/-- With index `2 ^ 31` the doubling wraps to 0: the same withdrawal is accepted with another
deposit. -/
theorem verifyStorageProofs_accepts_wrapped_index :
    verifyStorageProofs Recorded.library (storageProof depositEntry 0) l2StateRoot =
        .ok (withdrawalTxid, 0, moveTxid) ∧
      (storageProof farDepositEntry 0x80000000).index.toNat = 2 ^ 31 ∧
      verifyStorageProofs Recorded.library (storageProof farDepositEntry 0x80000000) l2StateRoot =
        .ok (withdrawalTxid, 0, farDepositEntry.2.value.toBeBytes) ∧
      Recorded.library.storageProofFromStr
        (storageProof farDepositEntry 0x80000000).storageProofUtxo = some utxoEntry.2 ∧
      utxoEntry.2.key ≠
        (storageAddress Recorded.library + BitVec.ofNat 256 (2 * 2 ^ 31)).toBeBytes ∧
      depositEntry.2.key ≠ farDepositEntry.2.key ∧
      moveTxid ≠ farDepositEntry.2.value.toBeBytes :=
  ⟨storageProof_accepted, by decide, farStorageProof_accepted,
    storageProofFromStr_proofText (by simp [stateEntries]), by decide +kernel, by decide +kernel,
    by decide +kernel⟩

end Clementine
