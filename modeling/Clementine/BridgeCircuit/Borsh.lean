import Clementine.BridgeCircuit.Transaction

/-!
# Borsh encoding of transactions

Transactions, outputs and witnesses are passed to the circuits as Borsh bytes.  Numbers have a
fixed width, strings and witnesses follow a count of four bytes, and the lists of a transaction
follow a count of eight bytes, the width of `usize`.  Every reader takes back what was written
and leaves what follows.
-/

namespace Clementine

open ByteNumeral ConsensusEncode

/-! ## Readers -/

/-- `deserialize_reader`: a value and the bytes after it. -/
abbrev Reader (α : Type) : Type := StateT (List UInt8) Option α

/-- A string of a known length. -/
def readExact (count : Nat) : Reader (Vector UInt8 count) := fun bytes =>
  if enough : count ≤ bytes.length then
    some (⟨(bytes.take count).toArray, by simpa using enough⟩, bytes.drop count)
  else
    none

/-- A little-endian number. -/
def readNumber (width : Nat) : Reader Nat := (leNat ·.toList) <$> readExact width

/-- A loop that reads and pushes values. -/
def readMany {α : Type} (read : Reader α) : Nat → Reader (List α)
  | 0 => return []
  | count + 1 => do
    let value ← read
    (value :: ·) <$> readMany read count

/-- A reader takes a value off its encoding and leaves what follows. -/
def Reads {α : Type} (read : Reader α) (encoding : List UInt8) (value : α) : Prop :=
  ∀ rest, read (encoding ++ rest) = some (value, rest)

namespace Reads

variable {α β : Type} {read : Reader α} {next : α → Reader β} {left right : List UInt8}
  {value : α} {result : β}

theorem pure (value : α) : Reads (Pure.pure value) [] value := fun _ => rfl

theorem map (reads : Reads read left value) (f : α → β) : Reads (f <$> read) left (f value) := by
  intro rest
  simp [Functor.map, StateT.map, reads rest]

theorem bind (reads : Reads read left value) (readsNext : Reads (next value) right result) :
    Reads (read >>= next) (left ++ right) result := by
  intro rest
  simp [Bind.bind, StateT.bind, List.append_assoc, reads (right ++ rest), readsNext rest]

theorem exact {count : Nat} (bytes : Vector UInt8 count) :
    Reads (readExact count) bytes.toList bytes := by
  intro rest
  have enough : count ≤ (bytes.toList ++ rest).length := by simp
  rw [readExact, dif_pos enough]
  simp only [List.drop_left' bytes.length_toList, List.take_left' bytes.length_toList]
  rfl

theorem number {width number : Nat} (bound : number < 256 ^ width) :
    Reads (readNumber width) (leBytes width number) number := by
  have reads := (exact (beBytes width number).reverse).map (leNat ·.toList)
  rw [Vector.toList_reverse] at reads
  rwa [← leBytes, leNat_leBytes bound] at reads

theorem many {encode : α → List UInt8} {values : List α}
    (each : ∀ value ∈ values, Reads read (encode value) value) :
    Reads (readMany read values.length) (values.flatMap encode) values := by
  induction values with
  | nil => exact pure []
  | cons value values ih =>
    exact (each value List.mem_cons_self).bind
      ((ih fun value member => each value (List.mem_cons_of_mem _ member)).map (value :: ·))

end Reads

/-! ## Encodings -/

def readU32 : Reader UInt32 := UInt32.ofNat <$> readNumber 4

/-- `Vec<u8>`. -/
def serializeBytes (bytes : List UInt8) : List UInt8 := leBytes 4 bytes.length ++ bytes

def deserializeBytes : Reader (List UInt8) := do
  let count ← readNumber 4
  (·.toList) <$> readExact count

/-- `CircuitWitness::serialize`: a `Vec<Vec<u8>>`. -/
def serializeWitness (witness : List (List UInt8)) : List UInt8 :=
  leBytes 4 witness.length ++ witness.flatMap serializeBytes

/-- `CircuitWitness::deserialize_reader`. -/
def deserializeWitness : Reader (List (List UInt8)) := do
  let count ← readNumber 4
  readMany deserializeBytes count

/-- `serialize_txin`. -/
def serializeTxin (txin : TxIn) : List UInt8 :=
  [txin.previousOutput.txid.toList, leBytes 4 txin.previousOutput.vout.toNat,
    serializeBytes txin.scriptSig, leBytes 4 txin.sequence.toNat,
    serializeWitness txin.witness].flatten

/-- `deserialize_txin`. -/
def deserializeTxin : Reader TxIn := do
  let txid ← readExact 32
  let vout ← readU32
  let scriptSig ← deserializeBytes
  let sequence ← readU32
  let witness ← deserializeWitness
  return { previousOutput := { txid, vout }, scriptSig, sequence, witness }

/-- `serialize_txout`, also of `CircuitTxOut`. -/
def serializeTxout (txout : TxOut) : List UInt8 :=
  [leBytes 8 txout.value.toNat, serializeBytes txout.scriptPubkey].flatten

/-- `deserialize_txout`, also of `CircuitTxOut`. -/
def deserializeTxout : Reader TxOut := do
  let value ← UInt64.ofNat <$> readNumber 8
  let scriptPubkey ← deserializeBytes
  return { value, scriptPubkey }

/-- `CircuitTransaction::serialize`. -/
def CircuitTransaction.serialize (self : CircuitTransaction) : List UInt8 :=
  [leBytes 4 self.version.toUInt32.toNat, leBytes 4 self.lockTime.toNat,
    leBytes 8 self.input.length, self.input.flatMap serializeTxin,
    leBytes 8 self.output.length, self.output.flatMap serializeTxout].flatten

/-- `CircuitTransaction::deserialize_reader`. -/
def CircuitTransaction.deserializeReader : Reader CircuitTransaction := do
  let version ← UInt32.toInt32 <$> readU32
  let lockTime ← readU32
  let inputLen ← readNumber 8
  let input ← readMany deserializeTxin inputLen
  let outputLen ← readNumber 8
  let output ← readMany deserializeTxout outputLen
  return { version, lockTime, input, output }

/-! ## Round trips -/

/-- A witness whose numbers fit into four bytes. -/
structure WitnessFits (witness : List (List UInt8)) : Prop where
  count : witness.length < 2 ^ 32
  items : ∀ item ∈ witness, item.length < 2 ^ 32

/-- A transaction whose numbers fit into four bytes. -/
structure TransactionFits (transaction : CircuitTransaction) : Prop where
  inputs : transaction.input.length < 2 ^ 32
  outputs : transaction.output.length < 2 ^ 32
  scriptSigs : ∀ txin ∈ transaction.input, txin.scriptSig.length < 2 ^ 32
  witnesses : ∀ txin ∈ transaction.input, WitnessFits txin.witness
  scriptPubkeys : ∀ txout ∈ transaction.output, txout.scriptPubkey.length < 2 ^ 32

theorem reads_u32 (value : UInt32) : Reads readU32 (leBytes 4 value.toNat) value := by
  have reads := (Reads.number (show value.toNat < 256 ^ 4 from value.toNat_lt)).map UInt32.ofNat
  rwa [UInt32.ofNat_toNat] at reads

theorem reads_bytes {bytes : List UInt8} (short : bytes.length < 2 ^ 32) :
    Reads deserializeBytes (serializeBytes bytes) bytes := by
  have reads := (Reads.exact (⟨bytes.toArray, rfl⟩ : Vector UInt8 bytes.length)).map (·.toList)
  exact (Reads.number short).bind reads

theorem reads_witness {witness : List (List UInt8)} (fits : WitnessFits witness) :
    Reads deserializeWitness (serializeWitness witness) witness :=
  .bind (.number fits.count) (.many fun item member => reads_bytes (fits.items item member))

theorem reads_txin {txin : TxIn} (script : txin.scriptSig.length < 2 ^ 32)
    (witness : WitnessFits txin.witness) : Reads deserializeTxin (serializeTxin txin) txin :=
  .bind (.exact _) (.bind (reads_u32 _) (.bind (reads_bytes script) (.bind (reads_u32 _)
    (.bind (reads_witness witness) (.pure _)))))

theorem reads_txout {txout : TxOut} (script : txout.scriptPubkey.length < 2 ^ 32) :
    Reads deserializeTxout (serializeTxout txout) txout := by
  have value := (Reads.number (show txout.value.toNat < 256 ^ 8 from txout.value.toNat_lt)).map
    UInt64.ofNat
  rw [UInt64.ofNat_toNat] at value
  exact .bind value (.bind (reads_bytes script) (.pure _))

theorem reads_transaction {transaction : CircuitTransaction} (fits : TransactionFits transaction) :
    Reads CircuitTransaction.deserializeReader transaction.serialize transaction := by
  have version := (reads_u32 transaction.version.toUInt32).map UInt32.toInt32
  exact .bind version (.bind (reads_u32 _) (.bind (.number (Nat.lt_trans fits.inputs (by omega)))
    (.bind (.many fun txin member => reads_txin (fits.scriptSigs txin member)
      (fits.witnesses txin member)) (.bind (.number (Nat.lt_trans fits.outputs (by omega)))
        (.bind (.many fun txout member => reads_txout (fits.scriptPubkeys txout member))
          (.pure _))))))

/-- Documented behaviour of the Bitcoin library: inputs are encoded without their witnesses. -/
def ConsensusEncode.WitnessFree (encode : ConsensusEncode) : Prop :=
  ∀ inputs, encode.input inputs = encode.input (inputs.map fun txin => { txin with witness := [] })

/-- A transaction without its witnesses. -/
def CircuitTransaction.stripped (self : CircuitTransaction) : CircuitTransaction :=
  { self with input := self.input.map fun txin => { txin with witness := [] } }

theorem midStateTxid_stripped {sha256 : Sha256} {encode : ConsensusEncode}
    (free : encode.WitnessFree) (transaction : CircuitTransaction) :
    transaction.stripped.midStateTxid sha256 encode = transaction.midStateTxid sha256 encode := by
  simp only [CircuitTransaction.midStateTxid, CircuitTransaction.nonWitnessBytes,
    CircuitTransaction.stripped, free transaction.input]

/-- Transactions, outputs and witnesses are read back with what follows them left over, and the
mid-state id is that of the transaction without witnesses. -/
theorem circuit_codec {sha256 : Sha256} {encode : ConsensusEncode} (free : encode.WitnessFree)
    (rest : List UInt8) :
    (∀ transaction, TransactionFits transaction →
      CircuitTransaction.deserializeReader (transaction.serialize ++ rest) =
        some (transaction, rest)) ∧
    (∀ txout : TxOut, txout.scriptPubkey.length < 2 ^ 32 →
      deserializeTxout (serializeTxout txout ++ rest) = some (txout, rest)) ∧
    (∀ witness, WitnessFits witness →
      deserializeWitness (serializeWitness witness ++ rest) = some (witness, rest)) ∧
    (∀ transaction read left, TransactionFits transaction →
      CircuitTransaction.deserializeReader (transaction.serialize ++ rest) = some (read, left) →
      read.midStateTxid sha256 encode = transaction.midStateTxid sha256 encode) ∧
    ∀ transaction other : CircuitTransaction, transaction.stripped = other.stripped →
      transaction.midStateTxid sha256 encode = other.midStateTxid sha256 encode := by
  refine ⟨fun _ fits => reads_transaction fits rest, fun _ fits => reads_txout fits rest,
    fun _ fits => reads_witness fits rest, ?_, ?_⟩
  · intro transaction read left fits taken
    rw [reads_transaction fits rest] at taken
    cases taken
    rfl
  · intro transaction other same
    rw [← midStateTxid_stripped free, same, midStateTxid_stripped free]

theorem bitcoin_witnessFree : ConsensusEncode.bitcoin.WitnessFree := by
  intro inputs
  simp [ConsensusEncode.bitcoin, List.flatMap_map]

theorem circuit_codec_samples :
    CircuitTransaction.deserializeReader (CircuitTransaction.serialize ⟨2, 0, [], []⟩ ++ [1]) =
        some (⟨2, 0, [], []⟩, [1]) ∧
      deserializeTxout (serializeTxout ⟨330, [0x51]⟩ ++ [1]) = some (⟨330, [0x51]⟩, [1]) ∧
      deserializeWitness (serializeWitness [[], [7]] ++ [1]) = some ([[], [7]], [1]) := by
  have codec := @circuit_codec (fun _ => zeroBytes) .bitcoin bitcoin_witnessFree [1]
  exact ⟨codec.1 _ ⟨by decide, by decide, by simp, by simp, by simp⟩, codec.2.1 _ (by decide),
    codec.2.2.1 _ ⟨by decide, by decide⟩⟩

end Clementine
