import Clementine.Common.Basic
import Clementine.Lib.SelfDelimiting

/-!
# Transactions inside the circuit

`CircuitTransaction` wraps the Bitcoin library's transaction.  The library's
consensus encoders are parameters; the wrapper concatenates them without the
witnesses and hashes the result once for the mid-state id and twice for the id.
-/

namespace Clementine

/-- `OutPoint`. -/
structure OutPoint where
  txid : Bytes32
  vout : UInt32
  deriving Repr, DecidableEq

/-- `TxIn`. -/
structure TxIn where
  previousOutput : OutPoint
  scriptSig : List UInt8
  sequence : UInt32
  witness : List (List UInt8)
  deriving Repr, DecidableEq

/-- `TxOut`; the value is in satoshis. -/
structure TxOut where
  value : UInt64
  scriptPubkey : List UInt8
  deriving Repr, DecidableEq

/-- `CircuitTransaction`, with the fields of the transaction it wraps. -/
structure CircuitTransaction where
  version : Int32
  lockTime : UInt32
  input : List TxIn
  output : List TxOut
  deriving DecidableEq

/-- The `consensus_encode` functions of the Bitcoin library for the four parts of a
transaction. -/
structure ConsensusEncode where
  version : Int32 → List UInt8
  input : List TxIn → List UInt8
  output : List TxOut → List UInt8
  lockTime : UInt32 → List UInt8

namespace ConsensusEncode

/-- The little-endian bytes of a number. -/
def leBytes (width value : Nat) : List UInt8 :=
  (ByteNumeral.beBytes width value).toList.reverse

/-- `VarInt`. -/
def varInt (value : Nat) : List UInt8 :=
  if value < 0xFD then
    leBytes 1 value
  else if value ≤ 0xFFFF then
    0xFD :: leBytes 2 value
  else if value ≤ 0xFFFFFFFF then
    0xFE :: leBytes 4 value
  else
    0xFF :: leBytes 8 value

/-- A script with its length. -/
def script (bytes : List UInt8) : List UInt8 := varInt bytes.length ++ bytes

/-- The encoding of the Bitcoin library, for sample runs. -/
def bitcoin : ConsensusEncode where
  version version := u32LeBytes version.toUInt32
  input inputs := varInt inputs.length ++ inputs.flatMap fun input =>
    input.previousOutput.txid.toList ++ u32LeBytes input.previousOutput.vout ++
      script input.scriptSig ++ u32LeBytes input.sequence
  output outputs := varInt outputs.length ++ outputs.flatMap fun output =>
    leBytes 8 output.value.toNat ++ script output.scriptPubkey
  lockTime lockTime := u32LeBytes lockTime

@[simp] theorem length_leBytes (width value : Nat) : (leBytes width value).length = width := by
  simp [leBytes]

theorem leNat_leBytes {width value : Nat} (bound : value < 256 ^ width) :
    ByteNumeral.leNat (leBytes width value) = value := by
  have numeral := ByteNumeral.beNat_beBytes width value
  rwa [ByteNumeral.beNat, Nat.mod_eq_of_lt bound] at numeral

theorem leBytes_delimited (width : Nat) :
    SelfDelimiting (leBytes width) {value | value < 256 ^ width} := by
  refine .of_width (fun value _ => length_leBytes width value) ?_
  intro left leftBound right rightBound equal
  rw [← leNat_leBytes leftBound, equal, leNat_leBytes rightBound]

/-- The number of bytes that follow the first byte of a count. -/
def countWidth (marker : UInt8) : Nat :=
  if marker < 0xFD then 0 else if marker = 0xFD then 2 else if marker = 0xFE then 4 else 8

/-- The count that a first byte and the bytes after it stand for. -/
def countValue (marker : UInt8) (payload : List UInt8) : Nat :=
  if marker < 0xFD then marker.toNat else ByteNumeral.leNat payload

theorem varInt_decodes {value : Nat} (bound : value < 2 ^ 64) :
    ∃ marker payload, varInt value = marker :: payload ∧ payload.length = countWidth marker ∧
      countValue marker payload = value := by
  unfold varInt
  split_ifs with one two four
  · obtain ⟨byte, single⟩ := List.length_eq_one_iff.mp (length_leBytes 1 value)
    have numeral : byte.toNat = value := by
      rw [← leNat_leBytes (show value < 256 ^ 1 by omega), single]
      exact (ByteNumeral.beNat_singleton byte).symm
    have small : byte < 0xFD := UInt8.lt_iff_toNat_lt.mpr (numeral ▸ one)
    exact ⟨byte, [], single, by simp [countWidth, small], by rw [countValue, if_pos small, numeral]⟩
  · exact ⟨_, _, rfl, length_leBytes 2 value, leNat_leBytes (by omega)⟩
  · exact ⟨_, _, rfl, length_leBytes 4 value, leNat_leBytes (by omega)⟩
  · exact ⟨_, _, rfl, length_leBytes 8 value, leNat_leBytes (by omega)⟩

/-- A count can be told from what follows it, since its first byte tells its width. -/
theorem varInt_delimited : SelfDelimiting varInt {value | value < 2 ^ 64} := by
  intro left leftBound right rightBound tail tail' equal
  obtain ⟨marker, payload, leftEq, leftWidth, leftValue⟩ := varInt_decodes leftBound
  obtain ⟨marker', payload', rightEq, rightWidth, rightValue⟩ := varInt_decodes rightBound
  rw [leftEq, rightEq, List.cons_append, List.cons_append, List.cons.injEq] at equal
  obtain ⟨rfl, rest⟩ := equal
  obtain ⟨rfl, tails⟩ := List.append_inj rest (leftWidth.trans rightWidth.symm)
  exact ⟨leftValue.symm.trans rightValue, tails⟩

theorem script_delimited : SelfDelimiting script {bytes | bytes.length < 2 ^ 64} :=
  varInt_delimited.counted

theorem varInt_ne_nil (value : Nat) : varInt value ≠ [] := by
  unfold varInt
  split_ifs with one
  · intro empty
    simpa using congrArg List.length empty
  all_goals nofun

end ConsensusEncode

namespace CircuitTransaction

/-- The bytes that `mid_state_txid` hashes. -/
def nonWitnessBytes (encode : ConsensusEncode) (self : CircuitTransaction) : List UInt8 :=
  encode.version self.version ++ encode.input self.input ++ encode.output self.output ++
    encode.lockTime self.lockTime

/-- `CircuitTransaction::mid_state_txid`. -/
def midStateTxid (sha256 : Sha256) (encode : ConsensusEncode) (self : CircuitTransaction) :
    Bytes32 :=
  calculateSha256 sha256 (self.nonWitnessBytes encode)

/-- `CircuitTransaction::txid`. -/
def txid (sha256 : Sha256) (encode : ConsensusEncode) (self : CircuitTransaction) : Bytes32 :=
  calculateSha256 sha256 (self.midStateTxid sha256 encode).toList

end CircuitTransaction

end Clementine
