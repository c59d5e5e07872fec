import Clementine.BridgeCircuit.Transaction

/-!
# Scripts and byte arrays

The script functions of the Bitcoin library are parameters: the tests for the two output
types that the circuits use and the iterator over instructions.
-/

namespace Clementine

/-! ## Arrays -/

/-- `try_into` from a slice to an array of `size` bytes. -/
def tryInto (size : Nat) (bytes : List UInt8) : Option (Vector UInt8 size) :=
  if fits : bytes.length = size then
    some ⟨bytes.toArray, by rw [List.size_toArray, fits]⟩
  else
    none

@[simp] theorem tryInto_eq_some {size : Nat} {bytes : List UInt8} {array : Vector UInt8 size} :
    tryInto size bytes = some array ↔ array.toList = bytes := by
  unfold tryInto
  split_ifs with fits
  · constructor
    · rintro ⟨⟩
      rfl
    · rintro rfl
      rfl
  · simp only [false_iff]
    rintro rfl
    exact fits Vector.length_toList

theorem tryInto_of_length {size : Nat} {bytes : List UInt8} (fits : bytes.length = size) :
    ∃ array, tryInto size bytes = some array ∧ array.toList = bytes := by
  unfold tryInto
  rw [dif_pos fits]
  exact ⟨_, rfl, rfl⟩

/-! ## Scripts -/

/-- `Instruction`. -/
inductive Instruction where
  | op (opcode : UInt8)
  | pushBytes (data : List UInt8)
  deriving Repr, DecidableEq

/-- `OP_RETURN`. -/
def opReturn : UInt8 := 0x6A

/-- The script functions of the Bitcoin library.  The iterator over instructions yields an
error as `none`. -/
structure ScriptLibrary where
  isOpReturn : List UInt8 → Bool
  isP2tr : List UInt8 → Bool
  instructions : List UInt8 → List (Option Instruction)

/-- The documented behaviour of the tests: a Taproot output is the version, the push of 32
bytes and the key, and starts with another opcode than a data output. -/
structure ScriptLibrary.Lawful (library : ScriptLibrary) : Prop where
  length_of_isP2tr : ∀ script, library.isP2tr script = true → script.length = 34
  not_isOpReturn_of_isP2tr : ∀ script, library.isP2tr script = true →
    library.isOpReturn script = false

namespace ScriptLibrary

/-- A push of `count` bytes, which must be there. -/
def readPush (count : Nat) (rest : List UInt8) : Option (Instruction × List UInt8) :=
  if count ≤ rest.length then
    some (.pushBytes (rest.take count), rest.drop count)
  else
    none

/-- A push whose count is given in `width` bytes. -/
def readCountedPush (width : Nat) (rest : List UInt8) : Option (Instruction × List UInt8) :=
  if width ≤ rest.length then
    readPush (ByteNumeral.leNat (rest.take width)) (rest.drop width)
  else
    none

/-- The instruction that starts with `opcode`, and the bytes after it. -/
def readInstruction (opcode : UInt8) (rest : List UInt8) : Option (Instruction × List UInt8) :=
  if opcode.toNat ≤ 0x4B then
    readPush opcode.toNat rest
  else if opcode = 0x4C then
    readCountedPush 1 rest
  else if opcode = 0x4D then
    readCountedPush 2 rest
  else if opcode = 0x4E then
    readCountedPush 4 rest
  else
    some (.op opcode, rest)

/-- The instructions of a script, read with at most the given number of steps.  Nothing is
read after an error. -/
def readInstructions : Nat → List UInt8 → List (Option Instruction)
  | steps + 1, opcode :: rest =>
    match readInstruction opcode rest with
    | some (instruction, rest) => some instruction :: readInstructions steps rest
    | none => [none]
  | _, _ => []

/-- The script functions of the Bitcoin library, for sample runs. -/
def bitcoin : ScriptLibrary where
  isOpReturn script := script.head? == some opReturn
  isP2tr script := script.length == 34 && script.take 2 == [0x51, 0x20]
  instructions script := readInstructions script.length script

theorem bitcoin_lawful : bitcoin.Lawful where
  length_of_isP2tr script taproot := by
    simp only [bitcoin, Bool.and_eq_true, beq_iff_eq] at taproot
    exact taproot.1
  not_isOpReturn_of_isP2tr script taproot := by
    simp only [bitcoin, Bool.and_eq_true, beq_iff_eq] at taproot
    match script, taproot.2 with
    | first :: second :: rest, start =>
      simp only [List.take_succ_cons, List.take_zero, List.cons.injEq] at start
      simp [bitcoin, start.1, opReturn]

end ScriptLibrary

/-- `parse_op_return_data`. -/
def parseOpReturnData (library : ScriptLibrary) (script : List UInt8) : Option (List UInt8) :=
  match library.instructions script with
  | some (.op opcode) :: some (.pushBytes data) :: _ =>
    if opcode = opReturn then some data else none
  | _ => none

/-- `get_first_op_return_output`. -/
def getFirstOpReturnOutput (library : ScriptLibrary) (tx : CircuitTransaction) : Option TxOut :=
  tx.output.find? fun out => library.isOpReturn out.scriptPubkey

end Clementine
