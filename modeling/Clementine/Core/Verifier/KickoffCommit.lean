import Clementine.Core.Operator.Payouts
import Clementine.Core.States.Manager

/-!
# The block hash that a kickoff commits to

A kickoff reveals the last twenty bytes of the payout's block hash digit by digit in its witness.
The script that the chain runs caps every digit at fifteen, while `extract_winternitz_commits` takes
the numbers as they are: it fails on a number above 255 and mixes smaller ones into other bytes.
For the digits that the honest signer emits both agree, so `is_kickoff_malicious` reads back the
message that was signed.
-/

namespace Clementine

open Regtest List

/-- The lengths that the parameters of a Winternitz commitment give. -/
structure WinternitzParams where
  messageByteLen : Nat
  totalDigitLen : Nat
  deriving DecidableEq

/-- The digits of the message for a digit size. -/
def WinternitzParams.messageDigits (params : WinternitzParams) (logD : Nat) : Nat :=
  (params.messageByteLen * 8 + logD - 1) / logD

/-! ## The decoder -/

/-- `from_minimal_to_u32_le_bytes`. -/
def fromMinimalToU32LeBytes (minimal : List UInt8) : Except String (List UInt8) :=
  if 4 < minimal.length then .error "u32 bytes length is greater than 4"
  else .ok (minimal ++ replicate (4 - minimal.length) 0)

def u8TryFrom (value : Nat) (text : String) : Except String UInt8 :=
  if value < 256 then .ok (UInt8.ofNat value) else .error text

/-- One byte of a commitment; the arithmetic of bytes wraps. -/
def commitByte (digits : List UInt8 × List UInt8) : Except String UInt8 := do
  let firstBytes ← fromMinimalToU32LeBytes digits.1
  let secondBytes ← fromMinimalToU32LeBytes digits.2
  let firstU8 ← u8TryFrom (ByteNumeral.leNat firstBytes) "Failed to convert first digit to u8"
  let secondU8 ← u8TryFrom (ByteNumeral.leNat secondBytes) "Failed to convert second digit to u8"
  return secondU8 * 16 + firstU8

/-- `chunks_exact(2)`. -/
def chunkPairs {α : Type} : List α → List (α × α)
  | first :: second :: rest => (first, second) :: chunkPairs rest
  | _ => []

/-- Every second element, `skip(1).step_by(2)`. -/
def everySecond {α : Type} : List α → List α
  | _ :: second :: rest => second :: everySecond rest
  | _ => []

/-- `nth(checksum_digits * 2 - 1)`, which consumes everything when there is no checksum. -/
def WinternitzParams.skipChecksum (params : WinternitzParams) (witness : Witness) : Witness :=
  if params.totalDigitLen ≤ params.messageDigits 4 then []
  else witness.drop (2 * (params.totalDigitLen - params.messageDigits 4))

/-- The loop of `extract_winternitz_commits` over the reversed paths. -/
def extractLoop : List WinternitzParams → Witness → Except String (List (List UInt8))
  | [], _ => .ok []
  | params :: rest, witness => do
      let elements := (everySecond (witness.take (2 * params.messageDigits 4))).reverse
      let commit ← (chunkPairs elements).mapM commitByte
      let commits ← extractLoop rest
        (params.skipChecksum (witness.drop (2 * params.messageDigits 4)))
      return commit :: commits

/-- `extract_winternitz_commits`; each path is given by its parameters. -/
def extractWinternitzCommits (witness : Witness) (wtDerivePaths : List WinternitzParams)
    (winternitzLogD : UInt32) : Except String (List (List UInt8)) :=
  if winternitzLogD ≠ 4 then .error "Only winternitz_log_d = 4 is supported"
  else do
    let commits ← extractLoop wtDerivePaths.reverse (witness.drop 1)
    return commits.reverse

/-- `get_payout_info_from_move_txid`, without the fields that the check ignores. -/
def getPayoutInfoFromMoveTxid (withdrawals : List Withdrawal) (moveTxid : Txid) :
    Option (Option XOnlyPublicKey × Bytes32) :=
  withdrawals.findSome? fun row =>
    if row.moveToVaultTxid = moveTxid ∧ row.payoutTxid.isSome then
      row.payoutTxBlockhash.map fun blockhash => (row.payoutPayerOperatorXonlyPk, blockhash)
    else none

/-- The part of `is_kickoff_malicious` after the query. -/
def judgeCommitment (kickoffWitness : Witness) (path : WinternitzParams) (winternitzLogD : UInt32)
    (payoutBlockhash : Bytes32) : Except String Bool := do
  let commits ← extractWinternitzCommits kickoffWitness [path] winternitzLogD
  match commits.head? with
  | none => .error "Couldn't retrieve committed data from witness"
  | some committed => return decide (committed ≠ (Operator.last20Bytes payoutBlockhash).toList)

/-- `is_kickoff_malicious`; `path` are the parameters of the kickoff's derivation path. -/
def isKickoffMalicious (library : BuilderLibrary) (paramset : ProtocolParamset)
    (path : WinternitzParams) (withdrawals : List Withdrawal) (kickoffWitness : Witness)
    (depositData : DepositData) (kickoffData : KickoffData) : BuildResult Bool := do
  let move ← createMoveToVaultTxhandler library depositData paramset
  match getPayoutInfoFromMoveTxid withdrawals (move.getTxid library) with
  | none => return true
  | some (none, _) => return true
  | some (some operatorXonlyPk, payoutBlockhash) =>
    if operatorXonlyPk ≠ kickoffData.operatorXonlyPk then return true
    else match judgeCommitment kickoffWitness path paramset.winternitzLogD payoutBlockhash with
      | .error text => .error (.error (.eyre (.text text)))
      | .ok verdict => return verdict

/-- `handle_kickoff`: the verdict, and the steps after it that do not read the witness. -/
def handleKickoff (malicious : BuildResult Bool) (afterVerdict : Bool → BuildResult Unit) :
    BuildResult Bool := do
  let verdict ← malicious
  afterVerdict verdict
  return verdict

/-! ## Witnesses of the chain -/

/-- The minimal encoding of a script number below `2 ^ 31`. -/
def scriptNumber (number : Nat) : List UInt8 :=
  if number = 0 then []
  else if number < 0x80 then [UInt8.ofNat number]
  else if number < 0x8000 then [UInt8.ofNat number, UInt8.ofNat (number / 256)]
  else if number < 0x800000 then
    [UInt8.ofNat number, UInt8.ofNat (number / 256), UInt8.ofNat (number / 65536)]
  else
    [UInt8.ofNat number, UInt8.ofNat (number / 256), UInt8.ofNat (number / 65536),
      UInt8.ofNat (number / 16777216)]

/-- A commitment in a witness: pairs of a hash and a number, as many as there are digits. -/
structure SignedCommit where
  params : WinternitzParams
  pairs : List (List UInt8 × Nat)
  total : pairs.length = params.totalDigitLen
  checksum : params.messageDigits 4 < params.totalDigitLen
  numbers : ∀ pair ∈ pairs, pair.2 < 2 ^ 31

namespace SignedCommit

/-- The elements that a commitment puts into the witness. -/
def elements (commit : SignedCommit) : Witness :=
  commit.pairs.flatMap fun pair => [pair.1, scriptNumber pair.2]

/-- The numbers of the message, low before high, in pairs for one byte each. -/
def messagePairs (commit : SignedCommit) : List (Nat × Nat) :=
  chunkPairs ((commit.pairs.take (commit.params.messageDigits 4)).map Prod.snd).reverse

/-- The message that the chain evaluates: it caps every digit at fifteen. -/
def evaluated (commit : SignedCommit) : List UInt8 :=
  commit.messagePairs.map fun pair => UInt8.ofNat (16 * min pair.2 15 + min pair.1 15)

end SignedCommit

open SignedCommit

/-- A witness: a signature, the commitments in reverse order, and what the spend path appends. -/
def witnessOf (signature : List UInt8) (commits : List SignedCommit) (tail : Witness) : Witness :=
  signature :: (commits.reverse.flatMap elements ++ tail)

/-- The decoder agrees with the chain on the numbers of one byte. -/
def AgreesOn (pair : Nat × Nat) : Prop :=
  pair.1 < 256 ∧ pair.2 < 256 ∧ pair.1 % 16 = min pair.1 15 ∧
    (pair.2 + pair.1 / 16) % 16 = min pair.2 15

section Decoding

variable {α β : Type}

theorem chunkPairs_map (f : α → β) :
    ∀ values : List α, chunkPairs (values.map f) = (chunkPairs values).map (Prod.map f f)
  | [] => rfl
  | [_] => rfl
  | first :: second :: rest => congrArg ((f first, f second) :: ·) (chunkPairs_map f rest)

theorem mem_of_mem_chunkPairs : ∀ {values : List α} {pair : α × α},
    pair ∈ chunkPairs values → pair.1 ∈ values ∧ pair.2 ∈ values
  | [], _, member => absurd member not_mem_nil
  | [_], _, member => absurd member not_mem_nil
  | first :: second :: rest, pair, member => by
      rcases mem_cons.mp member with rfl | tail
      · exact ⟨mem_cons_self, mem_cons_of_mem _ mem_cons_self⟩
      · have inside := mem_of_mem_chunkPairs tail
        exact ⟨mem_cons_of_mem _ (mem_cons_of_mem _ inside.1),
          mem_cons_of_mem _ (mem_cons_of_mem _ inside.2)⟩

theorem everySecond_flatMap (f g : α → β) (values : List α) :
    everySecond (values.flatMap fun value => [f value, g value]) = values.map g := by
  induction values with
  | nil => rfl
  | cons value rest ih => exact congrArg (g value :: ·) ih

theorem take_flatMap_pair (f g : α → β) (count : Nat) (values : List α) :
    (values.flatMap fun value => [f value, g value]).take (2 * count) =
      (values.take count).flatMap fun value => [f value, g value] := by
  induction values generalizing count with
  | nil => simp
  | cons value rest ih =>
    cases count with
    | zero => rfl
    | succ count =>
      rw [take_succ_cons, flatMap_cons, flatMap_cons, ← ih count]
      rfl

theorem length_flatMap_pair (f g : α → β) (values : List α) :
    (values.flatMap fun value => [f value, g value]).length = 2 * values.length := by
  simp [length_flatMap, Nat.mul_comm]

/-- A minimal number is read back. -/
theorem leNat_scriptNumber {number : Nat} (bound : number < 2 ^ 31) : ∃ bytes,
    fromMinimalToU32LeBytes (scriptNumber number) = .ok bytes ∧
      ByteNumeral.leNat bytes = number := by
  unfold scriptNumber
  split_ifs with zero one two three
  all_goals refine ⟨_, rfl, ?_⟩
  all_goals
    simp [ByteNumeral.leNat, Nat.ofDigits_cons, Nat.ofDigits_nil, replicate]
    omega

/-- A byte is read as the chain evaluates it exactly if the decoder agrees on its numbers. -/
theorem commitByte_eq_iff {pair : Nat × Nat} (first : pair.1 < 2 ^ 31) (second : pair.2 < 2 ^ 31) :
    commitByte (scriptNumber pair.1, scriptNumber pair.2) =
      .ok (UInt8.ofNat (16 * min pair.2 15 + min pair.1 15)) ↔ AgreesOn pair := by
  obtain ⟨low, high⟩ := pair
  obtain ⟨firstBytes, firstRead, firstValue⟩ := leNat_scriptNumber first
  obtain ⟨secondBytes, secondRead, secondValue⟩ := leNat_scriptNumber second
  have read : commitByte (scriptNumber low, scriptNumber high) = do
      let firstU8 ← u8TryFrom low "Failed to convert first digit to u8"
      let secondU8 ← u8TryFrom high "Failed to convert second digit to u8"
      return secondU8 * 16 + firstU8 := by
    simp only [commitByte, firstRead, secondRead, bind, Except.bind, firstValue, secondValue]
  rw [read]
  unfold u8TryFrom AgreesOn
  by_cases lowByte : low < 256
  · by_cases highByte : high < 256
    · simp only [lowByte, highByte, if_true, bind, Except.bind, pure, Except.pure, Except.ok.injEq,
        true_and]
      rw [← UInt8.toNat_inj]
      simp only [UInt8.toNat_add, UInt8.toNat_mul, UInt8.toNat_ofNat', UInt8.reduceToNat]
      omega
    · simp [lowByte, highByte, bind, Except.bind]
  · simp [lowByte, bind, Except.bind]

/-- The bytes that the decoder reads from the numbers of a commitment. -/
def SignedCommit.decode (commit : SignedCommit) : Except String (List UInt8) :=
  commit.messagePairs.mapM fun pair => commitByte (scriptNumber pair.1, scriptNumber pair.2)

theorem SignedCommit.decode_eq_iff (commit : SignedCommit) :
    commit.decode = .ok commit.evaluated ↔ ∀ pair ∈ commit.messagePairs, AgreesOn pair := by
  have small : ∀ pair ∈ commit.messagePairs, pair.1 < 2 ^ 31 ∧ pair.2 < 2 ^ 31 := by
    intro pair member
    have numbers : ∀ number ∈ ((commit.pairs.take (commit.params.messageDigits 4)).map
        Prod.snd).reverse, number < 2 ^ 31 := by
      intro number isNumber
      obtain ⟨entry, isEntry, rfl⟩ := mem_map.mp (mem_reverse.mp isNumber)
      exact commit.numbers entry (mem_of_mem_take isEntry)
    have inside := mem_of_mem_chunkPairs member
    exact ⟨numbers _ inside.1, numbers _ inside.2⟩
  rw [decode, evaluated, ExceptRun.mapM_eq_ok_map_iff]
  refine forall₂_congr fun pair member => ?_
  exact commitByte_eq_iff (small pair member).1 (small pair member).2

/-- The loop reads the commitments one after another. -/
theorem extractLoop_eq (commits : List SignedCommit) (tail : Witness) :
    extractLoop (commits.map params) (commits.flatMap elements ++ tail) = commits.mapM decode := by
  induction commits with
  | nil => rfl
  | cons commit rest ih =>
    have inside : 2 * commit.params.messageDigits 4 ≤ commit.elements.length := by
      have checksum := commit.checksum
      rw [elements, length_flatMap_pair, commit.total]
      omega
    have digits : everySecond ((commit.elements ++ (rest.flatMap elements ++
        tail)).take (2 * commit.params.messageDigits 4)) =
          (commit.pairs.take (commit.params.messageDigits 4)).map
            fun pair => scriptNumber pair.2 := by
      rw [take_append_of_le_length inside, elements, take_flatMap_pair, everySecond_flatMap]
    have skipped : commit.params.skipChecksum ((commit.elements ++
        (rest.flatMap elements ++ tail)).drop (2 * commit.params.messageDigits 4)) =
          rest.flatMap elements ++ tail := by
      have checksum := commit.checksum
      have length := length_flatMap_pair (α := List UInt8 × Nat) Prod.fst
        (fun pair => scriptNumber pair.2) commit.pairs
      rw [WinternitzParams.skipChecksum, if_neg (by omega), drop_drop]
      refine drop_left' ?_
      rw [elements, length, commit.total]
      omega
    rw [map_cons, flatMap_cons, append_assoc, extractLoop, digits, skipped, ih,
      mapM_cons, decode, messagePairs, ← map_reverse]
    rw [show (fun pair : List UInt8 × Nat => scriptNumber pair.2) = scriptNumber ∘ Prod.snd from
      rfl, ← map_map, chunkPairs_map, map_reverse]
    rw [mapM_map]
    rfl

/-- The decoder reads the commitments of a witness. -/
theorem extractWinternitzCommits_eq (signature : List UInt8) (commits : List SignedCommit)
    (tail : Witness) :
    extractWinternitzCommits (witnessOf signature commits tail) (commits.map params) 4 = do
        let decoded ← commits.reverse.mapM decode
        return decoded.reverse := by
  rw [extractWinternitzCommits, if_neg (by decide), ← map_reverse]
  change (do
    let decoded ← extractLoop (commits.reverse.map params)
      (commits.reverse.flatMap elements ++ tail)
    return decoded.reverse) = _
  rw [extractLoop_eq]

end Decoding

/-! ## The check for malice -/

/-- A check for malice that can only fail because of the kickoff's witness. -/
structure KickoffCheck where
  library : BuilderLibrary
  paramset : ProtocolParamset
  withdrawals : List Withdrawal
  depositData : DepositData
  kickoffData : KickoffData
  move : TxHandler
  afterVerdict : Bool → BuildResult Unit
  logD : paramset.winternitzLogD = 4
  built : createMoveToVaultTxhandler library depositData paramset = .ok move
  queued : ∀ verdict, afterVerdict verdict = .ok ()

variable {message : List UInt8} {commit : SignedCommit}

namespace KickoffCheck

variable (check : KickoffCheck) (path : WinternitzParams) (kickoffWitness : Witness)

/-- The payout that the verifier has recorded for the deposit. -/
def payout : Option (Option XOnlyPublicKey × Bytes32) :=
  getPayoutInfoFromMoveTxid check.withdrawals (check.move.getTxid check.library)

/-- `is_kickoff_malicious` of the check. -/
def isMalicious : BuildResult Bool :=
  isKickoffMalicious check.library check.paramset path check.withdrawals kickoffWitness
    check.depositData check.kickoffData

/-- The answer of the verifier to the duty. -/
def answer : BuildResult DutyResult := do
  let verdict ← handleKickoff (check.isMalicious path kickoffWitness) check.afterVerdict
  return .checkIfKickoffMalicious verdict

/-- The verdict about a message: whether the recorded payout is another one. -/
def verdict (message : List UInt8) : Bool :=
  match check.payout with
  | some (some operatorXonlyPk, payoutBlockhash) =>
    operatorXonlyPk ≠ check.kickoffData.operatorXonlyPk ||
      message ≠ (Operator.last20Bytes payoutBlockhash).toList
  | _ => true

/-- The verdict on a witness with one commitment that is read as `message`. -/
theorem isMalicious_of_decode (decoded : commit.decode = .ok message) (signature : List UInt8)
    (tail : Witness) :
    check.isMalicious commit.params (witnessOf signature [commit] tail) =
      .ok (check.verdict message) := by
  have extracted := extractWinternitzCommits_eq signature [commit] tail
  simp only [map_cons, map_nil, reverse_cons, reverse_nil, nil_append,
    mapM_cons, mapM_nil, decoded, bind, Except.bind, pure, Except.pure] at extracted
  unfold isMalicious isKickoffMalicious verdict payout
  rw [check.built, check.logD]
  simp only [bind, Except.bind]
  cases getPayoutInfoFromMoveTxid check.withdrawals (check.move.getTxid check.library) with
  | none => rfl
  | some row =>
    obtain ⟨payer, payoutBlockhash⟩ := row
    cases payer with
    | none => rfl
    | some operatorXonlyPk =>
      by_cases same : operatorXonlyPk = check.kickoffData.operatorXonlyPk
      · simp [same, judgeCommitment, extracted, bind, Except.bind, pure, Except.pure]
      · simp [same, pure, Except.pure]

end KickoffCheck

/-- A witness is evaluated as the chain does: the messages are read as the script caps them, the
check for malice gives its verdict about them, and neither event fails. -/
structure EvaluatedFaithfully (signature : List UInt8) (commits : List SignedCommit)
    (tail : Witness) : Prop where
  extracted : extractWinternitzCommits (witnessOf signature commits tail)
    (commits.map params) 4 = .ok (commits.map evaluated)
  judged : ∀ commit, commits = [commit] → ∀ check : KickoffCheck,
    check.isMalicious commit.params (witnessOf signature commits tail) =
      .ok (check.verdict commit.evaluated)
  handled : ∀ commit, commits = [commit] → ∀ (check : KickoffCheck) (manager : StateManager)
    (context : StateContext) (rows : StateRows),
    (∃ machine ∈ manager.roundMachines,
      machine.operatorData.xonlyPk = check.kickoffData.operatorXonlyPk) →
    (∀ challengedBefore, context.owner.handleDuty (.checkIfKickoffMalicious
      (witnessOf signature commits tail) check.depositData check.kickoffData challengedBefore) =
        check.answer commit.params (witnessOf signature commits tail)) →
    (manager.checkIfKickoffMalicious check.library context (witnessOf signature commits tail)
      check.kickoffData check.depositData rows).outcome = .ok ()

/-- The check of the state manager succeeds if the verifier has a verdict. -/
theorem StateManager.checkIfKickoffMalicious_ok {library : BuilderLibrary}
    {manager : StateManager} {context : StateContext} {rows : StateRows}
    {payoutBlockhash : Witness} {kickoffData : KickoffData} {depositData : DepositData}
    {verdict : Bool}
    (known : ∃ machine ∈ manager.roundMachines,
      machine.operatorData.xonlyPk = kickoffData.operatorXonlyPk)
    (answered : ∀ challengedBefore, context.owner.handleDuty (.checkIfKickoffMalicious
      payoutBlockhash depositData kickoffData challengedBefore) =
        .ok (.checkIfKickoffMalicious verdict)) :
    (manager.checkIfKickoffMalicious library context payoutBlockhash kickoffData depositData
      rows).outcome = .ok () := by
  unfold StateManager.checkIfKickoffMalicious
  cases found : manager.roundMachines.find? fun machine =>
      machine.operatorData.xonlyPk = kickoffData.operatorXonlyPk with
  | none =>
    obtain ⟨machine, member, same⟩ := known
    have other := find?_eq_none.mp found machine member
    exact absurd (by simp [same]) other
  | some machine => simp only [answered]

/-- A witness is evaluated faithfully exactly if the decoder agrees with the chain on all of its
numbers, which a number above fifteen prevents in general. -/
theorem evaluatedFaithfully_iff (signature : List UInt8) (commits : List SignedCommit)
    (tail : Witness) :
    EvaluatedFaithfully signature commits tail ↔
      ∀ commit ∈ commits, ∀ pair ∈ commit.messagePairs, AgreesOn pair := by
  have extraction : extractWinternitzCommits (witnessOf signature commits tail)
      (commits.map params) 4 = .ok (commits.map evaluated) ↔
        ∀ commit ∈ commits, ∀ pair ∈ commit.messagePairs, AgreesOn pair := by
    rw [extractWinternitzCommits_eq, ExceptRun.bind_ok_iff]
    have reversed : (∃ decoded, commits.reverse.mapM decode = .ok decoded ∧
        (pure decoded.reverse : Except String _) = .ok (commits.map evaluated)) ↔
          commits.reverse.mapM decode =
            .ok (commits.reverse.map evaluated) := by
      constructor
      · rintro ⟨decoded, read, same⟩
        rw [read, map_reverse, ← Except.ok.inj same, reverse_reverse]
      · intro read
        refine ⟨_, read, ?_⟩
        rw [map_reverse, reverse_reverse]
        rfl
    rw [reversed, ExceptRun.mapM_eq_ok_map_iff]
    simp only [mem_reverse, decode_eq_iff]
  constructor
  · intro faithful
    exact extraction.mp faithful.extracted
  · intro agrees
    have judged : ∀ commit, commits = [commit] → ∀ check : KickoffCheck,
        check.isMalicious commit.params (witnessOf signature commits tail) =
          .ok (check.verdict commit.evaluated) := by
      rintro commit rfl check
      exact check.isMalicious_of_decode
        (commit.decode_eq_iff.mpr (agrees commit mem_cons_self)) signature tail
    refine ⟨extraction.mpr agrees, judged, ?_⟩
    intro commit single check manager context rows known answered
    have answer : check.answer commit.params (witnessOf signature commits tail) =
        .ok (.checkIfKickoffMalicious (check.verdict commit.evaluated)) := by
      simp only [KickoffCheck.answer, handleKickoff, judged commit single check, check.queued,
        bind, Except.bind, pure, Except.pure]
    exact StateManager.checkIfKickoffMalicious_ok known
      fun challengedBefore => (answered challengedBefore).trans answer

/-- A commitment whose last byte has the number 256 for its high digit. -/
def commitAboveByte : SignedCommit where
  params := ⟨20, 43⟩
  pairs := (replicate 20 0, 256) :: replicate 42 (replicate 20 0, 0)
  total := by decide
  checksum := by decide
  numbers := by
    intro pair member
    rcases mem_cons.mp member with rfl | zero
    · decide
    · rw [eq_of_mem_replicate zero]
      decide

/-- The chain reads the number as fifteen, the decoder refuses the witness. -/
theorem extract_refuses_commitAboveByte :
    extractWinternitzCommits (witnessOf (List.replicate 64 0) [commitAboveByte] [])
        [commitAboveByte.params] 4 = .error "Failed to convert second digit to u8" ∧
      commitAboveByte.evaluated = List.replicate 19 0 ++ [0xF0] ∧
      ¬ EvaluatedFaithfully (List.replicate 64 0) [commitAboveByte] [] := by
  have refused : extractWinternitzCommits (witnessOf (replicate 64 0) [commitAboveByte] [])
      [commitAboveByte.params] 4 = .error "Failed to convert second digit to u8" := by
    decide +kernel
  refine ⟨refused, by decide +kernel, ?_⟩
  intro faithful
  have contradiction := refused.symm.trans faithful.extracted
  cases contradiction

/-! ## The honest signer -/

section Signing

variable {SecretKey : Type}

/-- The digits of a message, low before high. -/
def nibbles (message : List UInt8) : List Nat :=
  message.flatMap fun byte => [byte.toNat % 16, byte.toNat / 16]

/-- What `sign` of the Winternitz crate emits: a hash and the minimal encoding for each digit,
the digits of the message in reverse order, then those of the checksum. -/
def SignsDigits (sign : WinternitzParams → SecretKey → List UInt8 → Witness) : Prop :=
  ∀ params secretKey message, params.messageDigits 4 < params.totalDigitLen →
    message.length = params.messageByteLen → ∃ commit : SignedCommit, commit.params = params ∧
      sign params secretKey message = commit.elements ∧
      (commit.pairs.take (params.messageDigits 4)).map Prod.snd = (nibbles message).reverse

variable (sign : WinternitzParams → SecretKey → List UInt8 → Witness)

/-- The inputs of the commitments, the last one first. -/
def commitInputs (commitments : List WinternitzParams) :
    List (Nat × List UInt8 × SecretKey) → Except Panic Witness
  | [] => .ok []
  | (index, message, secretKey) :: rest =>
    match commitments[index]? with
    | none => .error .indexOutOfBounds
    | some params => do
        let inputs ← commitInputs commitments rest
        return sign params secretKey message ++ inputs

/-- `WinternitzCommit::generate_script_inputs`; a commitment is given by its parameters. -/
def generateScriptInputs (commitments : List WinternitzParams)
    (commitData : List (List UInt8 × SecretKey)) (signature : List UInt8) :
    Except Panic Witness := do
  let inputs ← commitInputs sign commitments ((range commitData.length).zip commitData).reverse
  return signature :: inputs

/-- The witness that `tx_sign_winternitz` gives to the input with the commitment. -/
def txSignWinternitz (commitments : List WinternitzParams)
    (commitData : List (List UInt8 × SecretKey)) (signature : List UInt8) (script : ScriptBuf)
    (controlBlock : Option (List UInt8)) : BuildResult Witness := do
  let witness ← liftPanic (generateScriptInputs sign commitments commitData signature)
  match controlBlock with
  | none => .error (.error (.eyre (.text "Failed to find control block for script")))
  | some controlBlock => return witness ++ [script, controlBlock]

/-- The kickoff's witness of `create_and_sign_txs`, for the payout block of
`handle_finalized_payout`. -/
def kickoffCommitWitness (path : WinternitzParams) (secretKey : SecretKey)
    (signature : List UInt8) (script : ScriptBuf) (controlBlock : Option (List UInt8))
    (payoutTxBlockhash : Bytes32) : BuildResult Witness :=
  txSignWinternitz sign [path] [((Operator.last20Bytes payoutTxBlockhash).toList, secretKey)]
    signature script controlBlock

theorem chunkPairs_nibbles (message : List UInt8) :
    chunkPairs (nibbles message) = message.map fun byte => (byte.toNat % 16, byte.toNat / 16) := by
  induction message with
  | nil => rfl
  | cons byte rest ih => exact congrArg ((byte.toNat % 16, byte.toNat / 16) :: ·) ih

/-- The decoder reads the message that was signed. -/
theorem SignedCommit.decode_of_nibbles
    (digits : (commit.pairs.take (commit.params.messageDigits 4)).map Prod.snd =
      (nibbles message).reverse) : commit.decode = .ok message := by
  have pairs : commit.messagePairs =
      message.map fun byte => (byte.toNat % 16, byte.toNat / 16) := by
    rw [messagePairs, digits, reverse_reverse, chunkPairs_nibbles]
  have evaluated : commit.evaluated = message := by
    rw [evaluated, pairs, map_map]
    refine (map_congr_left fun byte _ => ?_).trans (map_id message)
    have bound := byte.toNat_lt
    rw [Function.comp_apply, id_eq, ← UInt8.toNat_inj, UInt8.toNat_ofNat']
    omega
  refine (commit.decode_eq_iff.mpr ?_).trans (congrArg Except.ok evaluated)
  rw [pairs]
  intro pair member
  obtain ⟨byte, -, rfl⟩ := mem_map.mp member
  have bound := byte.toNat_lt
  unfold AgreesOn
  omega

/-- The witness of one signed message, and how the check judges it. -/
theorem KickoffCheck.isMalicious_signed (signs : SignsDigits sign) (check : KickoffCheck)
    {path : WinternitzParams} (checksum : path.messageDigits 4 < path.totalDigitLen)
    (length : message.length = path.messageByteLen) (secretKey : SecretKey)
    (signature : List UInt8) :
    ∃ witness, generateScriptInputs sign [path] [(message, secretKey)] signature = .ok witness ∧
        ∀ tail, check.isMalicious path (witness ++ tail) = .ok (check.verdict message) := by
  obtain ⟨commit, rfl, elements, digits⟩ := signs path secretKey message checksum length
  refine ⟨signature :: sign commit.params secretKey message, ?_, ?_⟩
  · simp [generateScriptInputs, commitInputs, range_succ, bind, Except.bind, pure, Except.pure]
  · intro tail
    have witness : signature :: sign commit.params secretKey message ++ tail =
        witnessOf signature [commit] tail := by
      simp [witnessOf, elements]
    rw [witness]
    exact check.isMalicious_of_decode (decode_of_nibbles digits) signature tail

/-- A kickoff for the recorded payout is not judged malicious, and a kickoff that commits to any
message passes only if it is one for the recorded payout of its operator. -/
theorem kickoff_verdict_exact (signs : SignsDigits sign) (check : KickoffCheck)
    (path : WinternitzParams) (bytes : path.messageByteLen = 20)
    (checksum : path.messageDigits 4 < path.totalDigitLen) (secretKey : SecretKey)
    (signature : List UInt8) (script : ScriptBuf) (controlBlock : List UInt8) :
    (∀ payoutTxBlockhash,
      check.payout = some (some check.kickoffData.operatorXonlyPk, payoutTxBlockhash) →
        ∃ witness, kickoffCommitWitness sign path secretKey signature script (some controlBlock)
            payoutTxBlockhash = .ok witness ∧
          check.isMalicious path witness = .ok false) ∧
      ∀ message : List UInt8, message.length = 20 → ∃ witness,
        generateScriptInputs sign [path] [(message, secretKey)] signature = .ok witness ∧
          ∀ tail, check.isMalicious path (witness ++ tail) = .ok false → ∃ payoutTxBlockhash,
              check.payout = some (some check.kickoffData.operatorXonlyPk, payoutTxBlockhash) ∧
                message = (Operator.last20Bytes payoutTxBlockhash).toList := by
  constructor
  · intro payoutTxBlockhash recorded
    have length : (Operator.last20Bytes payoutTxBlockhash).toList.length = path.messageByteLen := by
      rw [Vector.length_toList, bytes]
    obtain ⟨witness, generated, judged⟩ :=
      check.isMalicious_signed sign signs checksum length secretKey signature
    refine ⟨witness ++ [script, controlBlock], ?_, ?_⟩
    · simp only [kickoffCommitWitness, txSignWinternitz, generated]
      rfl
    · rw [judged, KickoffCheck.verdict, recorded]
      simp
  · intro message length
    obtain ⟨witness, generated, judged⟩ := check.isMalicious_signed sign signs checksum
      (length.trans bytes.symm) secretKey signature
    refine ⟨witness, generated, fun tail passed => ?_⟩
    have honest := Except.ok.inj ((judged tail).symm.trans passed)
    unfold KickoffCheck.verdict at honest
    split at honest
    · next operatorXonlyPk payoutBlockhash recorded =>
        simp only [Bool.or_eq_false_iff, decide_eq_false_iff_not, not_not] at honest
        exact ⟨payoutBlockhash, honest.1 ▸ recorded, honest.2⟩
    · simp at honest

end Signing

namespace Regtest

/-- The digits of the checksum, high before low. -/
def checksumDigits (count : Nat) (digits : List Nat) : List Nat :=
  (range count).reverse.map fun place =>
    (digits.map fun digit => 15 - digit).sum / 16 ^ place % 16

/-- A signer with the given elements for the digits. -/
def signWith (element : List UInt8 → Nat → List UInt8) (params : WinternitzParams)
    (secretKey message : List UInt8) : Witness :=
  ((nibbles message).reverse ++
    checksumDigits (params.totalDigitLen - params.messageDigits 4) (nibbles message)).flatMap
      fun digit => [element secretKey digit, scriptNumber digit]

/-- A signer whose elements are hashes of twenty bytes. -/
def winternitzSign : WinternitzParams → List UInt8 → List UInt8 → Witness :=
  signWith fun secretKey digit =>
    (Sha2.sha256 (secretKey ++ [UInt8.ofNat digit])).toList.take 20

theorem nibble_lt {digit : Nat} (member : digit ∈ nibbles message) : digit < 2 ^ 31 := by
  obtain ⟨byte, -, isDigit⟩ := mem_flatMap.mp member
  have bound := byte.toNat_lt
  simp only [mem_cons, not_mem_nil, or_false] at isDigit
  omega

theorem signsDigits_signWith (element : List UInt8 → Nat → List UInt8) :
    SignsDigits (signWith element) := by
  intro params secretKey message checksum length
  have count : (nibbles message).length = params.messageDigits 4 := by
    rw [nibbles, length_flatMap_pair, length, WinternitzParams.messageDigits]
    omega
  let digits := (nibbles message).reverse ++
    checksumDigits (params.totalDigitLen - params.messageDigits 4) (nibbles message)
  have total : digits.length = params.totalDigitLen := by
    simp only [digits, checksumDigits, length_append, length_reverse, length_map,
      length_range, count]
    omega
  have small : ∀ digit ∈ digits, digit < 2 ^ 31 := by
    intro digit member
    rcases mem_append.mp member with inMessage | inChecksum
    · exact nibble_lt (mem_reverse.mp inMessage)
    · obtain ⟨place, -, rfl⟩ := mem_map.mp inChecksum
      omega
  refine ⟨⟨params, digits.map fun digit => (element secretKey digit, digit), ?_, checksum, ?_⟩,
    rfl, ?_, ?_⟩
  · rw [length_map, total]
  · intro pair member
    obtain ⟨digit, isDigit, rfl⟩ := mem_map.mp member
    exact small digit isDigit
  · rw [elements, flatMap_map]
    rfl
  · rw [← map_take, map_map, take_left' (by rw [length_reverse, count])]
    exact map_id _

/-- The deposit with its aggregated key. -/
def depositWithKey : DepositData := { depositData with nofnXonlyPk := some operatorXonlyPk }

theorem exists_moveToVault : ∃ move,
    createMoveToVaultTxhandler operatorLibrary depositWithKey paramset = .ok move := by
  have built :
      (createMoveToVaultTxhandler operatorLibrary depositWithKey paramset).isOk = true := by
    decide +kernel
  cases result : createMoveToVaultTxhandler operatorLibrary depositWithKey paramset with
  | ok move => exact ⟨move, rfl⟩
  | error failure =>
    rw [result] at built
    cases built

end Regtest

/-- A kickoff for the recorded payout passes the check. -/
theorem kickoff_verdict_exact_recorded : ∃ check : KickoffCheck,
    check.payout = some (some check.kickoffData.operatorXonlyPk, zeroBytes) ∧
      ∃ witness, kickoffCommitWitness Regtest.winternitzSign ⟨20, 43⟩ [1] (List.replicate 64 0)
          [0x51] (some [0xC0]) zeroBytes = .ok witness ∧
        check.isMalicious ⟨20, 43⟩ witness = .ok false := by
  obtain ⟨move, built⟩ := exists_moveToVault
  let check : KickoffCheck := {
    library := operatorLibrary
    paramset := paramset
    withdrawals := [⟨0, move.getTxid operatorLibrary, some zeroBytes,
      some operatorXonlyPk, some zeroBytes, false, none⟩]
    depositData := depositWithKey
    kickoffData := ⟨operatorXonlyPk, .round 0, 0⟩
    move
    afterVerdict := fun _ => .ok ()
    logD := rfl
    built
    queued := fun _ => rfl }
  have recorded : check.payout = some (some check.kickoffData.operatorXonlyPk, zeroBytes) := by
    simp [check, KickoffCheck.payout, getPayoutInfoFromMoveTxid]
  exact ⟨check, recorded, (kickoff_verdict_exact winternitzSign
    (signsDigits_signWith _) check ⟨20, 43⟩ rfl (by decide) [1] (replicate 64 0)
    [0x51] [0xC0]).1 zeroBytes recorded⟩

end Clementine
