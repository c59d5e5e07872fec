import Clementine.HeaderChain.ChainState

/-!
# The header chain circuit

The circuit extends either a chain state given as genesis or the chain state of a
previous proof, and commits the hash of the genesis state that the chain of proofs
started from.  A previous proof is checked by the zkVM, which is a parameter: it
verifies only what earlier runs of the circuit have committed.
-/

namespace Clementine

open Vector

variable (network : Network) (sha256 : Sha256)

/-! ## State hashes -/

/-- The bytes that `ChainState::to_hash` feeds to the hasher. -/
def ChainState.hashedBytes (self : ChainState) : List UInt8 :=
  u32LeBytes self.blockHeight ++ self.totalWork.toList ++ self.bestBlockHash.toList ++
    u32LeBytes self.currentTargetBits ++ u32LeBytes self.epochStartTime ++
    self.prev11Timestamps.toList.flatMap u32LeBytes ++
    self.blockHashesMmr.subroots.flatMap Vector.toList ++ u32LeBytes self.blockHashesMmr.size

/-- `ChainState::to_hash`. -/
def ChainState.toHash (self : ChainState) : Bytes32 := sha256 self.hashedBytes

/-- The subroots have no length field, but all other fields have a fixed width: the bytes
determine the chain state. -/
theorem ChainState.hashedBytes_injective {left right : ChainState}
    (equal : left.hashedBytes = right.hashedBytes) : left = right := by
  simp only [hashedBytes] at equal
  obtain ⟨equal, size⟩ := List.append_inj' equal (by simp)
  obtain ⟨equal, subroots⟩ := List.append_inj equal (by simp)
  obtain ⟨equal, timestamps⟩ := List.append_inj equal (by simp)
  obtain ⟨equal, epochStartTime⟩ := List.append_inj equal (by simp)
  obtain ⟨equal, bits⟩ := List.append_inj equal (by simp)
  obtain ⟨equal, bestBlockHash⟩ := List.append_inj equal (by simp)
  obtain ⟨height, totalWork⟩ := List.append_inj equal (by simp)
  have sameTimestamps := ByteNumeral.flatMap_injective (by decide) length_u32LeBytes
    (fun _ _ => u32LeBytes_injective) timestamps
  have sameSubroots := ByteNumeral.flatMap_injective (by decide)
    (fun node : Bytes32 => length_toList) (fun _ _ => toList_inj.mp) subroots
  obtain ⟨_, _, _, _, _, _, leftMmr⟩ := left
  obtain ⟨_, _, _, _, _, _, rightMmr⟩ := right
  have sameMmr : leftMmr = rightMmr := by
    obtain ⟨_, _⟩ := leftMmr
    obtain ⟨_, _⟩ := rightMmr
    rw [MMRGuest.mk.injEq]
    exact ⟨sameSubroots, u32LeBytes_injective size⟩
  rw [ChainState.mk.injEq]
  exact ⟨u32LeBytes_injective height, toList_inj.mp totalWork,
    toList_inj.mp bestBlockHash, u32LeBytes_injective bits,
    u32LeBytes_injective epochStartTime, toList_inj.mp sameTimestamps, sameMmr⟩

/-! ## Circuit -/

/-- The image id of a zkVM program. -/
abbrev MethodId := Vector UInt32 8

/-- `BlockHeaderCircuitOutput`. -/
structure BlockHeaderCircuitOutput where
  methodId : MethodId
  genesisStateHash : Bytes32
  chainState : ChainState
  deriving DecidableEq

/-- `HeaderChainPrevProofType`. -/
inductive HeaderChainPrevProofType where
  | genesisBlock (genesisState : ChainState)
  | prevProof (output : BlockHeaderCircuitOutput)
  deriving DecidableEq

/-- `HeaderChainCircuitInput`. -/
structure HeaderChainCircuitInput where
  methodId : MethodId
  prevProof : HeaderChainPrevProofType
  blockHeaders : List CircuitBlockHeader
  deriving DecidableEq

/-- The functions of the zkVM that the circuit calls: the input that the host has written,
and the check of a previous output, which stops the program on an unproved one. -/
structure ZkvmGuest where
  readFromHost : HeaderChainCircuitInput
  verify : MethodId → BlockHeaderCircuitOutput → Except Panic Unit

/-- Message of the assertion on the method id. -/
def methodIdText (previous input : List UInt32) : String :=
  "Method ID mismatch, the input method ID must match the previous proof's method ID to ensure " ++
  "the same circuit is always used. " ++
  s!"Previous proof method ID: {previous}, input method ID: {input}"

/-- The chain state and the genesis hash that a run starts from. -/
def startingPoint (guest : ZkvmGuest) (input : HeaderChainCircuitInput) :
    Except Panic (Bytes32 × ChainState) :=
  match input.prevProof with
  | .genesisBlock genesisState => .ok (genesisState.toHash sha256, genesisState)
  | .prevProof prevProof => do
      assertEq prevProof.methodId input.methodId
        (methodIdText prevProof.methodId.toList input.methodId.toList)
      guest.verify input.methodId prevProof
      return (prevProof.genesisStateHash, prevProof.chainState)

/-- `header_chain_circuit`; the result is what the run commits. -/
def headerChainCircuit (guest : ZkvmGuest) : Except Panic BlockHeaderCircuitOutput := do
  let input := guest.readFromHost
  let (genesisStateHash, chainState) ← startingPoint sha256 guest input
  let chainState ← chainState.applyBlockHeaders network (BlockHashing.ofSha256 sha256)
    input.blockHeaders
  return ⟨input.methodId, genesisStateHash, chainState⟩

/-! ## Recursive proofs -/

/-- Outputs that a run of the circuit commits, where the zkVM verifies only outputs of
earlier runs. -/
inductive Genuine (methodId : MethodId) : BlockHeaderCircuitOutput → Prop where
  | run (guest : ZkvmGuest) (output : BlockHeaderCircuitOutput)
      (verified : ∀ previous, guest.verify methodId previous = .ok () → Genuine methodId previous)
      (selected : guest.readFromHost.methodId = methodId)
      (committed : headerChainCircuit network sha256 guest = .ok output) :
      Genuine methodId output

variable {output : BlockHeaderCircuitOutput}

/-- A run that commits an output has extended its starting point by its headers. -/
theorem headerChainCircuit_ok_iff {guest : ZkvmGuest} :
    headerChainCircuit network sha256 guest = .ok output ↔ ∃ genesisStateHash chainState final,
        startingPoint sha256 guest guest.readFromHost = .ok (genesisStateHash, chainState) ∧
        chainState.applyBlockHeaders network (BlockHashing.ofSha256 sha256)
          guest.readFromHost.blockHeaders = .ok final ∧
        output = ⟨guest.readFromHost.methodId, genesisStateHash, final⟩ := by
  simp only [headerChainCircuit, ExceptRun.bind_ok_iff, Prod.exists, pure, Except.pure,
    Except.ok.injEq]
  constructor
  · rintro ⟨genesisStateHash, chainState, started, final, applied, rfl⟩
    exact ⟨genesisStateHash, chainState, final, started, applied, rfl⟩
  · rintro ⟨genesisStateHash, chainState, final, started, applied, rfl⟩
    exact ⟨genesisStateHash, chainState, started, final, applied, rfl⟩

/-- A run starts from a given genesis state, or from an output that the zkVM has verified. -/
theorem startingPoint_ok {guest : ZkvmGuest} {input : HeaderChainCircuitInput}
    {genesisStateHash : Bytes32} {chainState : ChainState}
    (started : startingPoint sha256 guest input = .ok (genesisStateHash, chainState)) :
    chainState.toHash sha256 = genesisStateHash ∨
      ∃ previous, guest.verify input.methodId previous = .ok () ∧
        previous.genesisStateHash = genesisStateHash ∧ previous.chainState = chainState := by
  rw [startingPoint] at started
  split at started
  next genesisState _ =>
    cases started
    exact .inl rfl
  next previous _ =>
    simp only [ExceptRun.bind_ok_iff, pure, Except.pure, Except.ok.injEq, Prod.mk.injEq]
      at started
    obtain ⟨⟨⟩, -, ⟨⟩, verified, hashEq, stateEq⟩ := started
    exact .inr ⟨previous, verified, hashEq, stateEq⟩

/-- An output that extends some genesis state by successive calls. -/
def ExtendsGenesis (output : BlockHeaderCircuitOutput) : Prop :=
  ∃ (genesis : ChainState) (batches : List (List CircuitBlockHeader)),
    genesis.toHash sha256 = output.genesisStateHash ∧
    genesis.applyBatches network (BlockHashing.ofSha256 sha256) batches = .ok output.chainState

theorem Genuine.extendsGenesis {methodId : MethodId}
    (genuine : Genuine network sha256 methodId output) :
    output.methodId = methodId ∧ ExtendsGenesis network sha256 output := by
  induction genuine with
  | run guest output verified selected committed ih =>
    obtain ⟨genesisStateHash, chainState, final, started, applied, rfl⟩ :=
      (headerChainCircuit_ok_iff network sha256).mp committed
    refine ⟨selected, ?_⟩
    rcases startingPoint_ok sha256 started with hashEq | ⟨previous, checked, rfl, rfl⟩
    · exact ⟨chainState, [guest.readFromHost.blockHeaders], hashEq,
        ExceptRun.run_cons_iff.mpr ⟨final, applied, rfl⟩⟩
    · rw [selected] at checked
      obtain ⟨-, genesis, batches, hashEq, reached⟩ := ih previous checked
      exact ⟨genesis, batches ++ [guest.readFromHost.blockHeaders], hashEq,
        ExceptRun.run_snoc_iff.mpr ⟨_, reached, applied⟩⟩

/-- Recursive proofs are sound: a genuine output carries its method id and the hash of a
chain state from which successive calls lead to its chain state.  If SHA-256 is
collision-free on the hashed chain states, there is only one state with that hash. -/
theorem genuine_sound (methodId : MethodId) (output : BlockHeaderCircuitOutput)
    (genuine : Genuine network sha256 methodId output) :
    output.methodId = methodId ∧
    (∃ (genesis : ChainState) (batches : List (List CircuitBlockHeader)),
      genesis.toHash sha256 = output.genesisStateHash ∧
      genesis.applyBatches network (BlockHashing.ofSha256 sha256) batches = .ok output.chainState) ∧
    ∀ strings, Set.InjOn sha256 strings → ∀ left right : ChainState,
      left.hashedBytes ∈ strings → right.hashedBytes ∈ strings →
      left.toHash sha256 = right.toHash sha256 → left = right := by
  obtain ⟨selected, extended⟩ := genuine.extendsGenesis
  exact ⟨selected, extended, fun strings collisionFree left right leftMem rightMem equal =>
    ChainState.hashedBytes_injective (collisionFree leftMem rightMem equal)⟩

/-- A first run for sample proofs: the first block of `mainnet` on the genesis state. -/
def firstGuest : ZkvmGuest where
  readFromHost := {
    methodId := Vector.replicate 8 5
    prevProof := .genesisBlock (ChainState.genesisState .mainnet)
    blockHeaders := [mainnetBlock0] }
  verify _ _ := .error .unwrapNone

/-- A second run for sample proofs: the second block on the output of the first run. -/
def secondGuest (previous : BlockHeaderCircuitOutput) : ZkvmGuest where
  readFromHost := {
    methodId := Vector.replicate 8 5
    prevProof := .prevProof previous
    blockHeaders := [mainnetBlock1] }
  verify _ output := if output = previous then .ok () else .error .unwrapNone

/-- Two runs, the second of which verifies the output of the first. -/
theorem genuine_sound_two_runs : ∃ first second,
      headerChainCircuit .mainnet Sha2.sha256 firstGuest = .ok first ∧
      headerChainCircuit .mainnet Sha2.sha256 (secondGuest first) = .ok second ∧
      second.methodId = Vector.replicate 8 5 ∧
      ∃ (genesis : ChainState) (batches : List (List CircuitBlockHeader)),
        genesis.toHash Sha2.sha256 = second.genesisStateHash ∧
        genesis.applyBatches .mainnet (BlockHashing.ofSha256 Sha2.sha256) batches =
          .ok second.chainState := by
  obtain ⟨firstState, secondState, firstApplied, secondApplied, -⟩ := mainnet_accepted
  obtain ⟨first, firstEq⟩ : ∃ first : BlockHeaderCircuitOutput, first =
      ⟨Vector.replicate 8 5, (ChainState.genesisState .mainnet).toHash Sha2.sha256, firstState⟩ :=
    ⟨_, rfl⟩
  have firstRun : headerChainCircuit .mainnet Sha2.sha256 firstGuest = .ok first :=
    (headerChainCircuit_ok_iff .mainnet Sha2.sha256).mpr
      ⟨_, _, firstState, rfl, firstApplied, firstEq⟩
  have firstGenuine : Genuine .mainnet Sha2.sha256 (Vector.replicate 8 5) first :=
    .run firstGuest first (fun _ verified => by cases verified) rfl firstRun
  have started : startingPoint Sha2.sha256 (secondGuest first) (secondGuest first).readFromHost =
      .ok (first.genesisStateHash, firstState) := by
    simp [startingPoint, secondGuest, assertEq, firstEq, bind, Except.bind, pure, Except.pure]
  have secondRun := (headerChainCircuit_ok_iff .mainnet Sha2.sha256).mpr
    ⟨_, _, secondState, started, secondApplied, rfl⟩
  have verifiedGenuine (previous : BlockHeaderCircuitOutput)
      (verified : (secondGuest first).verify (Vector.replicate 8 5) previous = .ok ()) :
      Genuine .mainnet Sha2.sha256 (Vector.replicate 8 5) previous := by
    have same : previous = first := by
      by_contra different
      simp [secondGuest, different] at verified
    rw [same]
    exact firstGenuine
  obtain ⟨selected, extended, -⟩ := genuine_sound .mainnet Sha2.sha256 _ _
    (.run (secondGuest first) _ verifiedGenuine rfl secondRun)
  exact ⟨first, _, firstRun, secondRun, selected, extended⟩

end Clementine
