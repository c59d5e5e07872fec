import Clementine.BridgeCircuit.Borsh
import Clementine.BridgeCircuit.Circuit
import Clementine.BridgeCircuit.MerkleTree
import Clementine.BridgeCircuit.SPV
import Clementine.BridgeCircuit.Script
import Clementine.BridgeCircuit.Sighash
import Clementine.BridgeCircuit.StorageProof
import Clementine.BridgeCircuit.Structs
import Clementine.BridgeCircuit.Transaction
import Clementine.BridgeCircuit.Watchtowers
import Clementine.BridgeCircuitHost.Params
import Clementine.BridgeCircuitHost.WatchtowerInputs
import Clementine.Common.Basic
import Clementine.Core.BitcoinSyncer.Chain
import Clementine.Core.BitcoinSyncer.Events
import Clementine.Core.BitcoinSyncer.Finalized
import Clementine.Core.BitcoinSyncer.Model
import Clementine.Core.BitcoinSyncer.Sync
import Clementine.Core.Builder.Caching
import Clementine.Core.Builder.Connectors
import Clementine.Core.Builder.Creator
import Clementine.Core.Builder.KickoffModes
import Clementine.Core.Builder.Taproot
import Clementine.Core.Builder.Transactions
import Clementine.Core.Builder.TxHandler
import Clementine.Core.CollateralCheck
import Clementine.Core.HeaderChainProver
import Clementine.Core.Operator.EndRound
import Clementine.Core.Operator.Payouts
import Clementine.Core.States.BlockProcessing
import Clementine.Core.States.Context
import Clementine.Core.States.Kickoff
import Clementine.Core.States.KickoffOnce
import Clementine.Core.States.KickoffRun
import Clementine.Core.States.KickoffSchedule
import Clementine.Core.States.LateJoining
import Clementine.Core.States.Malice
import Clementine.Core.States.Manager
import Clementine.Core.States.Matcher
import Clementine.Core.States.Persistence
import Clementine.Core.States.Recovery
import Clementine.Core.States.Round
import Clementine.Core.Verifier.FinalizeRace
import Clementine.Core.Verifier.KickoffCommit
import Clementine.Core.Verifier.OperatorKeys
import Clementine.Core.Verifier.Sessions
import Clementine.HeaderChain.Batching
import Clementine.HeaderChain.ChainState
import Clementine.HeaderChain.Circuit
import Clementine.HeaderChain.EpochBits
import Clementine.HeaderChain.History
import Clementine.HeaderChain.MMR.InclusionProofs
import Clementine.HeaderChain.MMR.Model
import Clementine.HeaderChain.MMR.Refinement
import Clementine.HeaderChain.Schedule
import Clementine.HeaderChain.Target
import Clementine.HeaderChain.TargetTracker
import Clementine.HeaderChain.Work
import Clementine.Lib.Bitmap
import Clementine.Lib.ByteNumeral
import Clementine.Lib.CompactNumber
import Clementine.Lib.DepthTree
import Clementine.Lib.DuplicatingTree
import Clementine.Lib.ExceptRun
import Clementine.Lib.HashForest
import Clementine.Lib.RingBuffer
import Clementine.Lib.SelfDelimiting
import Clementine.Lib.Sha2
import Clementine.TxSender.Activation
import Clementine.TxSender.Citrea
import Clementine.TxSender.Confirmations
import Clementine.TxSender.Cpfp
import Clementine.TxSender.FeePayers
import Clementine.TxSender.FeeRate
import Clementine.TxSender.Finality
import Clementine.TxSender.RbfSigning
import Clementine.TxSender.Selection
