import RgkProtocol.ByteStrings
import RgkProtocol.FieldPacking
import RgkProtocol.SelfDelimiting
import RgkProtocol.Hashing
import RgkProtocol.Checked
import RgkProtocol.Codec
import RgkProtocol.SupplyLedger
import RgkProtocol.OrderedMap
import RgkProtocol.LinkedPath
import RgkProtocol.Simulation
import RgkProtocol.FaultyCalls
import RgkProtocol.Segments
import RgkProtocol.ScriptMachine
import RgkProtocol.ScriptParser
import RgkProtocol.KeyedProofs
import RgkProtocol.TaggedRows
import RgkProtocol.SkippingReplay
import RgkProtocol.SharedRequests
import RgkProtocol.RollingRoots
import RgkProtocol.UtxoLedger
import RgkProtocol.Replication
import RgkProtocol.CoreTypes
import RgkProtocol.CanonicalEncoding
import RgkProtocol.ReceiptCommitment
import RgkProtocol.AssetTypes
import RgkProtocol.AssetEncoding
import RgkProtocol.AssetValidation
import RgkProtocol.AssetLineage
import RgkProtocol.AssetFreshness
import RgkProtocol.LineageFields
import RgkProtocol.NftValidation
import RgkProtocol.NftLifecycle
import RgkProtocol.NftSupply
import RgkProtocol.IndexerState
import RgkProtocol.IndexerOps
import RgkProtocol.IndexerHistory
import RgkProtocol.IndexerRebuild
import RgkProtocol.RebuildReplay
import RgkProtocol.RebuildResume
import RgkProtocol.IndexerInvariant
import RgkProtocol.IndexerInverse
import RgkProtocol.IndexerRecords
import RgkProtocol.SledIndexer
import RgkProtocol.LaneDiscovery
import RgkProtocol.ScanStore
import RgkProtocol.ScanService
import RgkProtocol.ScanSafety
import RgkProtocol.ScanRuns
import RgkProtocol.ObservedSpends
import RgkProtocol.Resolver
import RgkProtocol.ResolverVerdict
import RgkProtocol.ResolverLookups
import RgkProtocol.WrpcBackend
import RgkProtocol.WalletScan
import RgkProtocol.LaneUpdates
import RgkProtocol.WalletIdentity
import RgkProtocol.WalletSession
import RgkProtocol.WalletDashboard
import RgkProtocol.WalletRequests
import RgkProtocol.PolicyHistory
import RgkProtocol.ReceiptVerification
import RgkProtocol.ReceiptBuilder
import RgkProtocol.WalletEvidence
import RgkProtocol.CovenantScript
import RgkProtocol.ScriptPushes
import RgkProtocol.TransitionOutputs
import RgkProtocol.ToccataTx
import RgkProtocol.TransactionIdentity
import RgkProtocol.SignatureHash
import RgkProtocol.GenesisCovenants
import RgkProtocol.CovenantSpend
import RgkProtocol.CovenantCodec
import RgkProtocol.TransactionBuilders
import RgkProtocol.CovenantLedger
import RgkProtocol.CovenantTransactions
import RgkProtocol.CovenantRuns
import RgkProtocol.ChainFollowing
import RgkProtocol.ExecutionEvidence
import RgkProtocol.ListedOutputs
import RgkProtocol.ContinuationPlan
import RgkProtocol.Finalization
import RgkProtocol.CommitmentBinding
import RgkProtocol.SemanticStatement
import RgkProtocol.LineageStatement
import RgkProtocol.CircuitGadgets
import RgkProtocol.AllocationCircuit
import RgkProtocol.CircuitMeaning
import RgkProtocol.ZkReceipts
import RgkProtocol.CircuitSoundness
import RgkProtocol.BurnBinding
import RgkProtocol.CircuitCompleteness
import RgkProtocol.AuditStatements
import RgkProtocol.AuditCircuits
import RgkProtocol.AuditMeaning
import RgkProtocol.AuditBundle
import RgkProtocol.AuditManifest
import RgkProtocol.AuditCertificate
import RgkProtocol.AuditOpenings
import RgkProtocol.AuditConservation
import RgkProtocol.AuditExclusion
import RgkProtocol.CertificateVerification
import RgkProtocol.CertificateBundle
import RgkProtocol.CertificateSoundness
import RgkProtocol.AuditConstruction
import RgkProtocol.SegmentRoots
import RgkProtocol.LaneCircuits
import RgkProtocol.AuditPlan
import RgkProtocol.StrategyRecord
