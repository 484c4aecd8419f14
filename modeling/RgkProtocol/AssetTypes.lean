import RgkProtocol.CoreTypes
import RgkProtocol.Checked

/-!
# Native asset objects

Allocations anchored in covenant outputs, the issue and transition that move them, the
continuation plan a wallet fixes before the transaction id is known, and their reports.
-/
namespace RgkProtocol.AssetTypes
open ByteStrings Hashing CoreTypes Checked

inductive LanePrivacyPolicy where
  | publicLineage
  | privateLane
  | stealthLane
  deriving DecidableEq

def LanePrivacyPolicy.asU8 : LanePrivacyPolicy → UInt8
  | publicLineage => 0
  | privateLane => 1
  | stealthLane => 2

@[simp] theorem LanePrivacyPolicy.asU8_inj {p q : LanePrivacyPolicy} :
    p.asU8 = q.asU8 ↔ p = q := by
  cases p <;> cases q <;> decide

inductive ImageIdPolicy where
  | fixed (imageId : Bytes32)
  | allowedSet (set : List Bytes32)
  | policyBranch (branch : Bytes32)
  deriving DecidableEq

inductive RgkProofPolicy where
  | verifierReceipt (verifierKeyHash : Bytes32)
  | zkReceipt (verifierKeyId : Bytes32) (imageIdPolicy : ImageIdPolicy)
  | hybrid (verifierKeyHash verifierKeyId : Bytes32)
  deriving DecidableEq

inductive RgkAllocationProofShape where
  | oneInZeroOut
  | oneInOneOut
  | twoInTwoOut
  | threeInTwoOut
  | fourInTwoOut
  | fourInFourOut
  deriving DecidableEq

structure RgkCovenantAnchor where
  chain : KaspaChainId
  covenantOutpoint : KaspaOutpoint
  covenantId : Bytes32
  witnessTxid : Bytes32
  daaScore : UInt64
  confirmationDepth : UInt64
  deriving DecidableEq

structure RgkAllocation where
  anchor : RgkCovenantAnchor
  amount : UInt64
  encryptedNoteCommitment : Bytes32
  deriving DecidableEq

/-- The covenant output an allocation sits in. -/
abbrev RgkAllocation.outpoint (a : RgkAllocation) : KaspaOutpoint := a.anchor.covenantOutpoint

structure RgkBurnProof where
  amount : UInt64
  authorizationCommitment : Bytes32
  deriving DecidableEq

structure RgkAssetIssue where
  chain : KaspaChainId
  schemaId : Bytes32
  assetId : Bytes32
  totalSupply : UInt64
  metadataCommitment : Bytes32
  ownerCommitment : Bytes32
  allocations : List RgkAllocation
  laneId : Bytes32
  privacyPolicy : LanePrivacyPolicy
  proofPolicy : RgkProofPolicy
  deriving DecidableEq

structure RgkTransition where
  chain : KaspaChainId
  schemaId : Bytes32
  assetId : Bytes32
  totalSupply : UInt64
  metadataCommitment : Bytes32
  previousOwnerCommitment : Bytes32
  newOwnerCommitment : Bytes32
  ownershipAuthorizationCommitment : Bytes32
  previousStateDigest : Bytes32
  spentAllocations : List RgkAllocation
  newAllocations : List RgkAllocation
  burn : Option RgkBurnProof
  witnessTxid : Bytes32
  laneId : Bytes32
  privacyPolicy : LanePrivacyPolicy
  proofPolicy : RgkProofPolicy
  deriving DecidableEq

structure RgkContinuationAllocationShape where
  outputIndex : UInt32
  covenantId : Bytes32
  amount : UInt64
  encryptedNoteCommitment : Bytes32
  deriving DecidableEq

structure RgkContinuationPlan where
  chain : KaspaChainId
  schemaId : Bytes32
  assetId : Bytes32
  totalSupply : UInt64
  metadataCommitment : Bytes32
  previousOwnerCommitment : Bytes32
  newOwnerCommitment : Bytes32
  ownershipAuthorizationCommitment : Bytes32
  previousStateDigest : Bytes32
  spentAllocations : List RgkAllocation
  newAllocationShapes : List RgkContinuationAllocationShape
  burn : Option RgkBurnProof
  laneId : Bytes32
  privacyPolicy : LanePrivacyPolicy
  proofPolicy : RgkProofPolicy
  deriving DecidableEq

structure RgkIssueReport where
  chain : KaspaChainId
  schemaId : Bytes32
  assetId : Bytes32
  totalSupply : UInt64
  metadataCommitment : Bytes32
  ownerCommitment : Bytes32
  allocationCount : ℕ
  laneId : Bytes32
  privacyPolicy : LanePrivacyPolicy
  policyCommitment : Bytes32
  stateDigest : Bytes32
  deriving DecidableEq

structure RgkTransitionReport where
  chain : KaspaChainId
  schemaId : Bytes32
  assetId : Bytes32
  totalSupply : UInt64
  metadataCommitment : Bytes32
  previousOwnerCommitment : Bytes32
  newOwnerCommitment : Bytes32
  ownershipAuthorizationCommitment : Bytes32
  spentSupply : UInt64
  newSupply : UInt64
  burnedSupply : UInt64
  burnAuthorizationCommitment : Bytes32
  spentAllocationCount : ℕ
  newAllocationCount : ℕ
  laneId : Bytes32
  privacyPolicy : LanePrivacyPolicy
  policyCommitment : Bytes32
  previousStateDigest : Bytes32
  newStateDigest : Bytes32
  transitionDigest : Bytes32
  deriving DecidableEq

structure RgkContinuationReport where
  chain : KaspaChainId
  schemaId : Bytes32
  assetId : Bytes32
  totalSupply : UInt64
  metadataCommitment : Bytes32
  previousOwnerCommitment : Bytes32
  newOwnerCommitment : Bytes32
  ownershipAuthorizationCommitment : Bytes32
  spentSupply : UInt64
  newSupply : UInt64
  burnedSupply : UInt64
  burnAuthorizationCommitment : Bytes32
  spentAllocationCount : ℕ
  newAllocationCount : ℕ
  laneId : Bytes32
  privacyPolicy : LanePrivacyPolicy
  policyCommitment : Bytes32
  previousStateDigest : Bytes32
  shapeRoot : Bytes32
  commitment : Bytes32
  deriving DecidableEq

structure RgkFinalizedContinuation where
  commitment : Bytes32
  transition : RgkTransition
  transitionReport : RgkTransitionReport
  deriving DecidableEq

inductive RgkAssetError where
  | zeroSchemaId
  | zeroAssetId
  | zeroTotalSupply
  | zeroMetadataCommitment
  | zeroOwnerCommitment (role : String)
  | zeroOwnershipAuthorization
  | emptyAllocations
  | zeroAllocationAmount (index : ℕ)
  | chainMismatch (index : ℕ) (expected actual : KaspaChainId)
  | nullCovenantOutpoint (index : ℕ)
  | zeroCovenantId (index : ℕ)
  | zeroWitnessTxid (index : ℕ)
  | zeroEncryptedNote (index : ℕ)
  | unconfirmedAnchor (index : ℕ)
  | duplicateAnchorOutpoint (index : ℕ)
  | supplyOverflow
  | supplyMismatch (expected actual : UInt64)
  | supplyInflation (spent new : UInt64)
  | supplyDeflationWithoutBurn (spent new : UInt64)
  | zeroBurnAmount
  | zeroBurnAuthorization
  | burnAmountMismatch (expected actual : UInt64)
  | zeroPreviousStateDigest
  | zeroTransitionWitnessTxid
  | noOpTransition
  | reusedSpentAnchor (index : ℕ)
  | previousStateDigestMismatch (expected actual : Bytes32)
  | zeroLaneId
  | zeroVerifierKey
  | unconstrainedImageId
  | emptyContinuationShape
  | zeroContinuationAmount (index : ℕ)
  | zeroContinuationCovenantId (index : ℕ)
  | zeroContinuationEncryptedNote (index : ℕ)
  | duplicateContinuationOutput (index : ℕ)
  | unsupportedProductionZkAllocationShape (spentCount newCount : ℕ)
  | segmentedAllocationAuditRequiresConservation (burnedSupply : UInt64)
  | segmentedAllocationAuditEmptySide (role : String)
  | segmentedAllocationAuditInvalidSegmentCapacity (segmentCapacity : ℕ)
  | segmentedAllocationAuditGridTooLarge
  | productionAllocationStrategyRecordDecode (reason : String)
  | productionAllocationStrategyRecordEncode (reason : String)
  | productionAllocationStrategyRecordMismatch (field : String)
  | zeroNftCollectionId
  | zeroNftTokenId
  | zeroNftTemplateCommitment
  | zeroNftPolicyCommitment
  | zeroNftMarketplacePaymentAsset
  | zeroNftMarketplacePrice
  | nftMarketplaceRoyaltyExceedsPrice (royalty price : UInt64)
  | nftMarketplaceCollectionMismatch
  | nftMarketplaceTokenMismatch
  | nftMarketplaceRoyaltyPolicyMismatch
  | nftMarketplaceSelfSale
  | nftMarketplaceAuthorizationMismatch
  | nftTokenIndexOutOfRange (tokenIndex maxSupply : UInt64)
  | nftChainMismatch (expected actual : KaspaChainId)
  | nftSchemaMismatch
  | nftAssetMismatch
  | nftSupplyMismatch (expected actual : UInt64)
  | nftAllocationShapeMismatch (role : String) (count : ℕ)
  | nftAllocationAmountMismatch (role : String) (expected actual : UInt64)
  | nftMetadataMismatch
  | nftOwnerMismatch (role : String)
  | nftUnexpectedBurn
  deriving DecidableEq

namespace RgkAllocationProofShape

def all : List RgkAllocationProofShape :=
  [oneInZeroOut, oneInOneOut, twoInTwoOut, threeInTwoOut, fourInTwoOut, fourInFourOut]

def spentCount : RgkAllocationProofShape → ℕ
  | oneInZeroOut => 1
  | oneInOneOut => 1
  | twoInTwoOut => 2
  | threeInTwoOut => 3
  | fourInTwoOut => 4
  | fourInFourOut => 4

def newCount : RgkAllocationProofShape → ℕ
  | oneInZeroOut => 0
  | oneInOneOut => 1
  | twoInTwoOut => 2
  | threeInTwoOut => 2
  | fourInTwoOut => 2
  | fourInFourOut => 4

def fromCounts (spentCount newCount : ℕ) : Option RgkAllocationProofShape :=
  all.find? (fun s => s.spentCount == spentCount && s.newCount == newCount)

def requireCounts (spentCount newCount : ℕ) : Except RgkAssetError RgkAllocationProofShape :=
  okOr (fromCounts spentCount newCount) (.unsupportedProductionZkAllocationShape spentCount newCount)

theorem fromCounts_eq_some {m n : ℕ} {s : RgkAllocationProofShape} :
    fromCounts m n = some s ↔ s.spentCount = m ∧ s.newCount = n := by
  constructor
  · intro h
    simpa using List.find?_some h
  · rintro ⟨rfl, rfl⟩
    cases s <;> rfl

end RgkAllocationProofShape
end RgkProtocol.AssetTypes
