import RgkProtocol.AuditPlan
import RgkProtocol.CanonicalEncoding

/-!
# Records of production allocation strategies

A wallet stores a continuation plan together with the strategy its proof will follow. The record
holds the plan, the strategy and a commitment; the reader derives the strategy and the commitment
anew from the plan it has read and compares.
-/
namespace RgkProtocol.StrategyRecord
open ByteStrings Hashing CoreTypes Checked Codec CanonicalEncoding AssetTypes AssetEncoding
open AssetValidation ContinuationPlan AuditPlan AuditBundle

section Plan
variable (H : List UInt8 → Bytes32)

/-- Which of the two strategies, with its numbers. -/
def strategyPayload : RgkProductionAllocationStrategy → List UInt8
  | .fixedAllocationVector shape => [0] ++ (le64 (UInt64.ofNat shape.spentCount) ++
      le64 (UInt64.ofNat shape.newCount))
  | .segmentedAllocationAudit segmentCapacity spentSegments newSegments exclusionPairs
      groth16ProofEntries =>
      [1] ++ (le64 (UInt64.ofNat segmentCapacity) ++ (le64 (UInt64.ofNat spentSegments) ++
        (le64 (UInt64.ofNat newSegments) ++ (le64 (UInt64.ofNat exclusionPairs) ++
          le64 (UInt64.ofNat groth16ProofEntries)))))

def productionAllocationStrategyCommitment (report : RgkContinuationReport)
    (strategy : RgkProductionAllocationStrategy) : Bytes32 :=
  domainHashStr H "rgk:asset:production-allocation-strategy:v1"
    ([report.chain.asU8] ++ (report.schemaId.toList ++ (report.assetId.toList ++
      (le64 report.totalSupply ++ (report.previousStateDigest.toList ++
        (report.shapeRoot.toList ++ (report.commitment.toList ++ (le64 report.spentSupply ++
          (le64 report.newSupply ++ (le64 report.burnedSupply ++
            (le64 (UInt64.ofNat report.spentAllocationCount) ++
              (le64 (UInt64.ofNat report.newAllocationCount) ++
                strategyPayload strategy))))))))))))

structure RgkProductionAllocationStrategyPlan where
  continuationPlan : RgkContinuationPlan
  continuationReport : RgkContinuationReport
  strategy : RgkProductionAllocationStrategy
  strategyCommitment : Bytes32
  deriving DecidableEq

def RgkProductionAllocationStrategyPlan.new (continuationPlan : RgkContinuationPlan) :
    Except RgkAssetError RgkProductionAllocationStrategyPlan := do
  let continuationReport ← RgkContinuationPlan.validate H continuationPlan
  let strategy ← forContinuationReport continuationReport
  .ok ⟨continuationPlan, continuationReport, strategy,
    productionAllocationStrategyCommitment H continuationReport strategy⟩

structure RgkProductionAllocationStrategyRecord where
  plan : RgkProductionAllocationStrategyPlan
  deriving DecidableEq

def RgkProductionAllocationStrategyRecord.fromContinuationPlan
    (continuationPlan : RgkContinuationPlan) :
    Except RgkAssetError RgkProductionAllocationStrategyRecord := do
  let plan ← RgkProductionAllocationStrategyPlan.new H continuationPlan
  .ok ⟨plan⟩

end Plan

section Writing

def maxCanonicalRecordItems : ℕ := maxBlobBytes/32

def validateCanonicalRecordItemCount (len : ℕ) (reason : String) : Except RgkAssetError Unit :=
  failIf (len > maxCanonicalRecordItems) (.productionAllocationStrategyRecordEncode reason)

def validateCanonicalRecordProofPolicy : RgkProofPolicy → Except RgkAssetError Unit
  | .zkReceipt _ (.allowedSet set) =>
      validateCanonicalRecordItemCount set.length "too many image ids"
  | _ => .ok ()

def validateCanonicalRecordPlan (plan : RgkContinuationPlan) : Except RgkAssetError Unit := do
  validateCanonicalRecordItemCount plan.spentAllocations.length "too many spent allocations"
  validateCanonicalRecordItemCount plan.newAllocationShapes.length "too many new allocation shapes"
  validateCanonicalRecordProofPolicy plan.proofPolicy

def writeLen (len : ℕ) : List UInt8 := le32 (UInt32.ofNat len)

/-- Elements one after the other behind their count. -/
def writeCounted {α : Type} (enc : α → List UInt8) (items : List α) : List UInt8 :=
  writeLen items.length ++ items.flatMap enc

def encodeCovenantAnchor (anchor : RgkCovenantAnchor) : List UInt8 :=
  [anchor.chain.asU8] ++ (anchor.covenantOutpoint.transactionId.toList ++
    (le32 anchor.covenantOutpoint.index ++ (anchor.covenantId.toList ++
      (anchor.witnessTxid.toList ++ (le64 anchor.daaScore ++ le64 anchor.confirmationDepth)))))

def encodeAllocationRecord (allocation : RgkAllocation) : List UInt8 :=
  encodeCovenantAnchor allocation.anchor ++ (le64 allocation.amount ++
    allocation.encryptedNoteCommitment.toList)

def encodeContinuationShapeRecord (shape : RgkContinuationAllocationShape) : List UInt8 :=
  le32 shape.outputIndex ++ (shape.covenantId.toList ++ (le64 shape.amount ++
    shape.encryptedNoteCommitment.toList))

def burnTag : Option RgkBurnProof → UInt8
  | some _ => 1
  | none => 0

def burnBody : Option RgkBurnProof → List UInt8
  | some burn => le64 burn.amount ++ burn.authorizationCommitment.toList
  | none => []

def encodeBurnRecord (burn : Option RgkBurnProof) : List UInt8 := [burnTag burn] ++ burnBody burn

def encodePrivacyPolicyRecord (privacyPolicy : LanePrivacyPolicy) : List UInt8 :=
  [privacyPolicy.asU8]

def imageIdPolicyTag : ImageIdPolicy → UInt8
  | .fixed _ => 0
  | .allowedSet _ => 1
  | .policyBranch _ => 2

def imageIdPolicyBody : ImageIdPolicy → List UInt8
  | .fixed imageId => imageId.toList
  | .allowedSet set => writeCounted Bytes.toList set
  | .policyBranch branch => branch.toList

def encodeImageIdPolicyRecord (policy : ImageIdPolicy) : List UInt8 :=
  [imageIdPolicyTag policy] ++ imageIdPolicyBody policy

def proofPolicyTag : RgkProofPolicy → UInt8
  | .verifierReceipt _ => 0
  | .zkReceipt _ _ => 1
  | .hybrid _ _ => 2

def proofPolicyBody : RgkProofPolicy → List UInt8
  | .verifierReceipt verifierKeyHash => verifierKeyHash.toList
  | .zkReceipt verifierKeyId imageIdPolicy =>
      verifierKeyId.toList ++ encodeImageIdPolicyRecord imageIdPolicy
  | .hybrid verifierKeyHash verifierKeyId => verifierKeyHash.toList ++ verifierKeyId.toList

def encodeProofPolicyRecord (policy : RgkProofPolicy) : List UInt8 :=
  [proofPolicyTag policy] ++ proofPolicyBody policy

def encodeContinuationPlan (plan : RgkContinuationPlan) : List UInt8 :=
  [plan.chain.asU8] ++ (plan.schemaId.toList ++ (plan.assetId.toList ++ (le64 plan.totalSupply ++
    (plan.metadataCommitment.toList ++ (plan.previousOwnerCommitment.toList ++
      (plan.newOwnerCommitment.toList ++ (plan.ownershipAuthorizationCommitment.toList ++
        (plan.previousStateDigest.toList ++
          (writeCounted encodeAllocationRecord plan.spentAllocations ++
            (writeCounted encodeContinuationShapeRecord plan.newAllocationShapes ++
              (encodeBurnRecord plan.burn ++ (plan.laneId.toList ++
                (encodePrivacyPolicyRecord plan.privacyPolicy ++
                  encodeProofPolicyRecord plan.proofPolicy)))))))))))))

def allocationProofShapeTag : RgkAllocationProofShape → UInt8
  | .oneInZeroOut => 0
  | .oneInOneOut => 1
  | .twoInTwoOut => 2
  | .threeInTwoOut => 3
  | .fourInTwoOut => 4
  | .fourInFourOut => 5

def strategyTag : RgkProductionAllocationStrategy → UInt8
  | .fixedAllocationVector _ => 0
  | .segmentedAllocationAudit _ _ _ _ _ => 1

def strategyBody : RgkProductionAllocationStrategy → List UInt8
  | .fixedAllocationVector shape => [allocationProofShapeTag shape]
  | .segmentedAllocationAudit segmentCapacity spentSegments newSegments exclusionPairs
      groth16ProofEntries =>
      le64 (UInt64.ofNat segmentCapacity) ++ (le64 (UInt64.ofNat spentSegments) ++
        (le64 (UInt64.ofNat newSegments) ++ (le64 (UInt64.ofNat exclusionPairs) ++
          le64 (UInt64.ofNat groth16ProofEntries))))

def encodeProductionAllocationStrategy (strategy : RgkProductionAllocationStrategy) : List UInt8 :=
  [strategyTag strategy] ++ strategyBody strategy

/-- The text `rgk:pas:0` and three zero bytes. -/
def allocationStrategyRecordTag : Bytes 12 :=
  ⟨[0x72, 0x67, 0x6b, 0x3a, 0x70, 0x61, 0x73, 0x3a, 0x30, 0, 0, 0], rfl⟩

/-- What stands in a record: the plan, the strategy and the commitment. -/
abbrev RecordFields := RgkContinuationPlan × RgkProductionAllocationStrategy × Bytes32

def encodeRecordFields (f : RecordFields) : List UInt8 :=
  allocationStrategyRecordTag.toList ++ (le16 encodingVersion ++ (encodeContinuationPlan f.1 ++
    (encodeProductionAllocationStrategy f.2.1 ++ f.2.2.toList)))

def RgkProductionAllocationStrategyRecord.fields (r : RgkProductionAllocationStrategyRecord) :
    RecordFields :=
  (r.plan.continuationPlan, r.plan.strategy, r.plan.strategyCommitment)

def RgkProductionAllocationStrategyRecord.canonicalBytes
    (r : RgkProductionAllocationStrategyRecord) : Except RgkAssetError (List UInt8) := do
  validateCanonicalRecordPlan r.plan.continuationPlan
  let bytes := encodeRecordFields r.fields
  failIf (bytes.length > maxBlobBytes)
    (.productionAllocationStrategyRecordEncode "record too large")
  .ok bytes

end Writing

section Reading

/-- Every error of the core reader is reported alike. -/
def malformed : RgkAssetError :=
  .productionAllocationStrategyRecordDecode "malformed canonical bytes"

def badTag (reason : String) : RgkAssetError := .productionAllocationStrategyRecordDecode reason

def readBytes32 : Reader RgkAssetError Bytes32 := readArray malformed 32

def readChain : Reader RgkAssetError KaspaChainId := do
  let tag ← readU8 malformed
  check (okOr (KaspaChainId.fromTag tag) (badTag "unknown Kaspa chain id"))

def readLen : Reader RgkAssetError ℕ := do
  let len ← readU32 malformed
  check (do
    failIf (len.toNat > maxCanonicalRecordItems) (badTag "record vector count too large")
    .ok len.toNat)

def readCounted {α : Type} (r : Reader RgkAssetError α) : Reader RgkAssetError (List α) := do
  let len ← readLen
  readList r len

def decodeCovenantAnchor : Reader RgkAssetError RgkCovenantAnchor := do
  let chain ← readChain
  let transactionId ← readBytes32
  let index ← readU32 malformed
  let covenantId ← readBytes32
  let witnessTxid ← readBytes32
  let daaScore ← readU64 malformed
  let confirmationDepth ← readU64 malformed
  pure ⟨chain, ⟨transactionId, index⟩, covenantId, witnessTxid, daaScore, confirmationDepth⟩

def decodeAllocationRecord : Reader RgkAssetError RgkAllocation := do
  let anchor ← decodeCovenantAnchor
  let amount ← readU64 malformed
  let encryptedNoteCommitment ← readBytes32
  pure ⟨anchor, amount, encryptedNoteCommitment⟩

def decodeContinuationShapeRecord : Reader RgkAssetError RgkContinuationAllocationShape := do
  let outputIndex ← readU32 malformed
  let covenantId ← readBytes32
  let amount ← readU64 malformed
  let encryptedNoteCommitment ← readBytes32
  pure ⟨outputIndex, covenantId, amount, encryptedNoteCommitment⟩

def decodeBurnBody (tag : UInt8) : Reader RgkAssetError (Option RgkBurnProof) :=
  if tag = 0 then pure none
  else if tag = 1 then do
    let amount ← readU64 malformed
    let authorizationCommitment ← readBytes32
    pure (some ⟨amount, authorizationCommitment⟩)
  else check (.error (badTag "unknown burn option tag"))

def decodeBurnRecord : Reader RgkAssetError (Option RgkBurnProof) := do
  let tag ← readU8 malformed
  decodeBurnBody tag

def privacyPolicyOfTag (tag : UInt8) : Except RgkAssetError LanePrivacyPolicy :=
  if tag = 0 then .ok .publicLineage
  else if tag = 1 then .ok .privateLane
  else if tag = 2 then .ok .stealthLane
  else .error (badTag "unknown privacy policy tag")

def decodePrivacyPolicyRecord : Reader RgkAssetError LanePrivacyPolicy := do
  let tag ← readU8 malformed
  check (privacyPolicyOfTag tag)

def decodeImageIdPolicyBody (tag : UInt8) : Reader RgkAssetError ImageIdPolicy :=
  if tag = 0 then do
    let imageId ← readBytes32
    pure (.fixed imageId)
  else if tag = 1 then do
    let set ← readCounted readBytes32
    pure (.allowedSet set)
  else if tag = 2 then do
    let branch ← readBytes32
    pure (.policyBranch branch)
  else check (.error (badTag "unknown image id policy tag"))

def decodeImageIdPolicyRecord : Reader RgkAssetError ImageIdPolicy := do
  let tag ← readU8 malformed
  decodeImageIdPolicyBody tag

def decodeProofPolicyBody (tag : UInt8) : Reader RgkAssetError RgkProofPolicy :=
  if tag = 0 then do
    let verifierKeyHash ← readBytes32
    pure (.verifierReceipt verifierKeyHash)
  else if tag = 1 then do
    let verifierKeyId ← readBytes32
    let imageIdPolicy ← decodeImageIdPolicyRecord
    pure (.zkReceipt verifierKeyId imageIdPolicy)
  else if tag = 2 then do
    let verifierKeyHash ← readBytes32
    let verifierKeyId ← readBytes32
    pure (.hybrid verifierKeyHash verifierKeyId)
  else check (.error (badTag "unknown proof policy tag"))

def decodeProofPolicyRecord : Reader RgkAssetError RgkProofPolicy := do
  let tag ← readU8 malformed
  decodeProofPolicyBody tag

def decodeContinuationPlan : Reader RgkAssetError RgkContinuationPlan := do
  let chain ← readChain
  let schemaId ← readBytes32
  let assetId ← readBytes32
  let totalSupply ← readU64 malformed
  let metadataCommitment ← readBytes32
  let previousOwnerCommitment ← readBytes32
  let newOwnerCommitment ← readBytes32
  let ownershipAuthorizationCommitment ← readBytes32
  let previousStateDigest ← readBytes32
  let spentAllocations ← readCounted decodeAllocationRecord
  let newAllocationShapes ← readCounted decodeContinuationShapeRecord
  let burn ← decodeBurnRecord
  let laneId ← readBytes32
  let privacyPolicy ← decodePrivacyPolicyRecord
  let proofPolicy ← decodeProofPolicyRecord
  pure { chain, schemaId, assetId, totalSupply, metadataCommitment, previousOwnerCommitment,
         newOwnerCommitment, ownershipAuthorizationCommitment, previousStateDigest,
         spentAllocations, newAllocationShapes, burn, laneId, privacyPolicy, proofPolicy }

def allocationProofShapeOfTag (tag : UInt8) : Except RgkAssetError RgkAllocationProofShape :=
  if tag = 0 then .ok .oneInZeroOut
  else if tag = 1 then .ok .oneInOneOut
  else if tag = 2 then .ok .twoInTwoOut
  else if tag = 3 then .ok .threeInTwoOut
  else if tag = 4 then .ok .fourInTwoOut
  else if tag = 5 then .ok .fourInFourOut
  else .error (badTag "unknown allocation proof shape tag")

def decodeAllocationProofShapeRecord : Reader RgkAssetError RgkAllocationProofShape := do
  let tag ← readU8 malformed
  check (allocationProofShapeOfTag tag)

/-- Sizes have 64 bits, so every 64-bit word is one. -/
def decodeUsizeRecord : Reader RgkAssetError ℕ := do
  let value ← readU64 malformed
  check (.ok value.toNat)

def decodeStrategyBody (tag : UInt8) : Reader RgkAssetError RgkProductionAllocationStrategy :=
  if tag = 0 then do
    let shape ← decodeAllocationProofShapeRecord
    pure (.fixedAllocationVector shape)
  else if tag = 1 then do
    let segmentCapacity ← decodeUsizeRecord
    let spentSegments ← decodeUsizeRecord
    let newSegments ← decodeUsizeRecord
    let exclusionPairs ← decodeUsizeRecord
    let groth16ProofEntries ← decodeUsizeRecord
    pure (.segmentedAllocationAudit segmentCapacity spentSegments newSegments exclusionPairs
      groth16ProofEntries)
  else check (.error (badTag "unknown production allocation strategy tag"))

def decodeProductionAllocationStrategy :
    Reader RgkAssetError RgkProductionAllocationStrategy := do
  let tag ← readU8 malformed
  decodeStrategyBody tag

/-- The fields of a record in the order in which they are read. -/
def readRecordFields : Reader RgkAssetError RecordFields := do
  let tag ← readArray malformed 12
  check (failIf (tag ≠ allocationStrategyRecordTag) (badTag "bad record tag"))
  let version ← readU16 malformed
  check (failIf (version ≠ encodingVersion) (badTag "unknown version"))
  let continuationPlan ← decodeContinuationPlan
  let encodedStrategy ← decodeProductionAllocationStrategy
  let encodedStrategyCommitment ← readBytes32
  pure (continuationPlan, encodedStrategy, encodedStrategyCommitment)

/-- The record of the plan that was read, if it has the strategy and commitment that were read. -/
def checkRecordFields (H : List UInt8 → Bytes32) (f : RecordFields) :
    Except RgkAssetError RgkProductionAllocationStrategyRecord := do
  let plan ← RgkProductionAllocationStrategyPlan.new H f.1
  failIf (plan.strategy ≠ f.2.1) (.productionAllocationStrategyRecordMismatch "strategy")
  failIf (plan.strategyCommitment ≠ f.2.2)
    (.productionAllocationStrategyRecordMismatch "strategy_commitment")
  .ok ⟨plan⟩

def RgkProductionAllocationStrategyRecord.decodeCanonical (H : List UInt8 → Bytes32)
    (bytes : List UInt8) : Except RgkAssetError RgkProductionAllocationStrategyRecord := do
  failIf (bytes.length > maxBlobBytes) (badTag "record too large")
  runReader (do
    let f ← readRecordFields
    ensureConsumed (fun _ => malformed)
    check (checkRecordFields H f)) bytes

end Reading

section Exactness

lemma exact_bytes32 : Exact readBytes32 Bytes.toList (fun _ => True) := exact_readArray 32

lemma exact_u64 : Exact (readU64 malformed) le64 (fun _ => True) := exact_readU64

lemma exact_u32 : Exact (readU32 malformed) le32 (fun _ => True) := exact_readU32

lemma exact_chain : Exact readChain (fun c => [c.asU8]) (fun _ => True) :=
  exact_readU8.checked (fun _ _ => by rw [okOr_eq_ok, KaspaChainId.fromTag_eq_some])

lemma exact_len : Exact readLen writeLen (fun n => n ≤ maxCanonicalRecordItems) := by
  refine exact_readU32.checked (fun len n => ?_)
  rw [unit_bind_eq_ok, failIf_eq_ok, true_and, not_lt, Except.ok.injEq]
  constructor
  · rintro ⟨hlen, rfl⟩
    exact ⟨hlen, UInt32.ofNat_toNat.symm⟩
  · rintro ⟨hn, rfl⟩
    have hsmall : maxCanonicalRecordItems < 2^32 := by decide
    have hval : (UInt32.ofNat n).toNat = n := by
      rw [UInt32.toNat_ofNat']
      exact Nat.mod_eq_of_lt (lt_of_le_of_lt hn hsmall)
    rw [hval]
    exact ⟨hn, rfl⟩

lemma exact_counted {α : Type} {r : Reader RgkAssetError α} {enc : α → List UInt8}
    (h : Exact r enc (fun _ => True)) : Exact (readCounted r) (writeCounted enc)
      (fun items => items.length ≤ maxCanonicalRecordItems) := by
  intro bs items rest
  simp only [readCounted, writeCounted, exact_len.bind_eq_ok, exact_readList h _ _ items rest,
    List.append_assoc]
  constructor
  · rintro ⟨_, _, ⟨hn, rfl⟩, ⟨rfl, -⟩, rfl⟩
    exact ⟨hn, rfl⟩
  · rintro ⟨hn, rfl⟩
    exact ⟨items.length, _, ⟨hn, rfl⟩, ⟨rfl, fun _ _ => trivial⟩, rfl⟩

lemma exact_anchor : Exact decodeCovenantAnchor encodeCovenantAnchor (fun _ => True) := by
  intro bs anchor rest
  simp only [decodeCovenantAnchor, encodeCovenantAnchor, exact_chain.bind_eq_ok,
    exact_bytes32.bind_eq_ok, exact_u32.bind_eq_ok, exact_u64.bind_eq_ok, reader_pure_eq_ok,
    true_and, List.append_assoc]
  constructor
  · rintro ⟨_, _, rfl, _, _, rfl, _, _, rfl, _, _, rfl, _, _, rfl, _, _, rfl, _, _, rfl, rfl, rfl⟩
    rfl
  · intro hbs
    exact ⟨_, _, hbs, _, _, rfl, _, _, rfl, _, _, rfl, _, _, rfl, _, _, rfl, _, _, rfl, rfl, rfl⟩

lemma exact_allocation : Exact decodeAllocationRecord encodeAllocationRecord (fun _ => True) := by
  intro bs a rest
  simp only [decodeAllocationRecord, encodeAllocationRecord, exact_anchor.bind_eq_ok,
    exact_u64.bind_eq_ok, exact_bytes32.bind_eq_ok, reader_pure_eq_ok, true_and, List.append_assoc]
  constructor
  · rintro ⟨_, _, rfl, _, _, rfl, _, _, rfl, rfl, rfl⟩
    rfl
  · intro hbs
    exact ⟨_, _, hbs, _, _, rfl, _, _, rfl, rfl, rfl⟩

lemma exact_shape :
    Exact decodeContinuationShapeRecord encodeContinuationShapeRecord (fun _ => True) := by
  intro bs shape rest
  simp only [decodeContinuationShapeRecord, encodeContinuationShapeRecord, exact_u32.bind_eq_ok,
    exact_bytes32.bind_eq_ok, exact_u64.bind_eq_ok, reader_pure_eq_ok, true_and, List.append_assoc]
  constructor
  · rintro ⟨_, _, rfl, _, _, rfl, _, _, rfl, _, _, rfl, rfl, rfl⟩
    rfl
  · intro hbs
    exact ⟨_, _, hbs, _, _, rfl, _, _, rfl, _, _, rfl, rfl, rfl⟩

lemma exact_burn : Exact decodeBurnRecord encodeBurnRecord (fun _ => True) := by
  refine exact_tagged (fun tag bs burn rest => ?_)
  unfold decodeBurnBody
  constructor
  · intro h
    split_ifs at h with h0 h1
    · obtain ⟨rfl, rfl⟩ := reader_pure_eq_ok.mp h
      exact ⟨h0, trivial, rfl⟩
    · simp only [exact_u64.bind_eq_ok, exact_bytes32.bind_eq_ok, reader_pure_eq_ok, true_and] at h
      obtain ⟨_, _, rfl, _, _, rfl, rfl, rfl⟩ := h
      exact ⟨h1, trivial, by simp [burnBody]⟩
    · cases (check_eq_ok.mp h).1
  · rintro ⟨rfl, -, rfl⟩
    cases burn with
    | none => rfl
    | some b =>
      exact (exact_u64.reads trivial).bind
        (exact_bytes32.reads_map (fun c => some (RgkBurnProof.mk b.amount c)) trivial) rest

/-- The limit on the number of image ids. -/
def ImageIdsFit : ImageIdPolicy → Prop
  | .allowedSet set => set.length ≤ maxCanonicalRecordItems
  | _ => True

lemma exact_imageIdPolicy :
    Exact decodeImageIdPolicyRecord encodeImageIdPolicyRecord ImageIdsFit := by
  refine exact_tagged (fun tag bs policy rest => ?_)
  unfold decodeImageIdPolicyBody
  constructor
  · intro h
    split_ifs at h with h0 h1 h2
    · obtain ⟨_, -, rfl, rfl⟩ := exact_bytes32.map_eq_ok.mp h
      exact ⟨h0, trivial, rfl⟩
    · obtain ⟨_, hset, rfl, rfl⟩ := (exact_counted exact_bytes32).map_eq_ok.mp h
      exact ⟨h1, hset, rfl⟩
    · obtain ⟨_, -, rfl, rfl⟩ := exact_bytes32.map_eq_ok.mp h
      exact ⟨h2, trivial, rfl⟩
    · cases (check_eq_ok.mp h).1
  · rintro ⟨rfl, hfit, rfl⟩
    cases policy with
    | fixed _ => exact exact_bytes32.reads_map ImageIdPolicy.fixed trivial rest
    | allowedSet _ => exact (exact_counted exact_bytes32).reads_map ImageIdPolicy.allowedSet hfit rest
    | policyBranch _ => exact exact_bytes32.reads_map ImageIdPolicy.policyBranch trivial rest

lemma validateCanonicalRecordProofPolicy_zk {key : Bytes32} {policy : ImageIdPolicy} :
    validateCanonicalRecordProofPolicy (.zkReceipt key policy) = .ok () ↔ ImageIdsFit policy := by
  cases policy <;>
    simp [validateCanonicalRecordProofPolicy, validateCanonicalRecordItemCount, ImageIdsFit]

lemma exact_proofPolicy : Exact decodeProofPolicyRecord encodeProofPolicyRecord
    (fun policy => validateCanonicalRecordProofPolicy policy = .ok ()) := by
  refine exact_tagged (fun tag bs policy rest => ?_)
  unfold decodeProofPolicyBody
  constructor
  · intro h
    split_ifs at h with h0 h1 h2
    · obtain ⟨_, -, rfl, rfl⟩ := exact_bytes32.map_eq_ok.mp h
      exact ⟨h0, rfl, rfl⟩
    · simp only [exact_bytes32.bind_eq_ok, exact_imageIdPolicy.bind_eq_ok, reader_pure_eq_ok,
        true_and] at h
      obtain ⟨_, _, rfl, _, _, ⟨hfit, rfl⟩, rfl, rfl⟩ := h
      exact ⟨h1, validateCanonicalRecordProofPolicy_zk.mpr hfit, by simp [proofPolicyBody]⟩
    · simp only [exact_bytes32.bind_eq_ok, reader_pure_eq_ok, true_and] at h
      obtain ⟨_, _, rfl, _, _, rfl, rfl, rfl⟩ := h
      exact ⟨h2, rfl, by simp [proofPolicyBody]⟩
    · cases (check_eq_ok.mp h).1
  · rintro ⟨rfl, hfit, rfl⟩
    cases policy with
    | verifierReceipt _ => exact exact_bytes32.reads_map RgkProofPolicy.verifierReceipt trivial rest
    | zkReceipt key _ =>
      have himage := validateCanonicalRecordProofPolicy_zk.mp hfit
      exact (exact_bytes32.reads trivial).bind
        (exact_imageIdPolicy.reads_map (RgkProofPolicy.zkReceipt key) himage) rest
    | hybrid key _ =>
      exact (exact_bytes32.reads trivial).bind
        (exact_bytes32.reads_map (RgkProofPolicy.hybrid key) trivial) rest

lemma exact_privacyPolicy :
    Exact decodePrivacyPolicyRecord encodePrivacyPolicyRecord (fun _ => True) := by
  refine exact_readU8.checked (fun tag policy => ?_)
  rw [true_and, true_and]
  constructor
  · intro h
    unfold privacyPolicyOfTag at h
    split_ifs at h <;> cases h <;> assumption
  · rintro rfl
    cases policy <;> rfl

lemma validateCanonicalRecordPlan_eq_ok {plan : RgkContinuationPlan} :
    validateCanonicalRecordPlan plan = .ok () ↔
      plan.spentAllocations.length ≤ maxCanonicalRecordItems ∧
      plan.newAllocationShapes.length ≤ maxCanonicalRecordItems ∧
      validateCanonicalRecordProofPolicy plan.proofPolicy = .ok () := by
  simp only [validateCanonicalRecordPlan, validateCanonicalRecordItemCount, unit_bind_eq_ok,
    failIf_eq_ok, not_lt]

/-- The reader of a plan takes exactly the plans that the writer admits. -/
lemma exact_plan : Exact decodeContinuationPlan encodeContinuationPlan
    (fun plan => validateCanonicalRecordPlan plan = .ok ()) := by
  intro bs plan rest
  simp only [decodeContinuationPlan, encodeContinuationPlan, exact_chain.bind_eq_ok,
    exact_bytes32.bind_eq_ok, exact_u64.bind_eq_ok, (exact_counted exact_allocation).bind_eq_ok,
    (exact_counted exact_shape).bind_eq_ok, exact_burn.bind_eq_ok, exact_privacyPolicy.bind_eq_ok,
    exact_proofPolicy.bind_eq_ok, reader_pure_eq_ok, validateCanonicalRecordPlan_eq_ok, true_and,
    List.append_assoc]
  constructor
  · rintro ⟨_, _, rfl, _, _, rfl, _, _, rfl, _, _, rfl, _, _, rfl, _, _, rfl, _, _, rfl, _, _, rfl,
      _, _, rfl, _, _, ⟨hspent, rfl⟩, _, _, ⟨hnew, rfl⟩, _, _, rfl, _, _, rfl, _, _, rfl, _, _,
      ⟨hpolicy, rfl⟩, rfl, rfl⟩
    exact ⟨⟨hspent, hnew, hpolicy⟩, rfl⟩
  · rintro ⟨⟨hspent, hnew, hpolicy⟩, hbs⟩
    exact ⟨_, _, hbs, _, _, rfl, _, _, rfl, _, _, rfl, _, _, rfl, _, _, rfl, _, _, rfl, _, _, rfl,
      _, _, rfl, _, _, ⟨hspent, rfl⟩, _, _, ⟨hnew, rfl⟩, _, _, rfl, _, _, rfl, _, _, rfl, _, _,
      ⟨hpolicy, rfl⟩, rfl, rfl⟩

/-- The numbers of a strategy are 64-bit sizes. -/
def StrategyFits : RgkProductionAllocationStrategy → Prop
  | .fixedAllocationVector _ => True
  | .segmentedAllocationAudit segmentCapacity spentSegments newSegments exclusionPairs
      groth16ProofEntries =>
      segmentCapacity < 2^64 ∧ spentSegments < 2^64 ∧ newSegments < 2^64 ∧
        exclusionPairs < 2^64 ∧ groth16ProofEntries < 2^64

lemma exact_proofShape : Exact decodeAllocationProofShapeRecord
    (fun shape => [allocationProofShapeTag shape]) (fun _ => True) := by
  refine exact_readU8.checked (fun tag shape => ?_)
  rw [true_and, true_and]
  constructor
  · intro h
    unfold allocationProofShapeOfTag at h
    split_ifs at h <;> cases h <;> assumption
  · rintro rfl
    cases shape <;> rfl

lemma exact_usize : Exact decodeUsizeRecord (fun n => le64 (UInt64.ofNat n)) (fun n => n < 2^64) := by
  refine exact_readU64.checked (fun value n => ?_)
  rw [true_and, Except.ok.injEq]
  constructor
  · rintro rfl
    exact ⟨value.toNat_lt, UInt64.ofNat_toNat.symm⟩
  · rintro ⟨hn, rfl⟩
    exact UInt64.toNat_ofNat_of_lt' hn

lemma exact_strategy : Exact decodeProductionAllocationStrategy encodeProductionAllocationStrategy
    StrategyFits := by
  refine exact_tagged (fun tag bs strategy rest => ?_)
  unfold decodeStrategyBody
  constructor
  · intro h
    split_ifs at h with h0 h1
    · obtain ⟨_, -, rfl, rfl⟩ := exact_proofShape.map_eq_ok.mp h
      exact ⟨h0, trivial, rfl⟩
    · simp only [exact_usize.bind_eq_ok, reader_pure_eq_ok] at h
      obtain ⟨_, _, ⟨hc, rfl⟩, _, _, ⟨hs, rfl⟩, _, _, ⟨hn, rfl⟩, _, _, ⟨hp, rfl⟩, _, _, ⟨he, rfl⟩,
        rfl, rfl⟩ := h
      exact ⟨h1, ⟨hc, hs, hn, hp, he⟩, by simp [strategyBody]⟩
    · cases (check_eq_ok.mp h).1
  · rintro ⟨rfl, hfit, rfl⟩
    cases strategy with
    | fixedAllocationVector _ =>
      exact exact_proofShape.reads_map RgkProductionAllocationStrategy.fixedAllocationVector trivial
        rest
    | segmentedAllocationAudit c s n p e =>
      obtain ⟨hc, hs, hn, hp, he⟩ := hfit
      have htag : strategyTag (.segmentedAllocationAudit c s n p e) = 1 := rfl
      rw [if_neg (by simp [htag]), if_pos htag]
      simp only [exact_usize.bind_eq_ok, reader_pure_eq_ok, strategyBody, List.append_assoc]
      exact ⟨c, _, ⟨hc, rfl⟩, s, _, ⟨hs, rfl⟩, n, _, ⟨hn, rfl⟩, p, _, ⟨hp, rfl⟩, e, _, ⟨he, rfl⟩,
        rfl, rfl⟩

lemma exact_recordFields : Exact readRecordFields encodeRecordFields
    (fun f => validateCanonicalRecordPlan f.1 = .ok () ∧ StrategyFits f.2.1) := by
  intro bs f rest
  have htag : Exact (readArray malformed 12) Bytes.toList (fun _ => True) := exact_readArray 12
  have hversion : Exact (readU16 malformed) le16 (fun _ => True) := exact_readU16
  simp only [readRecordFields, encodeRecordFields, htag.bind_eq_ok, hversion.bind_eq_ok,
    check_bind_eq_ok, failIf_eq_ok, exact_plan.bind_eq_ok, exact_strategy.bind_eq_ok,
    exact_bytes32.bind_eq_ok, reader_pure_eq_ok, not_not, true_and, exists_const,
    List.append_assoc]
  constructor
  · rintro ⟨_, _, rfl, rfl, _, _, rfl, rfl, _, _, ⟨hplan, rfl⟩, _, _, ⟨hfit, rfl⟩, _, _, rfl, rfl,
      rfl⟩
    exact ⟨⟨hplan, hfit⟩, rfl⟩
  · rintro ⟨⟨hplan, hfit⟩, hbs⟩
    exact ⟨_, _, hbs, rfl, _, _, rfl, rfl, _, _, ⟨hplan, rfl⟩, _, _, ⟨hfit, rfl⟩, _, _, rfl, rfl,
      rfl⟩

end Exactness

section Canonical
variable {H : List UInt8 → Bytes32}

lemma strategyFits_of_report {report : RgkContinuationReport}
    {strategy : RgkProductionAllocationStrategy}
    (h : forContinuationReport report = .ok strategy) : StrategyFits strategy := by
  cases strategy with
  | fixedAllocationVector _ => exact trivial
  | segmentedAllocationAudit c s n p e =>
    obtain ⟨hplanned, hc, he⟩ :=
      segmentedAuditForReport_inv (forContinuationReport_segmented h)
    have hproofs := hplanned.proofs
    have hcapacity : c < 2^64 := hc ▸ (by decide)
    exact ⟨hcapacity, by omega, by omega, by omega, he⟩

/-- A built plan keeps the continuation plan it was built from, and its strategy fits. -/
lemma RgkProductionAllocationStrategyPlan.new_inv {continuationPlan : RgkContinuationPlan}
    {plan : RgkProductionAllocationStrategyPlan}
    (h : RgkProductionAllocationStrategyPlan.new H continuationPlan = .ok plan) :
    plan.continuationPlan = continuationPlan ∧ StrategyFits plan.strategy := by
  obtain ⟨report, -, h⟩ := bind_eq_ok.mp h
  obtain ⟨strategy, hstrategy, h⟩ := bind_eq_ok.mp h
  obtain rfl := Except.ok.inj h
  exact ⟨rfl, strategyFits_of_report hstrategy⟩

lemma RgkProductionAllocationStrategyRecord.fromContinuationPlan_eq_ok
    {continuationPlan : RgkContinuationPlan} {r : RgkProductionAllocationStrategyRecord} :
    RgkProductionAllocationStrategyRecord.fromContinuationPlan H continuationPlan = .ok r ↔
      RgkProductionAllocationStrategyPlan.new H continuationPlan = .ok r.plan := by
  obtain ⟨plan⟩ := r
  simp [RgkProductionAllocationStrategyRecord.fromContinuationPlan, bind_eq_ok]

/-- The fields lead to a record exactly when they are the fields of the record that is built from
the plan among them. -/
lemma checkRecordFields_eq_ok {f : RecordFields} {r : RgkProductionAllocationStrategyRecord} :
    checkRecordFields H f = .ok r ↔
      RgkProductionAllocationStrategyPlan.new H r.plan.continuationPlan = .ok r.plan ∧
        f = r.fields := by
  constructor
  · intro h
    obtain ⟨plan, hplan, h⟩ := bind_eq_ok.mp h
    obtain ⟨hstrategy, h⟩ := unit_bind_eq_ok.mp h
    obtain ⟨hcommitment, h⟩ := unit_bind_eq_ok.mp h
    obtain rfl := Except.ok.inj h
    obtain ⟨hsame, -⟩ := RgkProductionAllocationStrategyPlan.new_inv hplan
    have hstrategy := not_not.mp (failIf_eq_ok.mp hstrategy)
    have hcommitment := not_not.mp (failIf_eq_ok.mp hcommitment)
    refine ⟨by rw [hsame, hplan], ?_⟩
    rw [RgkProductionAllocationStrategyRecord.fields, hsame, hstrategy, hcommitment]
  · rintro ⟨hplan, rfl⟩
    exact bind_eq_ok.mpr ⟨r.plan, hplan,
      by simp [RgkProductionAllocationStrategyRecord.fields, unit_bind_eq_ok]⟩

lemma RgkProductionAllocationStrategyRecord.canonicalBytes_eq_ok
    {r : RgkProductionAllocationStrategyRecord} {bytes : List UInt8} :
    r.canonicalBytes = .ok bytes ↔ validateCanonicalRecordPlan r.plan.continuationPlan = .ok () ∧
      bytes.length ≤ maxBlobBytes ∧ bytes = encodeRecordFields r.fields := by
  simp only [RgkProductionAllocationStrategyRecord.canonicalBytes, unit_bind_eq_ok, failIf_eq_ok,
    not_lt, Except.ok.injEq]
  constructor
  · rintro ⟨hplan, hlen, rfl⟩
    exact ⟨hplan, hlen, rfl⟩
  · rintro ⟨hplan, hlen, rfl⟩
    exact ⟨hplan, hlen, rfl⟩

/-- A byte string is read as a record exactly when the record is the one its own plan leads to and
the byte string is the one the record is written as. -/
theorem RgkProductionAllocationStrategyRecord.decodeCanonical_eq_ok
    {bytes : List UInt8} {r : RgkProductionAllocationStrategyRecord} :
    RgkProductionAllocationStrategyRecord.decodeCanonical H bytes = .ok r ↔
      RgkProductionAllocationStrategyPlan.new H r.plan.continuationPlan = .ok r.plan ∧
        r.canonicalBytes = .ok bytes := by
  rw [RgkProductionAllocationStrategyRecord.decodeCanonical, unit_bind_eq_ok, failIf_eq_ok, not_lt,
    exact_recordFields.run_eq_ok, canonicalBytes_eq_ok]
  constructor
  · rintro ⟨hlen, f, ⟨hplan, -⟩, hbytes, h⟩
    obtain ⟨hnew, rfl⟩ := checkRecordFields_eq_ok.mp h
    exact ⟨hnew, hplan, hlen, hbytes⟩
  · rintro ⟨hnew, hplan, hlen, hbytes⟩
    exact ⟨hlen, r.fields, ⟨hplan, (RgkProductionAllocationStrategyPlan.new_inv hnew).2⟩, hbytes,
      checkRecordFields_eq_ok.mpr ⟨hnew, rfl⟩⟩

/-- The record of a valid plan is read back from its bytes, and every byte string that is read as
a record is the one the record is written as. -/
theorem strategy_record_canonical (H : List UInt8 → Bytes32) :
    (∀ (plan : RgkContinuationPlan) (r : RgkProductionAllocationStrategyRecord)
      (bytes : List UInt8),
      RgkProductionAllocationStrategyRecord.fromContinuationPlan H plan = .ok r →
        r.canonicalBytes = .ok bytes →
          RgkProductionAllocationStrategyRecord.decodeCanonical H bytes = .ok r) ∧
    ∀ (bytes : List UInt8) (r : RgkProductionAllocationStrategyRecord),
      RgkProductionAllocationStrategyRecord.decodeCanonical H bytes = .ok r →
        r.canonicalBytes = .ok bytes := by
  constructor
  · intro plan r bytes hr hbytes
    have hnew := RgkProductionAllocationStrategyRecord.fromContinuationPlan_eq_ok.mp hr
    obtain ⟨rfl, -⟩ := RgkProductionAllocationStrategyPlan.new_inv hnew
    exact RgkProductionAllocationStrategyRecord.decodeCanonical_eq_ok.mpr ⟨hnew, hbytes⟩
  · intro bytes r h
    exact (RgkProductionAllocationStrategyRecord.decodeCanonical_eq_ok.mp h).2

def sampleSpent : List RgkAllocation :=
  [⟨⟨.kaspaTestnet, ⟨Bytes.fill 32 5, 0⟩, Bytes.fill 32 6, Bytes.fill 32 5, 1, 1⟩, 10,
    Bytes.fill 32 7⟩]

def samplePolicy : RgkProofPolicy :=
  .zkReceipt (Bytes.fill 32 1) (.allowedSet [Bytes.fill 32 2])

/-- Ten units move from one output to another. -/
def samplePlan : RgkContinuationPlan where
  chain := .kaspaTestnet
  schemaId := Bytes.fill 32 1
  assetId := Bytes.fill 32 2
  totalSupply := 10
  metadataCommitment := Bytes.fill 32 3
  previousOwnerCommitment := Bytes.fill 32 4
  newOwnerCommitment := Bytes.fill 32 4
  ownershipAuthorizationCommitment := Bytes.zero
  previousStateDigest := stateDigestForAllocations Sha256.digest
    ⟨Bytes.fill 32 2, 10, sampleSpent, Bytes.fill 32 8, .privateLane,
      policyCommitmentBytes Sha256.digest samplePolicy, Bytes.fill 32 3, Bytes.fill 32 4⟩
  spentAllocations := sampleSpent
  newAllocationShapes := [⟨0, Bytes.fill 32 6, 10, Bytes.fill 32 7⟩]
  burn := none
  laneId := Bytes.fill 32 8
  privacyPolicy := .privateLane
  proofPolicy := samplePolicy

theorem strategy_record_canonical_sample :
    ∃ r bytes, RgkProductionAllocationStrategyRecord.fromContinuationPlan Sha256.digest samplePlan =
        .ok r ∧ r.canonicalBytes = .ok bytes ∧
      RgkProductionAllocationStrategyRecord.decodeCanonical Sha256.digest bytes = .ok r := by
  obtain ⟨hwrite, hread⟩ := strategy_record_canonical Sha256.digest
  have hsome : (do
      let r ← RgkProductionAllocationStrategyRecord.fromContinuationPlan Sha256.digest samplePlan
      r.canonicalBytes).toOption.isSome = true := by decide +kernel
  obtain ⟨bytes, h⟩ := exists_ok_of_isSome hsome
  obtain ⟨r, hr, hbytes⟩ := bind_eq_ok.mp h
  have hdecode := hwrite samplePlan r bytes hr hbytes
  exact ⟨r, bytes, hr, hread bytes r hdecode, hdecode⟩

end Canonical
end RgkProtocol.StrategyRecord
