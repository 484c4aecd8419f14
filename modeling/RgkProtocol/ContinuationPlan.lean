import RgkProtocol.AssetValidation

/-!
# Continuation plans and their finalization

A plan fixes everything about a transition except the transaction that carries it. Validation
commits to the shapes of the new allocations; finalization anchors them in the transaction and
validates the transition that results.
-/
namespace RgkProtocol.ContinuationPlan
open ByteStrings Hashing CoreTypes Checked AssetTypes AssetEncoding AssetValidation

section Shapes

def checkShape (index : ℕ) (s : RgkContinuationAllocationShape) : Except RgkAssetError Unit := do
  failIf (s.amount = 0) (.zeroContinuationAmount index)
  rejectZero s.covenantId (.zeroContinuationCovenantId index)
  rejectZero s.encryptedNoteCommitment (.zeroContinuationEncryptedNote index)

/-- A shape with no empty field. -/
def ShapeOk (s : RgkContinuationAllocationShape) : Prop :=
  s.amount ≠ 0 ∧ s.covenantId ≠ Bytes.zero ∧ s.encryptedNoteCommitment ≠ Bytes.zero

lemma checkShape_eq_ok (index : ℕ) (s : RgkContinuationAllocationShape) :
    checkShape index s = .ok () ↔ ShapeOk s := by
  simp only [checkShape, unit_bind_eq_ok, failIf_eq_ok, rejectZero_eq_ok]
  rfl

def validateContinuationShapesStructure (shapes : List RgkContinuationAllocationShape) :
    Except RgkAssetError UInt64 := do
  failIf (shapes = []) .emptyContinuationShape
  sumDistinct checkShape RgkContinuationAllocationShape.outputIndex .duplicateContinuationOutput
    RgkContinuationAllocationShape.amount .supplyOverflow 0 [] 0 shapes

def validateContinuationShapesStructureAllowEmpty (shapes : List RgkContinuationAllocationShape)
    (burn : Option RgkBurnProof) : Except RgkAssetError UInt64 :=
  if shapes = [] then
    if burn.isSome then .ok 0 else .error .emptyContinuationShape
  else validateContinuationShapesStructure shapes

lemma validateContinuationShapesStructureAllowEmpty_inv
    {shapes : List RgkContinuationAllocationShape} {burn : Option RgkBurnProof} {supply : UInt64}
    (h : validateContinuationShapesStructureAllowEmpty shapes burn = .ok supply) :
    (∀ s ∈ shapes, ShapeOk s) ∧
      (shapes.map RgkContinuationAllocationShape.outputIndex).Nodup ∧
      supply.toNat = natSum RgkContinuationAllocationShape.amount shapes ∧
      (shapes = [] → burn.isSome = true) := by
  unfold validateContinuationShapesStructureAllowEmpty at h
  split_ifs at h with hnil hburn
  · cases h
    rw [hnil]
    simp [hburn]
  · rw [validateContinuationShapesStructure, unit_bind_eq_ok,
      sumDistinct_eq_ok checkShape_eq_ok] at h
    obtain ⟨-, hok, hdistinct, -, hsum⟩ := h
    exact ⟨hok, hdistinct, by simpa using hsum, fun he => absurd he hnil⟩

end Shapes

section Plan
variable (H : List UInt8 → Bytes32)

/-- What the digest of the state that a plan consumes is computed from. -/
def RgkContinuationPlan.previousInput (p : RgkContinuationPlan) (policyCommitment : Bytes32) :
    RgkStateDigestInput :=
  { assetId := p.assetId, totalSupply := p.totalSupply, allocations := p.spentAllocations,
    laneId := p.laneId, privacyPolicy := p.privacyPolicy, policyCommitment := policyCommitment,
    metadataCommitment := p.metadataCommitment, ownerCommitment := p.previousOwnerCommitment }

def RgkContinuationPlan.validateStructure (p : RgkContinuationPlan) :
    Except RgkAssetError Unit := do
  validateCommon p.schemaId p.assetId p.totalSupply p.laneId p.proofPolicy
  validateMetadataCommitment p.metadataCommitment
  validateOwnerCommitment p.previousOwnerCommitment "previous"
  validateOwnerCommitment p.newOwnerCommitment "new"
  validateOwnershipHandoff p.previousOwnerCommitment p.newOwnerCommitment
    p.ownershipAuthorizationCommitment
  rejectZero p.previousStateDigest .zeroPreviousStateDigest
  failIf (p.spentAllocations = []) .emptyAllocations
  let spentSupply ← validateAllocationSetStructure p.chain p.spentAllocations
  let policyCommitment ← policyCommitment H p.proofPolicy
  let computedPrevious := stateDigestForAllocations H
    (RgkContinuationPlan.previousInput p policyCommitment)
  failIf (computedPrevious ≠ p.previousStateDigest)
    (.previousStateDigestMismatch p.previousStateDigest computedPrevious)
  let newSupply ← validateContinuationShapesStructureAllowEmpty p.newAllocationShapes p.burn
  let _ ← validateSupplyDelta spentSupply newSupply p.burn

/-- The report of a plan with the supplies its checks computed. -/
def RgkContinuationPlan.reportWith (p : RgkContinuationPlan)
    (spentSupply newSupply burnedSupply : UInt64) (policyCommitment : Bytes32) :
    RgkContinuationReport :=
  let shapeRoot := continuationShapeRoot H p.chain p.newAllocationShapes
  { chain := p.chain, schemaId := p.schemaId, assetId := p.assetId,
    totalSupply := p.totalSupply, metadataCommitment := p.metadataCommitment,
    previousOwnerCommitment := p.previousOwnerCommitment,
    newOwnerCommitment := p.newOwnerCommitment,
    ownershipAuthorizationCommitment := p.ownershipAuthorizationCommitment,
    spentSupply := spentSupply, newSupply := newSupply, burnedSupply := burnedSupply,
    burnAuthorizationCommitment := burnAuthorizationCommitment p.burn,
    spentAllocationCount := p.spentAllocations.length,
    newAllocationCount := p.newAllocationShapes.length,
    laneId := p.laneId, privacyPolicy := p.privacyPolicy,
    policyCommitment := policyCommitment, previousStateDigest := p.previousStateDigest,
    shapeRoot := shapeRoot,
    commitment := commitmentUnchecked H p policyCommitment shapeRoot }

def RgkContinuationPlan.reportUnchecked (p : RgkContinuationPlan) :
    Except RgkAssetError RgkContinuationReport := do
  let spentSupply ← validateAllocationSetStructure p.chain p.spentAllocations
  let newSupply ← validateContinuationShapesStructureAllowEmpty p.newAllocationShapes p.burn
  let burnedSupply ← validateSupplyDelta spentSupply newSupply p.burn
  let policyCommitment ← policyCommitment H p.proofPolicy
  .ok (RgkContinuationPlan.reportWith H p spentSupply newSupply burnedSupply policyCommitment)

def RgkContinuationPlan.validate (p : RgkContinuationPlan) :
    Except RgkAssetError RgkContinuationReport := do
  RgkContinuationPlan.validateStructure H p
  RgkContinuationPlan.reportUnchecked H p

def RgkContinuationPlan.validateForProductionZk (p : RgkContinuationPlan) :
    Except RgkAssetError RgkContinuationReport := do
  RgkContinuationPlan.validateStructure H p
  let _ ← RgkAllocationProofShape.requireCounts p.spentAllocations.length
    p.newAllocationShapes.length
  RgkContinuationPlan.reportUnchecked H p

/-- A planned allocation, anchored in the transaction that carries the transition. -/
def RgkContinuationPlan.anchorShape (p : RgkContinuationPlan) (witnessTxid : Bytes32)
    (daaScore confirmationDepth : UInt64) (s : RgkContinuationAllocationShape) : RgkAllocation :=
  { anchor := { chain := p.chain, covenantOutpoint := ⟨witnessTxid, s.outputIndex⟩,
                covenantId := s.covenantId, witnessTxid := witnessTxid, daaScore := daaScore,
                confirmationDepth := confirmationDepth }
    amount := s.amount
    encryptedNoteCommitment := s.encryptedNoteCommitment }

def RgkContinuationPlan.transitionAt (p : RgkContinuationPlan) (witnessTxid : Bytes32)
    (daaScore confirmationDepth : UInt64) : RgkTransition :=
  { chain := p.chain, schemaId := p.schemaId, assetId := p.assetId,
    totalSupply := p.totalSupply, metadataCommitment := p.metadataCommitment,
    previousOwnerCommitment := p.previousOwnerCommitment,
    newOwnerCommitment := p.newOwnerCommitment,
    ownershipAuthorizationCommitment := p.ownershipAuthorizationCommitment,
    previousStateDigest := p.previousStateDigest, spentAllocations := p.spentAllocations,
    newAllocations := p.newAllocationShapes.map
      (RgkContinuationPlan.anchorShape p witnessTxid daaScore confirmationDepth),
    burn := p.burn, witnessTxid := witnessTxid, laneId := p.laneId,
    privacyPolicy := p.privacyPolicy, proofPolicy := p.proofPolicy }

def RgkContinuationPlan.finalize (p : RgkContinuationPlan) (witnessTxid : Bytes32)
    (daaScore confirmationDepth : UInt64) : Except RgkAssetError RgkFinalizedContinuation := do
  let continuationReport ← RgkContinuationPlan.validate H p
  let transition := RgkContinuationPlan.transitionAt p witnessTxid daaScore confirmationDepth
  let transitionReport ← RgkTransition.validate H transition
  .ok ⟨continuationReport.commitment, transition, transitionReport⟩

def RgkContinuationPlan.finalizeForProductionZk (p : RgkContinuationPlan) (witnessTxid : Bytes32)
    (daaScore confirmationDepth : UInt64) : Except RgkAssetError RgkFinalizedContinuation := do
  let _ ← RgkContinuationPlan.validateForProductionZk H p
  let finalized ← RgkContinuationPlan.finalize H p witnessTxid daaScore confirmationDepth
  let _ ← RgkAllocationProofShape.requireCounts finalized.transition.spentAllocations.length
    finalized.transition.newAllocations.length
  .ok finalized

end Plan

section Reports
variable {H : List UInt8 → Bytes32} {p : RgkContinuationPlan} {witnessTxid : Bytes32}
  {daaScore confirmationDepth spentSupply newSupply burnedSupply : UInt64}
  {policyCommitment : Bytes32}

/-- The reports of a plan and of its transition agree wherever they speak of the same thing. -/
structure ReportsAgree (tr : RgkTransitionReport) (cr : RgkContinuationReport) : Prop where
  chain : tr.chain = cr.chain
  schemaId : tr.schemaId = cr.schemaId
  assetId : tr.assetId = cr.assetId
  totalSupply : tr.totalSupply = cr.totalSupply
  metadataCommitment : tr.metadataCommitment = cr.metadataCommitment
  previousOwnerCommitment : tr.previousOwnerCommitment = cr.previousOwnerCommitment
  newOwnerCommitment : tr.newOwnerCommitment = cr.newOwnerCommitment
  ownershipAuthorizationCommitment :
    tr.ownershipAuthorizationCommitment = cr.ownershipAuthorizationCommitment
  spentSupply : tr.spentSupply = cr.spentSupply
  newSupply : tr.newSupply = cr.newSupply
  burnedSupply : tr.burnedSupply = cr.burnedSupply
  burnAuthorizationCommitment : tr.burnAuthorizationCommitment = cr.burnAuthorizationCommitment
  spentAllocationCount : tr.spentAllocationCount = cr.spentAllocationCount
  newAllocationCount : tr.newAllocationCount = cr.newAllocationCount
  laneId : tr.laneId = cr.laneId
  privacyPolicy : tr.privacyPolicy = cr.privacyPolicy
  policyCommitment : tr.policyCommitment = cr.policyCommitment
  previousStateDigest : tr.previousStateDigest = cr.previousStateDigest

lemma reportWith_agree :
    ReportsAgree
      (RgkTransition.reportWith H
        (RgkContinuationPlan.transitionAt p witnessTxid daaScore confirmationDepth) spentSupply
        newSupply burnedSupply policyCommitment)
      (RgkContinuationPlan.reportWith H p spentSupply newSupply burnedSupply policyCommitment) := by
  have hcount : (RgkContinuationPlan.transitionAt p witnessTxid daaScore
      confirmationDepth).newAllocations.length = p.newAllocationShapes.length := by
    simp [RgkContinuationPlan.transitionAt]
  exact ⟨rfl, rfl, rfl, rfl, rfl, rfl, rfl, rfl, rfl, rfl, rfl, rfl, rfl, hcount, rfl, rfl, rfl, rfl⟩

end Reports

section Inversion
variable {H : List UInt8 → Bytes32} {p : RgkContinuationPlan}

/-- A validated plan reports its shape root and commitment over the plan's own policy. -/
theorem RgkContinuationPlan.validate_inv {r : RgkContinuationReport}
    (h : RgkContinuationPlan.validate H p = .ok r) :
    r.shapeRoot = continuationShapeRoot H p.chain p.newAllocationShapes ∧
      r.commitment = commitmentUnchecked H p (policyCommitmentBytes H p.proofPolicy)
        (continuationShapeRoot H p.chain p.newAllocationShapes) ∧
      (p.newAllocationShapes.map RgkContinuationAllocationShape.outputIndex).Nodup := by
  obtain ⟨-, hrep⟩ := unit_bind_eq_ok.mp h
  obtain ⟨spent, -, hrep⟩ := bind_eq_ok.mp hrep
  obtain ⟨new, hnew, hrep⟩ := bind_eq_ok.mp hrep
  obtain ⟨burned, -, hrep⟩ := bind_eq_ok.mp hrep
  obtain ⟨pc, hpc, hrep⟩ := bind_eq_ok.mp hrep
  obtain ⟨-, rfl⟩ := policyCommitment_eq_ok.mp hpc
  rw [← Except.ok.inj hrep]
  exact ⟨rfl, rfl, (validateContinuationShapesStructureAllowEmpty_inv hnew).2.1⟩

/-- A plan finalized for production is validated, has a supported shape, and its transition is
accepted. -/
theorem RgkContinuationPlan.finalizeForProductionZk_inv {witnessTxid : Bytes32}
    {daaScore confirmationDepth : UInt64} {f : RgkFinalizedContinuation}
    (h : RgkContinuationPlan.finalizeForProductionZk H p witnessTxid daaScore confirmationDepth =
      .ok f) :
    f.transition = RgkContinuationPlan.transitionAt p witnessTxid daaScore confirmationDepth ∧
      AcceptedTransition H f.transition f.transitionReport ∧
      ∃ shape : RgkAllocationProofShape, shape.spentCount = f.transition.spentAllocations.length ∧
        shape.newCount = f.transition.newAllocations.length := by
  obtain ⟨_, -, h⟩ := bind_eq_ok.mp h
  obtain ⟨f', hf, h⟩ := bind_eq_ok.mp h
  obtain ⟨shape, hshape, h⟩ := bind_eq_ok.mp h
  obtain rfl : f' = f := Except.ok.inj h
  obtain ⟨_, -, hf⟩ := bind_eq_ok.mp hf
  obtain ⟨r, hr, hf⟩ := bind_eq_ok.mp hf
  have hcounts := RgkAllocationProofShape.fromCounts_eq_some.mp (okOr_eq_ok.mp hshape)
  rw [← Except.ok.inj hf] at hcounts ⊢
  exact ⟨rfl, RgkTransition.validate_inv hr, shape, hcounts⟩

end Inversion

section Acceptance
variable {H : List UInt8 → Bytes32} {p : RgkContinuationPlan} {witnessTxid : Bytes32}
  {daaScore confirmationDepth : UInt64} {r : RgkTransitionReport}

theorem RgkContinuationPlan.validate_of_accepted
    (ha : AcceptedTransition H
      (RgkContinuationPlan.transitionAt p witnessTxid daaScore confirmationDepth) r)
    (hshapes : validateContinuationShapesStructureAllowEmpty p.newAllocationShapes p.burn =
      .ok r.newSupply) :
    RgkContinuationPlan.validateStructure H p = .ok () ∧
      RgkContinuationPlan.reportUnchecked H p = .ok (RgkContinuationPlan.reportWith H p
        r.spentSupply r.newSupply r.burnedSupply (policyCommitmentBytes H p.proofPolicy)) := by
  have hspent : validateAllocationSetStructure p.chain p.spentAllocations = .ok r.spentSupply :=
    validateAllocationSetStructure_eq_ok.mpr ⟨ha.spent_ne, ha.spent⟩
  have hdelta : validateSupplyDelta r.spentSupply r.newSupply p.burn = .ok r.burnedSupply :=
    validateSupplyDelta_eq_ok.mpr ⟨ha.delta, ha.burn⟩
  have hpolicy : policyCommitment H p.proofPolicy = .ok (policyCommitmentBytes H p.proofPolicy) :=
    policyCommitment_of_common ha.common
  constructor
  · simp only [RgkContinuationPlan.validateStructure, unit_bind_eq_ok, validateMetadataCommitment,
      validateOwnerCommitment, rejectZero_eq_ok, failIf_eq_ok]
    refine ⟨ha.common, ha.metadata, ha.previousOwner, ha.newOwner, ha.handoff,
      ha.previousDigest_ne, ha.spent_ne, bind_eq_ok.mpr ⟨_, hspent, bind_eq_ok.mpr ⟨_, hpolicy, ?_⟩⟩⟩
    refine unit_bind_eq_ok.mpr ⟨failIf_eq_ok.mpr (not_not.mpr ha.previousDigest), ?_⟩
    exact bind_eq_ok.mpr ⟨_, hshapes, bind_eq_ok.mpr ⟨_, hdelta, rfl⟩⟩
  · exact bind_eq_ok.mpr ⟨_, hspent, bind_eq_ok.mpr ⟨_, hshapes, bind_eq_ok.mpr ⟨_, hdelta,
      bind_eq_ok.mpr ⟨_, hpolicy, rfl⟩⟩⟩⟩

theorem RgkContinuationPlan.finalizeForProductionZk_of_accepted
    (ha : AcceptedTransition H
      (RgkContinuationPlan.transitionAt p witnessTxid daaScore confirmationDepth) r)
    (hshapes : validateContinuationShapesStructureAllowEmpty p.newAllocationShapes p.burn =
      .ok r.newSupply) {shape : RgkAllocationProofShape}
    (hshape : RgkAllocationProofShape.fromCounts p.spentAllocations.length
      p.newAllocationShapes.length = some shape) :
    ∃ commitment, RgkContinuationPlan.finalizeForProductionZk H p witnessTxid daaScore
      confirmationDepth = .ok ⟨commitment,
        RgkContinuationPlan.transitionAt p witnessTxid daaScore confirmationDepth, r⟩ := by
  obtain ⟨hstructure, hreport⟩ := RgkContinuationPlan.validate_of_accepted ha hshapes
  have hcounts : RgkAllocationProofShape.requireCounts p.spentAllocations.length
      p.newAllocationShapes.length = .ok shape := okOr_eq_ok.mpr hshape
  have hnew : (RgkContinuationPlan.transitionAt p witnessTxid daaScore
      confirmationDepth).newAllocations.length = p.newAllocationShapes.length := by
    simp [RgkContinuationPlan.transitionAt]
  have hproduction : RgkContinuationPlan.validateForProductionZk H p = .ok _ :=
    unit_bind_eq_ok.mpr ⟨hstructure, bind_eq_ok.mpr ⟨_, hcounts, hreport⟩⟩
  have hvalidate : RgkContinuationPlan.validate H p = .ok _ :=
    unit_bind_eq_ok.mpr ⟨hstructure, hreport⟩
  refine ⟨_, bind_eq_ok.mpr ⟨_, hproduction, bind_eq_ok.mpr ⟨_, bind_eq_ok.mpr ⟨_, hvalidate,
    bind_eq_ok.mpr ⟨_, RgkTransition.validate_of_accepted ha, rfl⟩⟩, bind_eq_ok.mpr ⟨shape, ?_, rfl⟩⟩⟩⟩
  rw [hnew]
  exact hcounts

end Acceptance
end RgkProtocol.ContinuationPlan
