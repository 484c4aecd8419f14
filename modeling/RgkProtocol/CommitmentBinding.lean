import RgkProtocol.Finalization

/-!
# What the commitments identify

Roots and state digests sort before they hash, so they identify a set of allocations or shapes and
not a list. The continuation commitment is made of such roots. The transition digest is not: it
hashes both allocation lists as they stand.
-/
namespace RgkProtocol.CommitmentBinding
open ByteStrings Hashing CoreTypes Checked AssetTypes AssetEncoding AssetValidation ContinuationPlan
open Finalization

section Roots
variable {H : List UInt8 → Bytes32} {Q : Set (List UInt8)}

lemma allocationRoot_eq_of_perm {as bs : List RgkAllocation}
    (hd : (as.map RgkAllocation.outpoint).Nodup) (h : as.Perm bs) :
    allocationRoot H as = allocationRoot H bs := by
  rw [allocationRoot, allocationRoot, allocationRootPayload, allocationRootPayload,
    sortByKey_allocationKey_of_perm hd h]

theorem allocationRoot_eq_iff (hcf : CollisionFree H Q) {as bs : List RgkAllocation}
    (hd : (as.map RgkAllocation.outpoint).Nodup)
    (has : taggedPreimage "rgk:asset:allocation-root:v1" (allocationRootPayload as) ∈ Q)
    (hbs : taggedPreimage "rgk:asset:allocation-root:v1" (allocationRootPayload bs) ∈ Q) :
    allocationRoot H as = allocationRoot H bs ↔ as.Perm bs :=
  ⟨fun h => perm_of_allocationRootPayload_eq (payload_eq_of_domainHashStr_eq hcf has hbs h),
    allocationRoot_eq_of_perm hd⟩

theorem stateDigest_eq_iff (hcf : CollisionFree H Q) {s t : RgkStateDigestInput}
    (hd : (s.allocations.map RgkAllocation.outpoint).Nodup)
    (hs : ∀ x ∈ stateDigestPreimages H s, x ∈ Q) (ht : ∀ x ∈ stateDigestPreimages H t, x ∈ Q) :
    stateDigestForAllocations H s = stateDigestForAllocations H t ↔ SameState s t := by
  refine ⟨sameState_of_stateDigest_eq hcf hs ht, fun h => ?_⟩
  rw [stateDigestForAllocations, stateDigestForAllocations, stateDigestPayload, stateDigestPayload,
    stateDigestPayloadWith, stateDigestPayloadWith, allocationRoot_eq_of_perm hd h.allocations,
    h.assetId, h.totalSupply, h.policyCommitment, h.metadataCommitment, h.ownerCommitment,
    h.privacyPolicy, h.laneId]

lemma continuationShapeRoot_eq_of_perm {chain : KaspaChainId}
    {xs ys : List RgkContinuationAllocationShape}
    (hd : (xs.map RgkContinuationAllocationShape.outputIndex).Nodup) (h : xs.Perm ys) :
    continuationShapeRoot H chain xs = continuationShapeRoot H chain ys := by
  rw [continuationShapeRoot, continuationShapeRoot, continuationShapePayload,
    continuationShapePayload, sortByKey_shapeKey_of_perm hd h]

theorem continuationShapeRoot_eq_iff (hcf : CollisionFree H Q) {chain : KaspaChainId}
    {xs ys : List RgkContinuationAllocationShape}
    (hd : (xs.map RgkContinuationAllocationShape.outputIndex).Nodup)
    (hxs : taggedPreimage "rgk:continuation:shape-root:v1" (continuationShapePayload chain xs) ∈ Q)
    (hys : taggedPreimage "rgk:continuation:shape-root:v1" (continuationShapePayload chain ys) ∈ Q) :
    continuationShapeRoot H chain xs = continuationShapeRoot H chain ys ↔ xs.Perm ys :=
  ⟨fun h => perm_of_continuationShapePayload_eq (payload_eq_of_domainHashStr_eq hcf hxs hys h),
    continuationShapeRoot_eq_of_perm hd⟩

end Roots

section Plans

/-- The same plan, up to the order of its lists and the proof policy behind the commitment. -/
structure SamePlan (H : List UInt8 → Bytes32) (p q : RgkContinuationPlan) : Prop where
  chain : p.chain = q.chain
  schemaId : p.schemaId = q.schemaId
  assetId : p.assetId = q.assetId
  totalSupply : p.totalSupply = q.totalSupply
  metadataCommitment : p.metadataCommitment = q.metadataCommitment
  previousOwnerCommitment : p.previousOwnerCommitment = q.previousOwnerCommitment
  newOwnerCommitment : p.newOwnerCommitment = q.newOwnerCommitment
  ownershipAuthorizationCommitment :
    p.ownershipAuthorizationCommitment = q.ownershipAuthorizationCommitment
  previousStateDigest : p.previousStateDigest = q.previousStateDigest
  spentAllocations : p.spentAllocations.Perm q.spentAllocations
  newAllocationShapes : p.newAllocationShapes.Perm q.newAllocationShapes
  burn : p.burn = q.burn
  laneId : p.laneId = q.laneId
  privacyPolicy : p.privacyPolicy = q.privacyPolicy
  policyCommitment : policyCommitmentBytes H p.proofPolicy = policyCommitmentBytes H q.proofPolicy

/-- The strings hashed on the way to a continuation commitment. -/
def planPreimages (H : List UInt8 → Bytes32) (p : RgkContinuationPlan) : List (List UInt8) :=
  [taggedPreimage "rgk:asset:allocation-root:v1" (allocationRootPayload p.spentAllocations),
    taggedPreimage "rgk:continuation:shape-root:v1"
      (continuationShapePayload p.chain p.newAllocationShapes),
    taggedPreimage "rgk:continuation:phase1:v2"
      (continuationCommitmentPayload H p (policyCommitmentBytes H p.proofPolicy)
        (continuationShapeRoot H p.chain p.newAllocationShapes))]

variable {H : List UInt8 → Bytes32} {Q : Set (List UInt8)} {p q : RgkContinuationPlan}
  {rp rq : RgkContinuationReport}

lemma samePlan_of_commitment_eq (hcf : CollisionFree H Q)
    (hp : ∀ x ∈ planPreimages H p, x ∈ Q) (hq : ∀ x ∈ planPreimages H q, x ∈ Q)
    (h : commitmentUnchecked H p (policyCommitmentBytes H p.proofPolicy)
        (continuationShapeRoot H p.chain p.newAllocationShapes) =
      commitmentUnchecked H q (policyCommitmentBytes H q.proofPolicy)
        (continuationShapeRoot H q.chain q.newAllocationShapes)) : SamePlan H p q := by
  simp only [planPreimages, List.forall_mem_cons] at hp hq
  obtain ⟨hpspent, hpshapes, hpcommit, -⟩ := hp
  obtain ⟨hqspent, hqshapes, hqcommit, -⟩ := hq
  have hpayload := payload_eq_of_domainHashStr_eq hcf hpcommit hqcommit h
  simp only [continuationCommitmentPayload, continuationCommitmentPayloadWith, governancePayload,
    List.cons_append, List.nil_append, List.cons.injEq, KaspaChainId.asU8_inj, Bytes.append_inj,
    le64_append_inj, encodeBurnProof_append_inj, LanePrivacyPolicy.asU8_inj,
    Bytes.toList_inj] at hpayload
  obtain ⟨hchain, hschema, hasset, htotal, hprevious, hspent, hshapes, hburn, hlane, hprivacy,
    hpolicy, hmetadata, hpreviousOwner, hnewOwner, hauthorization⟩ := hpayload
  rw [hchain] at hshapes hpshapes
  have hallocations := payload_eq_of_domainHashStr_eq hcf hpspent hqspent hspent
  have hlist := payload_eq_of_domainHashStr_eq hcf hpshapes hqshapes hshapes
  exact ⟨hchain, hschema, hasset, htotal, hmetadata, hpreviousOwner, hnewOwner, hauthorization,
    hprevious, perm_of_allocationRootPayload_eq hallocations,
    perm_of_continuationShapePayload_eq hlist, hburn, hlane, hprivacy, hpolicy⟩

lemma planPreimages_eq_of_samePlan
    (hspent : (p.spentAllocations.map RgkAllocation.outpoint).Nodup)
    (hshapes : (p.newAllocationShapes.map RgkContinuationAllocationShape.outputIndex).Nodup)
    (h : SamePlan H p q) : planPreimages H p = planPreimages H q := by
  rw [planPreimages, planPreimages, continuationShapeRoot_eq_of_perm hshapes h.newAllocationShapes,
    allocationRootPayload, allocationRootPayload,
    sortByKey_allocationKey_of_perm hspent h.spentAllocations, continuationShapePayload,
    continuationShapePayload, sortByKey_shapeKey_of_perm hshapes h.newAllocationShapes,
    continuationCommitmentPayload, continuationCommitmentPayload,
    allocationRoot_eq_of_perm hspent h.spentAllocations, continuationCommitmentPayloadWith,
    continuationCommitmentPayloadWith, h.chain, h.schemaId, h.assetId, h.totalSupply,
    h.previousStateDigest, h.burn, h.laneId, h.privacyPolicy, h.policyCommitment,
    h.metadataCommitment, h.previousOwnerCommitment, h.newOwnerCommitment,
    h.ownershipAuthorizationCommitment]

lemma commitment_eq_of_samePlan (hspent : (p.spentAllocations.map RgkAllocation.outpoint).Nodup)
    (hshapes : (p.newAllocationShapes.map RgkContinuationAllocationShape.outputIndex).Nodup)
    (h : SamePlan H p q) :
    commitmentUnchecked H p (policyCommitmentBytes H p.proofPolicy)
        (continuationShapeRoot H p.chain p.newAllocationShapes) =
      commitmentUnchecked H q (policyCommitmentBytes H q.proofPolicy)
        (continuationShapeRoot H q.chain q.newAllocationShapes) := by
  have hstrings := planPreimages_eq_of_samePlan hspent hshapes h
  simp only [planPreimages, List.cons.injEq] at hstrings
  exact congrArg H hstrings.2.2.1

theorem commitment_eq_iff (hcf : CollisionFree H Q)
    (hvp : RgkContinuationPlan.validate H p = .ok rp)
    (hvq : RgkContinuationPlan.validate H q = .ok rq)
    (hp : ∀ x ∈ planPreimages H p, x ∈ Q) (hq : ∀ x ∈ planPreimages H q, x ∈ Q) :
    rp.commitment = rq.commitment ↔ SamePlan H p q := by
  obtain ⟨-, hcp, hdistinct⟩ := RgkContinuationPlan.validate_inv hvp
  obtain ⟨-, hcq, -⟩ := RgkContinuationPlan.validate_inv hvq
  rw [hcp, hcq]
  exact ⟨samePlan_of_commitment_eq hcf hp hq,
    commitment_eq_of_samePlan (acceptedPlan_of_validate hvp).spent.distinct hdistinct⟩

end Plans

section Transitions

/-- The same transition, up to the proof policy behind the commitment. -/
structure SameTransition (H : List UInt8 → Bytes32) (t u : RgkTransition) : Prop where
  chain : t.chain = u.chain
  schemaId : t.schemaId = u.schemaId
  assetId : t.assetId = u.assetId
  totalSupply : t.totalSupply = u.totalSupply
  metadataCommitment : t.metadataCommitment = u.metadataCommitment
  previousOwnerCommitment : t.previousOwnerCommitment = u.previousOwnerCommitment
  newOwnerCommitment : t.newOwnerCommitment = u.newOwnerCommitment
  ownershipAuthorizationCommitment :
    t.ownershipAuthorizationCommitment = u.ownershipAuthorizationCommitment
  previousStateDigest : t.previousStateDigest = u.previousStateDigest
  spentAllocations : t.spentAllocations = u.spentAllocations
  newAllocations : t.newAllocations = u.newAllocations
  burn : t.burn = u.burn
  witnessTxid : t.witnessTxid = u.witnessTxid
  laneId : t.laneId = u.laneId
  privacyPolicy : t.privacyPolicy = u.privacyPolicy
  policyCommitment : policyCommitmentBytes H t.proofPolicy = policyCommitmentBytes H u.proofPolicy

/-- The string hashed for a transition digest. -/
def transitionPreimage (H : List UInt8 → Bytes32) (t : RgkTransition) : List UInt8 :=
  let policyCommitment := policyCommitmentBytes H t.proofPolicy
  taggedPreimage "rgk:asset:transition:v2" (transitionDigestPayload t
    (stateDigestForAllocations H (RgkTransition.newInput t policyCommitment)) policyCommitment)

variable {H : List UInt8 → Bytes32} {Q : Set (List UInt8)} {t u : RgkTransition}
  {rt ru : RgkTransitionReport}

lemma taggedAllocations_pair_inj {i o : UInt8} {as bs cs ds : List RgkAllocation}
    (has : as.length < 2^32) (hbs : bs.length < 2^32)
    (h : taggedAllocations i as ++ taggedAllocations o cs =
      taggedAllocations i bs ++ taggedAllocations o ds) : as = bs ∧ cs = ds := by
  have hcount : as.length = bs.length := by
    have hle := h
    rw [taggedAllocations, List.append_assoc, taggedAllocations, taggedAllocations,
      List.append_assoc, le32_append_inj] at hle
    have hnat := congrArg UInt32.toNat hle.1
    rwa [UInt32.toNat_ofNat_of_lt' has, UInt32.toNat_ofNat_of_lt' hbs] at hnat
  obtain ⟨hab, hcd⟩ := taggedAllocations_append_inj hcount h
  exact ⟨hab, taggedAllocations_injective o hcd⟩

theorem sameTransition_of_digest_eq (hcf : CollisionFree H Q)
    (hvt : RgkTransition.validate H t = .ok rt) (hvu : RgkTransition.validate H u = .ok ru)
    (hlt : t.spentAllocations.length < 2^32) (hlu : u.spentAllocations.length < 2^32)
    (ht : transitionPreimage H t ∈ Q) (hu : transitionPreimage H u ∈ Q)
    (h : rt.transitionDigest = ru.transitionDigest) : SameTransition H t u := by
  rw [(RgkTransition.validate_inv hvt).report, (RgkTransition.validate_inv hvu).report] at h
  have hpayload := payload_eq_of_domainHashStr_eq hcf ht hu h
  simp only [transitionDigestPayload, governancePayload, List.append_assoc, List.cons_append,
    List.nil_append, List.cons.injEq, KaspaChainId.asU8_inj, Bytes.append_inj, le64_append_inj,
    encodeBurnProof_append_inj, LanePrivacyPolicy.asU8_inj] at hpayload
  obtain ⟨hchain, hschema, hasset, htotal, hprevious, -, htxid, hburn, hlane, hprivacy, hpolicy,
    hmetadata, hpreviousOwner, hnewOwner, hauthorization, hlists⟩ := hpayload
  obtain ⟨hspent, hnew⟩ := taggedAllocations_pair_inj hlt hlu hlists
  exact ⟨hchain, hschema, hasset, htotal, hmetadata, hpreviousOwner, hnewOwner, hauthorization,
    hprevious, hspent, hnew, hburn, htxid, hlane, hprivacy, hpolicy⟩

end Transitions

/-- Allocation roots, state digests and shape roots identify their lists up to order, and so does
the continuation commitment of a validated plan. The digest of a validated transition identifies it
with the order of its lists. -/
theorem commitments_identify_up_to_order (H : List UInt8 → Bytes32) (Q : Set (List UInt8))
    (hcf : CollisionFree H Q) :
    (∀ as bs : List RgkAllocation, (as.map RgkAllocation.outpoint).Nodup →
      (bs.map RgkAllocation.outpoint).Nodup →
      taggedPreimage "rgk:asset:allocation-root:v1" (allocationRootPayload as) ∈ Q →
      taggedPreimage "rgk:asset:allocation-root:v1" (allocationRootPayload bs) ∈ Q →
      (allocationRoot H as = allocationRoot H bs ↔ as.Perm bs)) ∧
    (∀ s t : RgkStateDigestInput, (s.allocations.map RgkAllocation.outpoint).Nodup →
      (t.allocations.map RgkAllocation.outpoint).Nodup →
      (∀ x ∈ stateDigestPreimages H s, x ∈ Q) → (∀ x ∈ stateDigestPreimages H t, x ∈ Q) →
      (stateDigestForAllocations H s = stateDigestForAllocations H t ↔ SameState s t)) ∧
    (∀ (chain : KaspaChainId) (xs ys : List RgkContinuationAllocationShape),
      (xs.map RgkContinuationAllocationShape.outputIndex).Nodup →
      (ys.map RgkContinuationAllocationShape.outputIndex).Nodup →
      taggedPreimage "rgk:continuation:shape-root:v1" (continuationShapePayload chain xs) ∈ Q →
      taggedPreimage "rgk:continuation:shape-root:v1" (continuationShapePayload chain ys) ∈ Q →
      (continuationShapeRoot H chain xs = continuationShapeRoot H chain ys ↔ xs.Perm ys)) ∧
    (∀ (p q : RgkContinuationPlan) (rp rq : RgkContinuationReport),
      RgkContinuationPlan.validate H p = .ok rp → RgkContinuationPlan.validate H q = .ok rq →
      (∀ x ∈ planPreimages H p, x ∈ Q) → (∀ x ∈ planPreimages H q, x ∈ Q) →
      (rp.commitment = rq.commitment ↔ SamePlan H p q)) ∧
    ∀ (t u : RgkTransition) (rt ru : RgkTransitionReport),
      RgkTransition.validate H t = .ok rt → RgkTransition.validate H u = .ok ru →
      t.spentAllocations.length < 2^32 → u.spentAllocations.length < 2^32 →
      transitionPreimage H t ∈ Q → transitionPreimage H u ∈ Q →
      rt.transitionDigest = ru.transitionDigest → SameTransition H t u :=
  ⟨fun _ _ hd _ => allocationRoot_eq_iff hcf hd, fun _ _ hd _ => stateDigest_eq_iff hcf hd,
    fun _ _ _ hd _ => continuationShapeRoot_eq_iff hcf hd, fun _ _ _ _ => commitment_eq_iff hcf,
    fun _ _ _ _ => sameTransition_of_digest_eq hcf⟩

section Samples

def twoShapes : List RgkContinuationAllocationShape :=
  [⟨0, Bytes.fill 32 0x33, 3, Bytes.fill 32 0x44⟩, ⟨1, Bytes.fill 32 0x33, 7, Bytes.fill 32 0x44⟩]

/-- The sample plan with its units in two outputs, listed in a given order. -/
def orderedPlan (shapes : List RgkContinuationAllocationShape) : RgkContinuationPlan :=
  { samplePlan with newAllocationShapes := shapes }

def anchoredPlan (shapes : List RgkContinuationAllocationShape) : RgkTransition :=
  RgkContinuationPlan.transitionAt (orderedPlan shapes) (Bytes.fill 32 2) 100 10

def orderStrings : List (List UInt8) :=
  transitionPreimage Sha256.digest (anchoredPlan twoShapes) ::
    transitionPreimage Sha256.digest (anchoredPlan twoShapes.reverse) ::
      planPreimages Sha256.digest (orderedPlan twoShapes)

lemma samePlan_reverse :
    SamePlan Sha256.digest (orderedPlan twoShapes) (orderedPlan twoShapes.reverse) :=
  ⟨rfl, rfl, rfl, rfl, rfl, rfl, rfl, rfl, rfl, List.Perm.refl _, (List.reverse_perm _).symm, rfl,
    rfl, rfl, rfl⟩

lemma orderedPlan_finalizes (shapes : List RgkContinuationAllocationShape)
    (h : (RgkContinuationPlan.finalize Sha256.digest (orderedPlan shapes) (Bytes.fill 32 2) 100
      10).toOption.isSome = true) :
    (∃ r, RgkContinuationPlan.validate Sha256.digest (orderedPlan shapes) = .ok r) ∧
      ∃ r, RgkTransition.validate Sha256.digest (anchoredPlan shapes) = .ok r := by
  obtain ⟨f, hf⟩ := exists_ok_of_isSome h
  obtain ⟨rp, hrp, hf⟩ := bind_eq_ok.mp hf
  obtain ⟨rt, hrt, -⟩ := bind_eq_ok.mp hf
  exact ⟨⟨rp, hrp⟩, rt, hrt⟩

end Samples

/-- Reversing the shapes of a plan keeps its commitment and changes its transition digest. -/
theorem commitments_identify_up_to_order_sample :
    ∃ rp rq rt ru, RgkContinuationPlan.validate Sha256.digest (orderedPlan twoShapes) = .ok rp ∧
      RgkContinuationPlan.validate Sha256.digest (orderedPlan twoShapes.reverse) = .ok rq ∧
      RgkTransition.validate Sha256.digest (anchoredPlan twoShapes) = .ok rt ∧
      RgkTransition.validate Sha256.digest (anchoredPlan twoShapes.reverse) = .ok ru ∧
      rp.commitment = rq.commitment ∧ rt.transitionDigest ≠ ru.transitionDigest := by
  have hcf : CollisionFree Sha256.digest {x | x ∈ orderStrings} :=
    CollisionFree.of_nodup (by decide +kernel)
  obtain ⟨-, -, -, hplans, htransitions⟩ :=
    commitments_identify_up_to_order Sha256.digest {x | x ∈ orderStrings} hcf
  obtain ⟨⟨rp, hrp⟩, rt, hrt⟩ := orderedPlan_finalizes twoShapes (by decide +kernel)
  obtain ⟨⟨rq, hrq⟩, ru, hru⟩ := orderedPlan_finalizes twoShapes.reverse (by decide +kernel)
  have hsorted := planPreimages_eq_of_samePlan (by decide) (by decide) samePlan_reverse
  have hstrings : ∀ x ∈ planPreimages Sha256.digest (orderedPlan twoShapes), x ∈ orderStrings :=
    fun x hx => List.mem_cons_of_mem _ (List.mem_cons_of_mem _ hx)
  have hcommitment :=
    (hplans _ _ rp rq hrp hrq hstrings (hsorted ▸ hstrings)).mpr samePlan_reverse
  refine ⟨rp, rq, rt, ru, hrp, hrq, hrt, hru, hcommitment, fun h => ?_⟩
  have hlists := htransitions _ _ rt ru hrt hru (by decide) (by decide) List.mem_cons_self
    (List.mem_cons_of_mem _ List.mem_cons_self) h
  exact absurd hlists.newAllocations (by decide)

end RgkProtocol.CommitmentBinding
