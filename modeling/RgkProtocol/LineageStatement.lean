import RgkProtocol.Finalization
import RgkProtocol.LineageFields
import RgkProtocol.SemanticStatement

/-!
# Statements of finalized lineages

The validator of a semantic statement asks for more than a transition's own checks give: no supply
may exceed the total supply. Only the history of the asset knows that. A plan that continues a
lineage spends its newest state, which holds what is left of the issued supply.
-/
namespace RgkProtocol.LineageStatement
open ByteStrings Hashing CoreTypes CanonicalEncoding Checked AssetTypes AssetEncoding AssetValidation
open AssetLineage LineageFields ContinuationPlan Finalization SemanticStatement

section Supply
variable {H : List UInt8 → Bytes32} {issue : RgkAssetIssue} {ts : List RgkTransition}
  {s : LineageState} {t : RgkTransition} {r : RgkTransitionReport}

theorem Lineage.spent_le_total (hrun : Lineage H issue ts s) (ha : AcceptedTransition H t r)
    (hlink : t.previousStateDigest = s.stateDigest)
    (hcf : CollisionFree H {x | x ∈ lineagePreimages H issue (ts ++ [t])}) :
    r.spentSupply.toNat ≤ t.totalSupply.toNat := by
  have hv := RgkTransition.validate_of_accepted ha
  have hpast := hcf.mono (lineagePreimages_mono ts [t])
  have hissued : t.totalSupply = issue.totalSupply :=
    ((Lineage.fields hrun hpast).2.1.sameAsset ha (hrun.consumes_current hv hlink hcf)).totalSupply
  have hspends : supplyOf t.spentAllocations = supplyOf s.allocations :=
    natSum_perm (hrun.spends_current hv hlink hcf)
  obtain ⟨L, hlive, hburned⟩ := hrun.simulates_ledger hpast
  have hconserved := L.conserved
  rw [hlive, hburned, ← supplyOf_eq_multisetSum] at hconserved
  rw [ha.spent.sum, hspends, hissued]
  omega

end Supply

section Statement
variable {H : List UInt8 → Bytes32} {p : RgkContinuationPlan} {cr : RgkContinuationReport}
  {witnessTxid : Bytes32} {daaScore confirmationDepth : UInt64}

/-- The strings whose digests a statement carries, besides those of the states. -/
def statementPreimages (H : List UInt8 → Bytes32) (p : RgkContinuationPlan) (t : RgkTransition) :
    List (List UInt8) :=
  let policyCommitment := policyCommitmentBytes H p.proofPolicy
  let newStateDigest := stateDigestForAllocations H (RgkTransition.newInput t policyCommitment)
  let shapeRoot := continuationShapeRoot H p.chain p.newAllocationShapes
  [taggedPreimage "rgk:asset:policy:v1" (encodeProofPolicy p.proofPolicy),
    taggedPreimage "rgk:asset:transition:v2"
      (transitionDigestPayload t newStateDigest policyCommitment),
    taggedPreimage "rgk:continuation:shape-root:v1"
      (continuationShapePayload p.chain p.newAllocationShapes),
    taggedPreimage "rgk:continuation:phase1:v2"
      (continuationCommitmentPayload H p policyCommitment shapeRoot)]

/-- The statement of a plan finalized in a transaction. -/
def finalStatement (H : List UInt8 → Bytes32) (p : RgkContinuationPlan) (cr : RgkContinuationReport)
    (witnessTxid : Bytes32) (daaScore confirmationDepth : UInt64) : SemanticTransitionStatement :=
  let report := finalReport H p cr witnessTxid daaScore confirmationDepth
  ofReports report cr (UInt64.ofNat report.spentAllocationCount)
    (UInt64.ofNat report.newAllocationCount)

/-- The digests in the reports are hashes; the remaining fields were checked with the transition,
except for the bound on the supply. -/
theorem finalStatement_valid (hp : AcceptedPlan H p cr)
    (ha : AcceptedTransition H
      (RgkContinuationPlan.transitionAt p witnessTxid daaScore confirmationDepth)
      (finalReport H p cr witnessTxid daaScore confirmationDepth))
    (hle : cr.spentSupply.toNat ≤ p.totalSupply.toNat)
    (hstates : NeverZero H {x | x ∈ RgkTransition.preimages H
      (RgkContinuationPlan.transitionAt p witnessTxid daaScore confirmationDepth)})
    (hcarried : NeverZero H {x | x ∈ statementPreimages H p
      (RgkContinuationPlan.transitionAt p witnessTxid daaScore confirmationDepth)}) :
    ValidStatement (finalStatement H p cr witnessTxid daaScore confirmationDepth) := by
  obtain ⟨hschema, hasset, htotal, hlane, -⟩ := validateCommon_eq_ok.mp hp.common
  obtain ⟨hcount, hspent⟩ := hp.spent.ne_zero (List.length_pos_of_ne_nil hp.spent_ne).ne'
  have hburns : cr.newSupply ≠ 0 ∨ cr.burnedSupply ≠ 0 := by
    rw [← not_and_or]
    rintro ⟨hn, hb⟩
    have hdelta := hp.delta
    rw [hn, hb] at hdelta
    exact hspent (UInt64.toNat_inj.mp hdelta)
  have hallocates : cr.newSupply ≠ 0 → UInt64.ofNat (RgkContinuationPlan.transitionAt p witnessTxid
      daaScore confirmationDepth).newAllocations.length ≠ 0 := fun hn =>
    (ha.new.ne_zero (ha.new.length_ne_zero hn)).1
  simp only [statementPreimages, NeverZero, Set.mem_ofPred_eq, List.mem_cons, List.not_mem_nil,
    or_false, forall_eq_or_imp, forall_eq] at hcarried
  obtain ⟨hpolicy, htransition, hshape, hcommitment⟩ := hcarried
  have hdigest : stateDigestForAllocations H (RgkTransition.newInput
      (RgkContinuationPlan.transitionAt p witnessTxid daaScore confirmationDepth)
      (policyCommitmentBytes H p.proofPolicy)) ≠ Bytes.zero :=
    hstates _ (List.mem_append_right _ (List.mem_cons_of_mem _ (List.mem_singleton_self _)))
  exact
    { schemaId := hschema
      assetId := hasset
      previousStateDigest := hp.previousDigest_ne
      newStateDigest := hdigest
      transitionDigest := htransition
      continuationCommitment := fun h =>
        hcommitment ((congrArg RgkContinuationReport.commitment hp.report).symm.trans h)
      continuationShapeRoot := fun h =>
        hshape ((congrArg RgkContinuationReport.shapeRoot hp.report).symm.trans h)
      laneId := hlane
      policyCommitment := hpolicy
      metadataCommitment := hp.metadata
      previousOwnerCommitment := hp.previousOwner
      newOwnerCommitment := hp.newOwner
      handoff := validateOwnershipHandoff_eq_ok.mp hp.handoff
      moves := Ne.symm ha.changed
      totalSupply := htotal
      spentAllocationCount := hcount
      spentSupply := hspent
      spent_le := UInt64.le_iff_toNat_le.mpr hle
      new_le := UInt64.le_iff_toNat_le.mpr (le_trans (hp.delta ▸ Nat.le_add_right _ _) hle)
      conserved := hp.delta
      allocates_or_burns := hburns.imp_left hallocates
      supplies_or_burns := hburns
      burn := hp.burn.zero_iff }

end Statement

/-- A receipt of the transition that the reports describe. -/
structure ReceiptOf (r : RgkTransitionReport) (commitment : Bytes32) (receipt : RgkReceipt) :
    Prop where
  chainId : receipt.chainId = r.chain
  oldChainId : receipt.oldState.chainId = r.chain
  newChainId : receipt.newState.chainId = r.chain
  oldAssetId : receipt.oldState.assetId = r.assetId
  newAssetId : receipt.newState.assetId = r.assetId
  oldStateDigest : receipt.oldState.stateDigest = r.previousStateDigest
  newStateDigest : receipt.newState.stateDigest = r.newStateDigest
  transitionDigest : receipt.transitionDigest = r.transitionDigest
  continuationCommitment : receipt.continuationCommitment = commitment

lemma matchesReceipt_ofReports {r : RgkTransitionReport} {cr : RgkContinuationReport}
    {m n : UInt64} {receipt : RgkReceipt} (h : ReceiptOf r cr.commitment receipt) :
    (ofReports r cr m n).matchesReceipt receipt = true :=
  decide_eq_true ⟨h.chainId, h.oldChainId, h.newChainId, h.oldAssetId, h.newAssetId,
    h.oldStateDigest, h.newStateDigest, h.transitionDigest, h.continuationCommitment⟩

/-- A plan that continues a lineage and finalizes has a statement, and it matches every receipt of
the transition. -/
theorem lineage_has_statement (H : List UInt8 → Bytes32) (issue : RgkAssetIssue)
    (ts : List RgkTransition) (s : LineageState) (hrun : Lineage H issue ts s)
    (p : RgkContinuationPlan) (hlink : p.previousStateDigest = s.stateDigest)
    (witnessTxid : Bytes32) (daaScore confirmationDepth : UInt64) (f : RgkFinalizedContinuation)
    (hfin : RgkContinuationPlan.finalize H p witnessTxid daaScore confirmationDepth = .ok f)
    (hcf : CollisionFree H {x | x ∈ lineagePreimages H issue (ts ++ [f.transition])})
    (hnz : NeverZero H {x | x ∈ lineagePreimages H issue (ts ++ [f.transition]) ++
      statementPreimages H p f.transition}) :
    ∃ cr statement, RgkContinuationPlan.validate H p = .ok cr ∧
      SemanticTransitionStatement.fromReports f.transitionReport cr = .ok statement ∧
      ∀ receipt, ReceiptOf f.transitionReport f.commitment receipt →
        statement.matchesReceipt receipt = true := by
  obtain ⟨cr, hcr, -⟩ := bind_eq_ok.mp hfin
  have hp := acceptedPlan_of_validate hcr
  obtain ⟨hcommitment, htransition, ha⟩ := (finalize_eq_ok hcr).mp hfin
  have hreport := report_eq_finalReport hp ha
  rw [htransition] at hcf hnz
  rw [hreport] at ha
  have hle : cr.spentSupply.toNat ≤ p.totalSupply.toNat := Lineage.spent_le_total hrun ha hlink hcf
  have hvalid := finalStatement_valid hp ha hle
    (fun x hx => hnz x (List.mem_append_left _ (List.mem_append_right _
      (List.mem_flatMap.mpr ⟨_, List.mem_append_right _ (List.mem_singleton_self _), hx⟩))))
    (fun x hx => hnz x (List.mem_append_right _ hx))
  refine ⟨cr, finalStatement H p cr witnessTxid daaScore confirmationDepth, hcr, ?_, ?_⟩
  · rw [hreport]
    exact fromReports_of_agree (finalReport_agrees hp) ha.spent.length_lt ha.new.length_lt
      (SemanticTransitionStatement.validate_eq_ok.mpr hvalid)
  · rw [hcommitment, hreport]
    intro receipt h
    exact matchesReceipt_ofReports h

section Samples

/-- The plan to burn three of the units that the first transition has moved. -/
def sampleBurnPlan : RgkContinuationPlan :=
  { samplePlan with
    previousStateDigest := sampleDigest sampleMiddle, spentAllocations := sampleMiddle,
    newAllocationShapes := [⟨0, Bytes.fill 32 0x33, 7, Bytes.fill 32 0x44⟩],
    burn := some ⟨3, Bytes.fill 32 0xaa⟩ }

lemma sampleBurnPlan_finalizes : ∃ f, RgkContinuationPlan.finalize Sha256.digest sampleBurnPlan
    (Bytes.fill 32 3) 100 10 = .ok f :=
  exists_ok_of_isSome (by decide +kernel)

lemma sampleStatement_neverZero {t : RgkTransition}
    (ht : t = sampleTransition 3 sampleMiddle sampleEnd (some ⟨3, Bytes.fill 32 0xaa⟩)) :
    NeverZero Sha256.digest {x |
      x ∈ lineagePreimages Sha256.digest (sampleIssue sampleStart) sampleSteps ++
        statementPreimages Sha256.digest sampleBurnPlan t} := by
  have hstates := (List.nodup_cons.mp samplePreimages_digests).1
  have hcarried : Bytes.zero ∉
      (statementPreimages Sha256.digest sampleBurnPlan t).map Sha256.digest := by
    rw [ht]
    decide +kernel
  intro x hx hzero
  rcases List.mem_append.mp hx with hx | hx
  · have hsample := sample_preimages_subset (by simp [sampleStates]) sampleSteps_visit x hx
    exact hstates (hzero ▸ List.mem_map_of_mem hsample)
  · exact hcarried (hzero ▸ List.mem_map_of_mem hx)

end Samples

/-- The plan continues the issue after one transition. -/
theorem lineage_has_statement_sample :
    ∃ f cr statement, RgkContinuationPlan.finalize Sha256.digest sampleBurnPlan (Bytes.fill 32 3) 100
        10 = .ok f ∧
      RgkContinuationPlan.validate Sha256.digest sampleBurnPlan = .ok cr ∧
      SemanticTransitionStatement.fromReports f.transitionReport cr = .ok statement := by
  obtain ⟨f, hfin⟩ := sampleBurnPlan_finalizes
  obtain ⟨cr, hcr, -⟩ := bind_eq_ok.mp hfin
  have htransition : f.transition = sampleTransition 3 sampleMiddle sampleEnd
      (some ⟨3, Bytes.fill 32 0xaa⟩) := ((finalize_eq_ok hcr).mp hfin).2.1
  have hsteps : [sampleTransition 2 sampleStart sampleMiddle none] ++ [f.transition] =
      sampleSteps := by
    rw [htransition]
    rfl
  obtain ⟨cr, statement, hcr, hstatement, -⟩ := lineage_has_statement Sha256.digest
    (sampleIssue sampleStart) _ _ sample_moved sampleBurnPlan rfl _ _ _ f hfin
    (hsteps ▸ sampleSteps_collisionFree) (hsteps ▸ sampleStatement_neverZero htransition)
  exact ⟨f, cr, statement, hfin, hcr, hstatement⟩

end RgkProtocol.LineageStatement
