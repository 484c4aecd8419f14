import RgkProtocol.AssetLineage
import RgkProtocol.ContinuationPlan

/-!
# When a plan finalizes

A plan is validated before the transaction that carries it exists. Finalization anchors its shapes
in that transaction and validates the result as a transition. Three things can still go wrong: the
transaction id is missing, the anchors are not confirmed, or the transaction is one that an
allocation being spent already sits in.
-/
namespace RgkProtocol.Finalization
open ByteStrings Hashing CoreTypes Checked AssetTypes AssetEncoding AssetValidation AssetLineage
open ContinuationPlan

section Plans
variable {H : List UInt8 → Bytes32} {p : RgkContinuationPlan} {r : RgkContinuationReport}

/-- Everything the validation of a plan says about it and its report. -/
structure AcceptedPlan (H : List UInt8 → Bytes32) (p : RgkContinuationPlan)
    (r : RgkContinuationReport) : Prop where
  common : validateCommon p.schemaId p.assetId p.totalSupply p.laneId p.proofPolicy = .ok ()
  metadata : p.metadataCommitment ≠ Bytes.zero
  previousOwner : p.previousOwnerCommitment ≠ Bytes.zero
  newOwner : p.newOwnerCommitment ≠ Bytes.zero
  handoff : validateOwnershipHandoff p.previousOwnerCommitment p.newOwnerCommitment
    p.ownershipAuthorizationCommitment = .ok ()
  previousDigest_ne : p.previousStateDigest ≠ Bytes.zero
  spent_ne : p.spentAllocations ≠ []
  spent : IsAllocationSet p.chain p.spentAllocations r.spentSupply
  shapes : validateContinuationShapesStructureAllowEmpty p.newAllocationShapes p.burn =
    .ok r.newSupply
  delta : r.spentSupply.toNat = r.newSupply.toNat + r.burnedSupply.toNat
  burn : BurnAccounts r.burnedSupply p.burn
  previousDigest : stateDigestForAllocations H (RgkContinuationPlan.previousInput p
    (policyCommitmentBytes H p.proofPolicy)) = p.previousStateDigest
  report : r = RgkContinuationPlan.reportWith H p r.spentSupply r.newSupply r.burnedSupply
    (policyCommitmentBytes H p.proofPolicy)

theorem acceptedPlan_of_validate (h : RgkContinuationPlan.validate H p = .ok r) :
    AcceptedPlan H p r := by
  obtain ⟨hst, hrep⟩ := unit_bind_eq_ok.mp h
  obtain ⟨spent, hspent, hrep⟩ := bind_eq_ok.mp hrep
  obtain ⟨new, hnew, hrep⟩ := bind_eq_ok.mp hrep
  obtain ⟨burned, hburned, hrep⟩ := bind_eq_ok.mp hrep
  obtain ⟨pc, hpc, hrep⟩ := bind_eq_ok.mp hrep
  obtain ⟨-, rfl⟩ := policyCommitment_eq_ok.mp hpc
  obtain rfl := Except.ok.inj hrep
  obtain ⟨hspent_ne, hspent⟩ := validateAllocationSetStructure_eq_ok.mp hspent
  obtain ⟨hdelta, hburn⟩ := validateSupplyDelta_eq_ok.mp hburned
  simp only [RgkContinuationPlan.validateStructure, validateMetadataCommitment,
    validateOwnerCommitment, unit_bind_eq_ok, rejectZero_eq_ok] at hst
  obtain ⟨hc, hm, hpo, hno, hh, hpd, -, hrest⟩ := hst
  obtain ⟨_, -, hrest⟩ := bind_eq_ok.mp hrest
  obtain ⟨_, hpc', hrest⟩ := bind_eq_ok.mp hrest
  obtain ⟨-, rfl⟩ := policyCommitment_eq_ok.mp hpc'
  obtain ⟨hprev, -⟩ := unit_bind_eq_ok.mp hrest
  exact ⟨hc, hm, hpo, hno, hh, hpd, hspent_ne, hspent, hnew, hdelta, hburn,
    not_not.mp (failIf_eq_ok.mp hprev), rfl⟩

end Plans

section Anchoring
variable {p : RgkContinuationPlan} {witnessTxid : Bytes32} {daaScore confirmationDepth : UInt64}

/-- The outpoint that a shape gets in the transaction. -/
def plannedOutpoint (witnessTxid : Bytes32) (s : RgkContinuationAllocationShape) : KaspaOutpoint :=
  ⟨witnessTxid, s.outputIndex⟩

lemma map_outpoint_anchorShape (shapes : List RgkContinuationAllocationShape) :
    (shapes.map (RgkContinuationPlan.anchorShape p witnessTxid daaScore confirmationDepth)).map
      RgkAllocation.outpoint = shapes.map (plannedOutpoint witnessTxid) := by
  rw [List.map_map]
  rfl

lemma anchorShape_ok {s : RgkContinuationAllocationShape} (hs : ShapeOk s)
    (htxid : witnessTxid ≠ Bytes.zero) (hdepth : confirmationDepth ≠ 0) :
    AllocationOk p.chain
      (RgkContinuationPlan.anchorShape p witnessTxid daaScore confirmationDepth s) where
  amount := hs.1
  chain := rfl
  outpoint h := htxid (congrArg KaspaOutpoint.transactionId h)
  covenantId := hs.2.1
  witnessTxid := htxid
  note := hs.2.2
  depth := hdepth

/-- Anchored shapes are an allocation set with the supply of the shapes: distinct outputs of one
transaction are distinct outpoints. -/
lemma anchored_isAllocationSet {supply : UInt64}
    (hshapes : validateContinuationShapesStructureAllowEmpty p.newAllocationShapes p.burn =
      .ok supply)
    (htxid : witnessTxid ≠ Bytes.zero)
    (hdepth : p.newAllocationShapes = [] ∨ confirmationDepth ≠ 0) :
    IsAllocationSet p.chain (RgkContinuationPlan.transitionAt p witnessTxid daaScore
      confirmationDepth).newAllocations supply := by
  obtain ⟨hok, hdistinct, hsum, -⟩ := validateContinuationShapesStructureAllowEmpty_inv hshapes
  refine ⟨?_, ?_, ?_⟩
  · intro a ha
    obtain ⟨s, hs, rfl⟩ := List.mem_map.mp ha
    have hne : confirmationDepth ≠ 0 := hdepth.resolve_left (List.ne_nil_of_mem hs)
    exact anchorShape_ok (hok s hs) htxid hne
  · have hinj : Function.Injective (KaspaOutpoint.mk witnessTxid) := fun i j hij =>
      congrArg KaspaOutpoint.index hij
    have hmap : p.newAllocationShapes.map (plannedOutpoint witnessTxid) =
        (p.newAllocationShapes.map RgkContinuationAllocationShape.outputIndex).map
          (KaspaOutpoint.mk witnessTxid) := by
      rw [List.map_map]
      rfl
    rw [RgkContinuationPlan.transitionAt, map_outpoint_anchorShape, hmap]
    exact hdistinct.map hinj
  · rw [hsum, supplyOf, natSum, natSum, RgkContinuationPlan.transitionAt, List.map_map]
    rfl

end Anchoring

section Finalizing
variable {H : List UInt8 → Bytes32} {p : RgkContinuationPlan} {cr : RgkContinuationReport}
  {witnessTxid : Bytes32} {daaScore confirmationDepth : UInt64}

/-- What a transaction has to offer for a plan to be finalized in it. -/
structure Anchorable (p : RgkContinuationPlan) (witnessTxid : Bytes32) (confirmationDepth : UInt64) :
    Prop where
  txid : witnessTxid ≠ Bytes.zero
  confirmed : p.newAllocationShapes = [] ∨ confirmationDepth ≠ 0
  fresh : ∀ s ∈ p.newAllocationShapes,
    plannedOutpoint witnessTxid s ∉ p.spentAllocations.map RgkAllocation.outpoint

/-- The report of the transition that a validated plan leads to. -/
def finalReport (H : List UInt8 → Bytes32) (p : RgkContinuationPlan) (cr : RgkContinuationReport)
    (witnessTxid : Bytes32) (daaScore confirmationDepth : UInt64) : RgkTransitionReport :=
  RgkTransition.reportWith H
    (RgkContinuationPlan.transitionAt p witnessTxid daaScore confirmationDepth) cr.spentSupply
    cr.newSupply cr.burnedSupply (policyCommitmentBytes H p.proofPolicy)

/-- A transition that creates nothing in the outputs it spends changes the state: an equal digest
would make the new allocations a reordering of the spent ones. -/
lemma newDigest_ne_of_fresh {Q : Set (List UInt8)} (hcf : CollisionFree H Q) {t : RgkTransition}
    (hQ : ∀ x ∈ RgkTransition.preimages H t, x ∈ Q) (hne : t.spentAllocations ≠ [])
    (hprev : stateDigestForAllocations H
      (RgkTransition.previousInput t (policyCommitmentBytes H t.proofPolicy)) =
        t.previousStateDigest)
    (hfresh : ∀ a ∈ t.newAllocations, a.outpoint ∉ t.spentAllocations.map RgkAllocation.outpoint) :
    stateDigestForAllocations H
      (RgkTransition.newInput t (policyCommitmentBytes H t.proofPolicy)) ≠
        t.previousStateDigest := by
  intro heq
  have hsame := sameState_of_stateDigest_eq hcf
    (fun x hx => hQ x (List.mem_append_right _ hx)) (fun x hx => hQ x (List.mem_append_left _ hx))
    (heq.trans hprev.symm)
  obtain ⟨a, ha⟩ := List.exists_mem_of_ne_nil _ hne
  have hnew : a ∈ t.newAllocations := hsame.allocations.mem_iff.mpr ha
  exact hfresh a hnew (List.mem_map_of_mem ha)

theorem accepted_of_anchorable {Q : Set (List UInt8)} (hcf : CollisionFree H Q)
    (hp : AcceptedPlan H p cr)
    (hQ : ∀ x ∈ RgkTransition.preimages H (RgkContinuationPlan.transitionAt p witnessTxid daaScore
      confirmationDepth), x ∈ Q)
    (ha : Anchorable p witnessTxid confirmationDepth) :
    AcceptedTransition H
      (RgkContinuationPlan.transitionAt p witnessTxid daaScore confirmationDepth)
      (finalReport H p cr witnessTxid daaScore confirmationDepth) := by
  have hfresh : ∀ a ∈ (RgkContinuationPlan.transitionAt p witnessTxid daaScore
      confirmationDepth).newAllocations,
      a.outpoint ∉ p.spentAllocations.map RgkAllocation.outpoint := by
    intro a hmem
    obtain ⟨s, hs, rfl⟩ := List.mem_map.mp hmem
    exact ha.fresh s hs
  exact
    { common := hp.common
      metadata := hp.metadata
      previousOwner := hp.previousOwner
      newOwner := hp.newOwner
      handoff := hp.handoff
      previousDigest_ne := hp.previousDigest_ne
      witnessTxid := ha.txid
      spent_ne := hp.spent_ne
      spent := hp.spent
      new := anchored_isAllocationSet hp.shapes ha.txid ha.confirmed
      delta := hp.delta
      burn := hp.burn
      previousDigest := hp.previousDigest
      changed := newDigest_ne_of_fresh hcf hQ hp.spent_ne hp.previousDigest hfresh
      fresh := hfresh
      report := rfl }

lemma anchorable_of_accepted {tr : RgkTransitionReport}
    (h : AcceptedTransition H
      (RgkContinuationPlan.transitionAt p witnessTxid daaScore confirmationDepth) tr) :
    Anchorable p witnessTxid confirmationDepth where
  txid := h.witnessTxid
  confirmed := by
    rw [or_iff_not_imp_left]
    intro hne
    obtain ⟨s, hs⟩ := List.exists_mem_of_ne_nil _ hne
    exact (h.new.each _ (List.mem_map_of_mem hs)).depth
  fresh s hs := h.fresh _ (List.mem_map_of_mem hs)

lemma report_eq_finalReport {tr : RgkTransitionReport} (hp : AcceptedPlan H p cr)
    (h : AcceptedTransition H
      (RgkContinuationPlan.transitionAt p witnessTxid daaScore confirmationDepth) tr) :
    tr = finalReport H p cr witnessTxid daaScore confirmationDepth := by
  have ha := anchorable_of_accepted h
  have hnew : IsAllocationSet p.chain (RgkContinuationPlan.transitionAt p witnessTxid daaScore
      confirmationDepth).newAllocations cr.newSupply :=
    anchored_isAllocationSet hp.shapes ha.txid ha.confirmed
  have hspent : tr.spentSupply = cr.spentSupply :=
    UInt64.toNat_inj.mp (h.spent.sum.trans hp.spent.sum.symm)
  have hsupply : tr.newSupply = cr.newSupply :=
    UInt64.toNat_inj.mp (h.new.sum.trans hnew.sum.symm)
  have hburned : tr.burnedSupply = cr.burnedSupply := by
    apply UInt64.toNat_inj.mp
    have h1 := h.delta
    have h2 := hp.delta
    rw [hspent, hsupply] at h1
    omega
  rw [h.report, hspent, hsupply, hburned]
  rfl

lemma finalReport_agrees (hp : AcceptedPlan H p cr) :
    ReportsAgree (finalReport H p cr witnessTxid daaScore confirmationDepth) cr := by
  rw [hp.report]
  exact reportWith_agree

lemma finalize_eq_ok (hv : RgkContinuationPlan.validate H p = .ok cr)
    {f : RgkFinalizedContinuation} :
    RgkContinuationPlan.finalize H p witnessTxid daaScore confirmationDepth = .ok f ↔
      f.commitment = cr.commitment ∧
      f.transition = RgkContinuationPlan.transitionAt p witnessTxid daaScore confirmationDepth ∧
      AcceptedTransition H
        (RgkContinuationPlan.transitionAt p witnessTxid daaScore confirmationDepth)
        f.transitionReport := by
  rw [RgkContinuationPlan.finalize, bind_eq_ok]
  constructor
  · rintro ⟨cr', hcr, h⟩
    obtain ⟨tr, htr, h⟩ := bind_eq_ok.mp h
    obtain rfl := Except.ok.inj h
    obtain rfl := Except.ok.inj (hv.symm.trans hcr)
    exact ⟨rfl, rfl, RgkTransition.validate_inv htr⟩
  · rintro ⟨hc, ht, ha⟩
    refine ⟨cr, hv, bind_eq_ok.mpr ⟨_, RgkTransition.validate_of_accepted ha, ?_⟩⟩
    obtain ⟨c, t, tr⟩ := f
    simp only at hc ht
    rw [hc, ht]

end Finalizing

/-- A validated plan finalizes in a transaction exactly when the transaction has an id, is
confirmed unless there is nothing to anchor, and no planned output of it is one being spent. The
transition then creates the planned allocations in that transaction, and its report repeats what
the plan's report says. -/
theorem finalize_exact (H : List UInt8 → Bytes32) (p : RgkContinuationPlan)
    (cr : RgkContinuationReport) (hv : RgkContinuationPlan.validate H p = .ok cr)
    (witnessTxid : Bytes32) (daaScore confirmationDepth : UInt64)
    (hcf : CollisionFree H {x | x ∈ RgkTransition.preimages H
      (RgkContinuationPlan.transitionAt p witnessTxid daaScore confirmationDepth)}) :
    ((∃ f, RgkContinuationPlan.finalize H p witnessTxid daaScore confirmationDepth = .ok f) ↔
      witnessTxid ≠ Bytes.zero ∧ (p.newAllocationShapes = [] ∨ confirmationDepth ≠ 0) ∧
        ∀ s ∈ p.newAllocationShapes,
          (⟨witnessTxid, s.outputIndex⟩ : KaspaOutpoint) ∉
            p.spentAllocations.map RgkAllocation.outpoint) ∧
    ∀ f, RgkContinuationPlan.finalize H p witnessTxid daaScore confirmationDepth = .ok f →
      ReportsAgree f.transitionReport cr ∧ f.commitment = cr.commitment ∧
      f.transition.newAllocations = p.newAllocationShapes.map
        (RgkContinuationPlan.anchorShape p witnessTxid daaScore confirmationDepth) := by
  have hp := acceptedPlan_of_validate hv
  refine ⟨⟨?_, ?_⟩, ?_⟩
  · rintro ⟨f, hf⟩
    have ha := anchorable_of_accepted ((finalize_eq_ok hv).mp hf).2.2
    exact ⟨ha.txid, ha.confirmed, ha.fresh⟩
  · rintro ⟨htxid, hdepth, hfresh⟩
    have ha := accepted_of_anchorable hcf hp (fun _ hx => hx) ⟨htxid, hdepth, hfresh⟩
    exact ⟨⟨cr.commitment, _, _⟩, (finalize_eq_ok hv).mpr ⟨rfl, rfl, ha⟩⟩
  · intro f hf
    obtain ⟨hcommitment, htransition, haccepted⟩ := (finalize_eq_ok hv).mp hf
    refine ⟨?_, hcommitment, by rw [htransition]; rfl⟩
    rw [report_eq_finalReport hp haccepted]
    exact finalReport_agrees hp

/-- The plan to move the ten sample units to another output. -/
def samplePlan : RgkContinuationPlan :=
  { chain := .kaspaLocalToccata, schemaId := Bytes.fill 32 0x11, assetId := Bytes.fill 32 0x22,
    totalSupply := 10, metadataCommitment := Bytes.fill 32 0x55,
    previousOwnerCommitment := Bytes.fill 32 0x66, newOwnerCommitment := Bytes.fill 32 0x66,
    ownershipAuthorizationCommitment := Bytes.zero, previousStateDigest := sampleDigest sampleStart,
    spentAllocations := sampleStart,
    newAllocationShapes := [⟨0, Bytes.fill 32 0x33, 10, Bytes.fill 32 0x44⟩], burn := none,
    laneId := Bytes.fill 32 0x77, privacyPolicy := .privateLane,
    proofPolicy := .verifierReceipt (Bytes.fill 32 0x91) }

lemma samplePlan_transition : RgkContinuationPlan.transitionAt samplePlan (Bytes.fill 32 2) 100 10 =
    sampleTransition 2 sampleStart sampleMiddle none := rfl

lemma samplePlan_validates : ∃ cr, RgkContinuationPlan.validate Sha256.digest samplePlan = .ok cr :=
  exists_ok_of_isSome (by decide +kernel)

theorem finalize_exact_sample :
    ∃ f, RgkContinuationPlan.finalize Sha256.digest samplePlan (Bytes.fill 32 2) 100 10 = .ok f := by
  obtain ⟨cr, hcr⟩ := samplePlan_validates
  have hcf : CollisionFree Sha256.digest {x | x ∈ RgkTransition.preimages Sha256.digest
      (RgkContinuationPlan.transitionAt samplePlan (Bytes.fill 32 2) 100 10)} := by
    have hlineage := @sample_collisionFree sampleStart
      [sampleTransition 2 sampleStart sampleMiddle none] (by simp [sampleStates]) (by
        intro t ht
        obtain rfl := List.mem_singleton.mp ht
        exact ⟨sampleStart, by simp [sampleStates], sampleMiddle, by simp [sampleStates], _, _, rfl⟩)
    refine hlineage.mono (fun x hx => ?_)
    rw [samplePlan_transition] at hx
    exact List.mem_append_right _ (List.mem_flatMap.mpr ⟨_, List.mem_singleton_self _, hx⟩)
  exact (finalize_exact _ samplePlan cr hcr _ _ _ hcf).1.mpr
    ⟨by decide, Or.inr (by decide), by decide⟩

end RgkProtocol.Finalization
