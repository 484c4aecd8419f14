import RgkProtocol.BurnBinding
import Mathlib.Data.List.Permutation

/-!
# Which finalized plans have a satisfying assignment

The native code sorts allocations for its roots and keeps the caller's order in the transition
digest; a circuit has one order for both. A finalized plan can be proved exactly when the
caller's order is the canonical one.
-/
namespace RgkProtocol.CircuitCompleteness
open ByteStrings FieldPacking Hashing CoreTypes Checked AssetTypes AssetEncoding AssetValidation
open ContinuationPlan SemanticStatement CircuitGadgets AllocationCircuit CircuitMeaning
open CircuitSoundness BurnBinding

/-- Some order of the allocations satisfies the circuit of the shape for the statement. -/
def Provable (H : List UInt8 → Bytes32) (shape : RgkAllocationProofShape)
    (s : SemanticTransitionStatement) (spent new : List RgkAllocation) (witnessTxid : Bytes32) :
    Prop :=
  ∃ (spent' new' : List RgkAllocation) (hs : spent'.length = shape.spentCount)
    (hn : new'.length = shape.newCount), spent'.Perm spent ∧ new'.Perm new ∧
      SupportedAllocationVectorCircuit.generateConstraints H s.publicInputs
        (assignmentFor shape s spent' new' witnessTxid hs hn) = .ok true

/-- The plan lists what it spends by allocation key and what it creates by output index. -/
def CanonicalOrder (plan : RgkContinuationPlan) : Prop :=
  InKeyOrder allocationKey plan.spentAllocations ∧
    plan.newAllocationShapes.Pairwise (fun a b => a.outputIndex < b.outputIndex)

/-- The strings that a circuit hashes for roots, states and the transition, in one order. -/
def orderedPreimages (H : List UInt8 → Bytes32) (s : SemanticTransitionStatement)
    (spent new : List RgkAllocation) (burn : Option RgkBurnProof) (witnessTxid : Bytes32)
    (policy : RgkProofPolicy) : List (List UInt8) :=
  [taggedPreimage "rgk:asset:allocation-root:v1" (encodeAllocations spent),
    taggedPreimage "rgk:asset:allocation-root:v1" (encodeAllocations new),
    taggedPreimage "rgk:asset:state:v2" (stateDigestPayloadWith
      (stateInput s spent s.previousOwnerCommitment) (witnessRoot H spent)),
    taggedPreimage "rgk:asset:state:v2" (stateDigestPayloadWith
      (stateInput s new s.newOwnerCommitment) (witnessRoot H new)),
    taggedPreimage "rgk:asset:transition:v2" (transitionDigestPayload
      (transitionFor s spent new burn witnessTxid policy) s.newStateDigest s.policyCommitment)]

/-- The strings hashed for the allocations of a transition in any order. -/
def anyOrderPreimages (H : List UInt8 → Bytes32) (s : SemanticTransitionStatement)
    (t : RgkTransition) : Set (List UInt8) :=
  {x | ∃ spent new : List RgkAllocation, spent.Perm t.spentAllocations ∧
    new.Perm t.newAllocations ∧
    x ∈ orderedPreimages H s spent new t.burn t.witnessTxid t.proofPolicy}

section Order

lemma append_cons_le_iff {p r t : List ℕ} {m n : ℕ} (h : m ≠ n) :
    p ++ m :: r ≤ p ++ n :: t ↔ m < n := by
  induction p with
  | nil =>
    rw [List.nil_append, List.nil_append, ← not_lt, List.cons_lt_cons_iff]
    omega
  | cons a p ih =>
    rw [List.cons_append, List.cons_append, ← not_lt, List.cons_lt_cons_iff, ← ih, ← not_lt]
    simp

/-- Planned allocations with distinct outputs stand in key order by output index. -/
lemma inKeyOrder_anchorShape {plan : RgkContinuationPlan} {txid : Bytes32} {daa depth : UInt64}
    {shapes : List RgkContinuationAllocationShape}
    (hd : (shapes.map RgkContinuationAllocationShape.outputIndex).Nodup) :
    InKeyOrder allocationKey (shapes.map (RgkContinuationPlan.anchorShape plan txid daa depth)) ↔
      shapes.Pairwise (fun a b => a.outputIndex < b.outputIndex) := by
  have hkey : ∀ a b : RgkContinuationAllocationShape, a.outputIndex ≠ b.outputIndex →
      (allocationKey (RgkContinuationPlan.anchorShape plan txid daa depth a) ≤
          allocationKey (RgkContinuationPlan.anchorShape plan txid daa depth b) ↔
        a.outputIndex < b.outputIndex) := by
    intro a b hab
    simp only [allocationKey, KaspaOutpoint.key, RgkContinuationPlan.anchorShape,
      List.append_assoc, List.cons_append, List.nil_append]
    rw [append_cons_le_iff (fun h => hab (UInt32.toNat_inj.mp h)), UInt32.lt_iff_toNat_lt]
  rw [InKeyOrder, List.pairwise_map]
  rw [List.Nodup, List.pairwise_map] at hd
  constructor
  · intro h
    exact (hd.and h).imp fun hab => (hkey _ _ hab.1).mp hab.2
  · intro h
    exact (hd.and h).imp fun hab => (hkey _ _ hab.1).mpr hab.2

lemma inKeyOrder_shapeKey {shapes : List RgkContinuationAllocationShape}
    (h : shapes.Pairwise (fun a b => a.outputIndex < b.outputIndex)) :
    InKeyOrder shapeKey shapes := by
  refine List.Pairwise.imp (fun {a b} hab => ?_) h
  have hn : a.outputIndex.toNat < b.outputIndex.toNat := UInt32.lt_iff_toNat_lt.mp hab
  have hle := @append_cons_le_iff [] (bytesKey a.covenantId ++ bytesKey a.encryptedNoteCommitment ++
    [a.amount.toNat]) (bytesKey b.covenantId ++ bytesKey b.encryptedNoteCommitment ++
    [b.amount.toNat]) _ _ hn.ne
  simpa [shapeKey] using hle.mpr hn

end Order

section Digests
variable {H : List UInt8 → Bytes32} {s : SemanticTransitionStatement}

/-- The circuit's state digest determines the allocations in the order given. -/
lemma allocations_eq_of_state_eq {Q : Set (List UInt8)} (hcf : CollisionFree H Q)
    {as bs : List RgkAllocation} {owner : Bytes32}
    (hra : taggedPreimage "rgk:asset:allocation-root:v1" (encodeAllocations as) ∈ Q)
    (hrb : taggedPreimage "rgk:asset:allocation-root:v1" (encodeAllocations bs) ∈ Q)
    (hsa : taggedPreimage "rgk:asset:state:v2"
      (stateDigestPayloadWith (stateInput s as owner) (witnessRoot H as)) ∈ Q)
    (hsb : taggedPreimage "rgk:asset:state:v2"
      (stateDigestPayloadWith (stateInput s bs owner) (witnessRoot H bs)) ∈ Q)
    (h : domainHashStr H "rgk:asset:state:v2"
        (stateDigestPayloadWith (stateInput s as owner) (witnessRoot H as)) =
      domainHashStr H "rgk:asset:state:v2"
        (stateDigestPayloadWith (stateInput s bs owner) (witnessRoot H bs))) : as = bs := by
  have hp := payload_eq_of_domainHashStr_eq hcf hsa hsb h
  simp only [stateDigestPayloadWith, stateInput, Bytes.append_inj, le64_append_inj] at hp
  exact encodeAllocations_injective (payload_eq_of_domainHashStr_eq hcf hra hrb hp.2.2.1)

lemma transitionPayload_inj {spent spent' new new' : List RgkAllocation}
    {burn : Option RgkBurnProof} {txid : Bytes32} {policy : RgkProofPolicy}
    (hs : spent.length = spent'.length)
    (h : transitionDigestPayload (transitionFor s spent new burn txid policy) s.newStateDigest
        s.policyCommitment =
      transitionDigestPayload (transitionFor s spent' new' burn txid policy) s.newStateDigest
        s.policyCommitment) : spent = spent' ∧ new = new' := by
  simp only [transitionDigestPayload, transitionFor, List.append_cancel_left_eq] at h
  obtain ⟨hspent, hnew⟩ := taggedAllocations_append_inj hs h
  exact ⟨hspent, taggedAllocations_injective _ hnew⟩

end Digests

section Plans
variable {H : List UInt8 → Bytes32} {plan : RgkContinuationPlan} {txid : Bytes32}
  {daa depth : UInt64}

lemma shapeOf_anchorShape (shape : RgkContinuationAllocationShape) :
    shapeOf (RgkContinuationPlan.anchorShape plan txid daa depth shape) = shape := rfl

lemma map_shapeOf_transitionAt :
    (RgkContinuationPlan.transitionAt plan txid daa depth).newAllocations.map shapeOf =
      plan.newAllocationShapes := by
  simp [RgkContinuationPlan.transitionAt, Function.comp_def, shapeOf_anchorShape]

lemma transitionAt_txid {new : List RgkAllocation}
    (h : new.Perm (RgkContinuationPlan.transitionAt plan txid daa depth).newAllocations) :
    ∀ a ∈ new, a.outpoint.transactionId = txid ∧ a.anchor.witnessTxid = txid := by
  intro a ha
  obtain ⟨shape, -, rfl⟩ := List.mem_map.mp (h.mem_iff.mp ha)
  exact ⟨rfl, rfl⟩

/-- The statement of a transition accepted with supplies `x`, `y`, `z`. -/
def reportStatement (H : List UInt8 → Bytes32) (t : RgkTransition) (c : RgkContinuationReport)
    (x y z : UInt64) : SemanticTransitionStatement :=
  ofReports (RgkTransition.reportWith H t x y z (policyCommitmentBytes H t.proofPolicy)) c
    (UInt64.ofNat t.spentAllocations.length) (UInt64.ofNat t.newAllocations.length)

variable {t : RgkTransition} {c : RgkContinuationReport} {x y z : UInt64}

lemma fromReports_reportWith {r : RgkContinuationReport}
    (ht : t = RgkContinuationPlan.transitionAt plan txid daa depth)
    (hr : r = RgkContinuationPlan.reportWith H plan x y z (policyCommitmentBytes H plan.proofPolicy))
    (hspent : t.spentAllocations.length < 2^64) (hnew : t.newAllocations.length < 2^64)
    (hv : (reportStatement H t r x y z).validate = .ok ()) :
    SemanticTransitionStatement.fromReports
      (RgkTransition.reportWith H t x y z (policyCommitmentBytes H t.proofPolicy)) r =
        .ok (reportStatement H t r x y z) := by
  have hagree : ReportsAgree
      (RgkTransition.reportWith H t x y z (policyCommitmentBytes H t.proofPolicy)) r := by
    rw [hr, ht]
    exact reportWith_agree
  exact fromReports_of_agree hagree hspent hnew hv

lemma statementBurn_reportStatement (h : BurnAccounts z t.burn) :
    statementBurn (reportStatement H t c x y z) = t.burn ∧
      ((reportStatement H t c x y z).burnedSupply = 0 ↔
        (reportStatement H t c x y z).burnAuthorizationCommitment = Bytes.zero) := by
  have hz : (reportStatement H t c x y z).burnedSupply = z := rfl
  have ha : (reportStatement H t c x y z).burnAuthorizationCommitment =
      burnAuthorizationCommitment t.burn := rfl
  refine ⟨?_, h.zero_iff⟩
  rw [statementBurn, hz, ha]
  cases hb : t.burn with
  | none =>
    rw [hb] at h
    exact if_pos ⟨h, rfl⟩
  | some proof =>
    rw [hb] at h
    obtain ⟨h0, hm, hc⟩ := h
    rw [← hm] at h0 ⊢
    exact if_neg (fun hzero => h0 hzero.1)

lemma planFor_reportStatement :
    planFor (reportStatement H (RgkContinuationPlan.transitionAt plan txid daa depth) c x y z)
      (RgkContinuationPlan.transitionAt plan txid daa depth).spentAllocations
      (RgkContinuationPlan.transitionAt plan txid daa depth).newAllocations
      (RgkContinuationPlan.transitionAt plan txid daa depth).burn
      (RgkContinuationPlan.transitionAt plan txid daa depth).proofPolicy = plan := by
  rw [planFor, map_shapeOf_transitionAt]
  rfl

lemma nodup_anchorTag {as : List RgkAllocation} (h : (as.map RgkAllocation.outpoint).Nodup) :
    (as.map anchorTag).Nodup := by
  refine List.Nodup.of_map Prod.fst ?_
  rwa [List.map_map]

lemma CanonicalOrder.shapeRoot (hcanon : CanonicalOrder plan) :
    continuationShapeRoot H plan.chain plan.newAllocationShapes =
      domainHashStr H "rgk:continuation:shape-root:v1"
        (encodeShapes plan.chain plan.newAllocationShapes) := by
  rw [continuationShapeRoot, continuationShapePayload,
    sortByKey_eq_self.mpr (inKeyOrder_shapeKey hcanon.2)]

/-- In canonical order the accepted transition satisfies the typed conditions as it stands. -/
lemma witnessAccepted_of_canonical {r : RgkContinuationReport}
    (ht : t = RgkContinuationPlan.transitionAt plan txid daa depth)
    (ha : AcceptedTransition H t
      (RgkTransition.reportWith H t x y z (policyCommitmentBytes H t.proofPolicy)))
    (hr : RgkContinuationPlan.validate H plan = .ok r) (hcanon : CanonicalOrder plan) :
    WitnessAccepted H (reportStatement H t r x y z) t.spentAllocations t.newAllocations t.burn
      t.witnessTxid t.proofPolicy := by
  obtain ⟨hshape, hcommit, hdistinct⟩ := RgkContinuationPlan.validate_inv hr
  have hspent : allocationRoot H t.spentAllocations = witnessRoot H t.spentAllocations := by
    rw [ht]
    exact allocationRoot_of_inKeyOrder hcanon.1
  have hnew : allocationRoot H t.newAllocations = witnessRoot H t.newAllocations := by
    rw [ht]
    exact allocationRoot_of_inKeyOrder ((inKeyOrder_anchorShape hdistinct).mpr hcanon.2)
  have htx := @transitionAt_txid plan txid daa depth _ (List.Perm.refl _)
  refine ⟨fun _ => ha.witnessTxid, rfl, rfl, ha.spent.each, ha.new.each, ?_,
    nodup_anchorTag ha.spent.distinct, nodup_anchorTag ha.new.distinct, ?_, ha.spent.sum.symm,
    ha.new.sum.symm, ha.delta, ?_, ?_, ?_, ?_, ?_, rfl⟩
  · rw [ht]
    exact fun a h => (htx a h).1.trans (htx a h).2.symm
  · intro a hspent' b hnew' hab
    have hout : a.outpoint = b.outpoint := congrArg Prod.fst hab
    exact ha.fresh b hnew' (hout ▸ List.mem_map_of_mem hspent')
  · rw [← hspent]
    exact ha.previousDigest
  · rw [← hnew]
    rfl
  · rw [ht, map_shapeOf_transitionAt]
    exact (hshape.trans hcanon.shapeRoot).symm
  · have hc : (reportStatement H t r x y z).continuationCommitment = r.commitment := rfl
    have hr' : (reportStatement H t r x y z).continuationShapeRoot = r.shapeRoot := rfl
    rw [hc, hcommit, hr', hshape, ← hspent]
    subst ht
    rw [planFor_reportStatement]
    rfl
  · rw [ht]
    exact fun a h => (htx a h).2

/-- What the circuit accepts in some order, it accepts in canonical order. -/
lemma canonical_of_witnessAccepted {r : RgkContinuationReport}
    {spent new : List RgkAllocation}
    (ht : t = RgkContinuationPlan.transitionAt plan txid daa depth)
    (ha : AcceptedTransition H t
      (RgkTransition.reportWith H t x y z (policyCommitmentBytes H t.proofPolicy)))
    (hr : RgkContinuationPlan.validate H plan = .ok r)
    (hcf : CollisionFree H (anyOrderPreimages H (reportStatement H t r x y z) t))
    (hspent : spent.Perm t.spentAllocations) (hnew : new.Perm t.newAllocations)
    (hw : WitnessAccepted H (reportStatement H t r x y z) spent new t.burn t.witnessTxid
      t.proofPolicy) : CanonicalOrder plan := by
  obtain ⟨-, -, hdistinct⟩ := RgkContinuationPlan.validate_inv hr
  have hmem : ∀ as bs : List RgkAllocation, as.Perm t.spentAllocations →
      bs.Perm t.newAllocations → ∀ u ∈ orderedPreimages H (reportStatement H t r x y z) as bs
        t.burn t.witnessTxid t.proofPolicy,
      u ∈ anyOrderPreimages H (reportStatement H t r x y z) t :=
    fun as bs hs hn u hu => ⟨as, bs, hs, hn, hu⟩
  have hsort := hmem _ _ (sortByKey_perm allocationKey t.spentAllocations)
    (sortByKey_perm allocationKey t.newAllocations)
  have hself := hmem _ _ (List.Perm.refl t.spentAllocations) (List.Perm.refl t.newAllocations)
  have hused := hmem _ _ hspent hnew
  simp only [orderedPreimages, List.forall_mem_cons] at hsort hself hused
  have hsorted : spent = sortByKey allocationKey t.spentAllocations :=
    allocations_eq_of_state_eq hcf hused.1 hsort.1 hused.2.2.1 hsort.2.2.1
      (hw.previousDigest.trans ha.previousDigest.symm)
  have hsorted' : new = sortByKey allocationKey t.newAllocations :=
    allocations_eq_of_state_eq hcf hused.2.1 hsort.2.1 hused.2.2.2.1 hsort.2.2.2.1 hw.newDigest
  obtain ⟨hs, hn⟩ := transitionPayload_inj hspent.length_eq
    (payload_eq_of_domainHashStr_eq hcf hused.2.2.2.2.1 hself.2.2.2.2.1 hw.transition)
  have hos := sortByKey_eq_self.mp (hsorted.symm.trans hs)
  have hon := sortByKey_eq_self.mp (hsorted'.symm.trans hn)
  rw [ht] at hos hon
  exact ⟨hos, (inKeyOrder_anchorShape hdistinct).mp hon⟩

lemma generateConstraints_reportStatement {r : RgkContinuationReport}
    {shape : RgkAllocationProofShape} {spent new : List RgkAllocation}
    (ht : t = RgkContinuationPlan.transitionAt plan txid daa depth)
    (ha : AcceptedTransition H t
      (RgkTransition.reportWith H t x y z (policyCommitmentBytes H t.proofPolicy)))
    (hv : (reportStatement H t r x y z).validate = .ok ())
    (hcount : shape.newCount = t.newAllocations.length) (hnew : new.Perm t.newAllocations)
    (hs : spent.length = shape.spentCount) (hn : new.length = shape.newCount) :
    SupportedAllocationVectorCircuit.generateConstraints H (reportStatement H t r x y z).publicInputs
        (assignmentFor shape (reportStatement H t r x y z) spent new t.witnessTxid hs hn) =
          .ok true ↔
      WitnessAccepted H (reportStatement H t r x y z) spent new t.burn t.witnessTxid
        t.proofPolicy := by
  obtain ⟨hsb, hfields⟩ := @statementBurn_reportStatement H t r x y z ha.burn
  obtain ⟨burn, hburn⟩ := burnDigestEncoding_of_fields hfields
  have hown := (burnProof_eq_statementBurn_iff hburn (reportStatement H t r x y z)).mpr rfl
  have hterm : shape = .oneInZeroOut → burn ≠ none := by
    intro hshape hnone
    have hzero : (reportStatement H t r x y z).newAllocationCount = 0 := by
      have hlen : t.newAllocations.length = 0 := by
        rw [← hcount, hshape]
        rfl
      simp [reportStatement, ofReports, hlen]
    have hb := ha.burn
    rw [← hsb, ← hown, hnone] at hb
    exact SemanticTransitionStatement.validate_burns hv hzero hb
  have htx : ∀ a ∈ new, a.anchor.witnessTxid = t.witnessTxid := by
    intro a h
    rw [ht] at hnew ⊢
    exact (transitionAt_txid hnew a h).2
  rw [generateConstraints_assignmentFor hs hn hburn (enforceSemanticLayout_of_validate hv)
    t.proofPolicy hterm htx, hown, hsb]

end Plans

/-- A plan that finalizes for the proving path, and whose reports make a statement, has a
satisfying order of its allocations exactly when it lists them in canonical order. -/
theorem circuit_complete_iff (H : List UInt8 → Bytes32) (plan : RgkContinuationPlan)
    (witnessTxid : Bytes32) (daaScore confirmationDepth : UInt64) (f : RgkFinalizedContinuation)
    (c : RgkContinuationReport) (s : SemanticTransitionStatement)
    (hfin : RgkContinuationPlan.finalizeForProductionZk H plan witnessTxid daaScore
      confirmationDepth = .ok f)
    (hval : RgkContinuationPlan.validate H plan = .ok c)
    (hst : SemanticTransitionStatement.fromReports f.transitionReport c = .ok s)
    (hcf : CollisionFree H (anyOrderPreimages H s f.transition)) :
    ∃ shape, RgkAllocationProofShape.fromCounts f.transition.spentAllocations.length
        f.transition.newAllocations.length = some shape ∧
      (Provable H shape s f.transition.spentAllocations f.transition.newAllocations
          f.transition.witnessTxid ↔ CanonicalOrder plan) := by
  obtain ⟨ht, ha, shape, hspent, hnew⟩ := RgkContinuationPlan.finalizeForProductionZk_inv hfin
  obtain ⟨hs, hv⟩ := fromReports_inv hst
  refine ⟨shape, RgkAllocationProofShape.fromCounts_eq_some.mpr ⟨hspent, hnew⟩, ?_⟩
  have hrep := ha.report
  rw [hrep] at ha hs
  subst hs
  constructor
  · intro ⟨spent, new, hlen, hlen', hps, hpn, hsat⟩
    exact canonical_of_witnessAccepted ht ha hval hcf hps hpn
      ((generateConstraints_reportStatement ht ha hv hnew hpn hlen hlen').mp hsat)
  · intro hcanon
    exact ⟨_, _, hspent.symm, hnew.symm, List.Perm.refl _, List.Perm.refl _,
      (generateConstraints_reportStatement ht ha hv hnew (List.Perm.refl _) hspent.symm
        hnew.symm).mpr (witnessAccepted_of_canonical ht ha hval hcanon)⟩

section Samples

/-- A plan over ten units whose previous digest is the one of what it spends. -/
def samplePlan (spent : List RgkAllocation) (shapes : List RgkContinuationAllocationShape) :
    RgkContinuationPlan where
  chain := .kaspaSimnet
  schemaId := Bytes.fill 32 0x21
  assetId := Bytes.fill 32 0x22
  totalSupply := 10
  metadataCommitment := Bytes.fill 32 0x25
  previousOwnerCommitment := Bytes.fill 32 0x26
  newOwnerCommitment := Bytes.fill 32 0x26
  ownershipAuthorizationCommitment := Bytes.zero
  previousStateDigest := stateDigestForAllocations Sha256.digest
    { assetId := Bytes.fill 32 0x22, totalSupply := 10, allocations := spent,
      laneId := Bytes.fill 32 0x23, privacyPolicy := .publicLineage,
      policyCommitment := policyCommitmentBytes Sha256.digest samplePolicy,
      metadataCommitment := Bytes.fill 32 0x25, ownerCommitment := Bytes.fill 32 0x26 }
  spentAllocations := spent
  newAllocationShapes := shapes
  burn := none
  laneId := Bytes.fill 32 0x23
  privacyPolicy := .publicLineage
  proofPolicy := samplePolicy

def sampleTxid : Bytes32 := Bytes.fill 32 9

def sampleFinal (spent : List RgkAllocation) (shapes : List RgkContinuationAllocationShape) :
    RgkTransition :=
  RgkContinuationPlan.transitionAt (samplePlan spent shapes) sampleTxid 100 10

def sampleReport (spent : List RgkAllocation) (shapes : List RgkContinuationAllocationShape) :
    RgkContinuationReport :=
  RgkContinuationPlan.reportWith Sha256.digest (samplePlan spent shapes) 10 10 0
    (policyCommitmentBytes Sha256.digest samplePolicy)

def sampleStatement (spent : List RgkAllocation) (shapes : List RgkContinuationAllocationShape) :
    SemanticTransitionStatement :=
  reportStatement Sha256.digest (sampleFinal spent shapes) (sampleReport spent shapes) 10 10 0

lemma sample_accepted {spent : List RgkAllocation} {shapes : List RgkContinuationAllocationShape}
    (hspent : validateAllocationSetStructure .kaspaSimnet spent = .ok 10)
    (hnew : validateAllocationSetStructureAllowEmpty .kaspaSimnet
      (sampleFinal spent shapes).newAllocations = .ok 10)
    (hfresh : rejectReusedSpentAnchors spent (sampleFinal spent shapes).newAllocations = .ok ())
    (hv : (sampleStatement spent shapes).validate = .ok ()) :
    AcceptedTransition Sha256.digest (sampleFinal spent shapes)
      (RgkTransition.reportWith Sha256.digest (sampleFinal spent shapes) 10 10 0
        (policyCommitmentBytes Sha256.digest samplePolicy)) := by
  have hs := validateAllocationSetStructure_eq_ok.mp hspent
  have hn := validateAllocationSetStructureAllowEmpty_eq_ok.mp hnew
  have hf := rejectReusedSpentAnchors_eq_ok.mp hfresh
  obtain ⟨hz, hne⟩ := SemanticTransitionStatement.validate_moves hv
  have hcommon : validateCommon (Bytes.fill 32 0x21) (Bytes.fill 32 0x22) 10 (Bytes.fill 32 0x23)
      samplePolicy = .ok () := by decide +kernel
  have hhand : validateOwnershipHandoff (Bytes.fill 32 0x26) (Bytes.fill 32 0x26) Bytes.zero =
      .ok () := by decide +kernel
  have hm : (Bytes.fill 32 0x25 : Bytes32) ≠ Bytes.zero := by decide
  have ho : (Bytes.fill 32 0x26 : Bytes32) ≠ Bytes.zero := by decide
  have htx : sampleTxid ≠ Bytes.zero := by decide
  exact ⟨hcommon, hm, ho, ho, hhand, hz, htx, hs.1, hs.2, hn, rfl, rfl, rfl, hne, hf, rfl⟩

lemma sample_finalizes {spent : List RgkAllocation}
    {shapes : List RgkContinuationAllocationShape} {shape : RgkAllocationProofShape}
    (ha : AcceptedTransition Sha256.digest (sampleFinal spent shapes)
      (RgkTransition.reportWith Sha256.digest (sampleFinal spent shapes) 10 10 0
        (policyCommitmentBytes Sha256.digest samplePolicy)))
    (hshapes : validateContinuationShapesStructureAllowEmpty shapes none = .ok 10)
    (hshape : RgkAllocationProofShape.fromCounts spent.length shapes.length = some shape)
    (hv : (sampleStatement spent shapes).validate = .ok ()) :
    ∃ f : RgkFinalizedContinuation, f.transition = sampleFinal spent shapes ∧
      RgkContinuationPlan.finalizeForProductionZk Sha256.digest (samplePlan spent shapes)
        sampleTxid 100 10 = .ok f ∧
      RgkContinuationPlan.validate Sha256.digest (samplePlan spent shapes) =
        .ok (sampleReport spent shapes) ∧
      SemanticTransitionStatement.fromReports f.transitionReport (sampleReport spent shapes) =
        .ok (sampleStatement spent shapes) := by
  obtain ⟨commitment, hfin⟩ :=
    RgkContinuationPlan.finalizeForProductionZk_of_accepted ha hshapes hshape
  have hval := RgkContinuationPlan.validate_of_accepted ha hshapes
  have hcounts := RgkAllocationProofShape.fromCounts_eq_some.mp hshape
  have hsmall : shape.spentCount ≤ 4 ∧ shape.newCount ≤ 4 := by cases shape <;> decide
  refine ⟨_, rfl, hfin, unit_bind_eq_ok.mpr hval, fromReports_reportWith rfl rfl ?_ ?_ hv⟩
  · have hlen : (sampleFinal spent shapes).spentAllocations.length = spent.length := rfl
    omega
  · have hlen : (sampleFinal spent shapes).newAllocations.length = shapes.length := by
      simp [sampleFinal, RgkContinuationPlan.transitionAt, samplePlan]
    omega

/-- The strings of `anyOrderPreimages`, each once. -/
def listedPreimages (H : List UInt8 → Bytes32) (s : SemanticTransitionStatement)
    (t : RgkTransition) : List (List UInt8) :=
  let spents := t.spentAllocations.permutations'
  let news := t.newAllocations.permutations'
  (spents ++ news).map
      (fun as => taggedPreimage "rgk:asset:allocation-root:v1" (encodeAllocations as)) ++
    spents.map (fun as => taggedPreimage "rgk:asset:state:v2" (stateDigestPayloadWith
      (stateInput s as s.previousOwnerCommitment) (witnessRoot H as))) ++
    news.map (fun as => taggedPreimage "rgk:asset:state:v2" (stateDigestPayloadWith
      (stateInput s as s.newOwnerCommitment) (witnessRoot H as))) ++
    (spents ×ˢ news).map (fun orders => taggedPreimage "rgk:asset:transition:v2"
      (transitionDigestPayload
        (transitionFor s orders.1 orders.2 t.burn t.witnessTxid t.proofPolicy) s.newStateDigest
        s.policyCommitment))

lemma anyOrderPreimages_subset (H : List UInt8 → Bytes32) (s : SemanticTransitionStatement)
    (t : RgkTransition) : anyOrderPreimages H s t ⊆ {x | x ∈ listedPreimages H s t} := by
  intro x ⟨spent, new, hspent, hnew, hx⟩
  have hs := List.mem_permutations'.mpr hspent
  have hn := List.mem_permutations'.mpr hnew
  simp only [orderedPreimages, List.mem_cons, List.not_mem_nil, or_false] at hx
  simp only [listedPreimages, Set.mem_ofPred_eq, List.mem_append, List.mem_map]
  rcases hx with hx | hx | hx | hx | hx
  · exact Or.inl (Or.inl (Or.inl ⟨spent, Or.inl hs, hx.symm⟩))
  · exact Or.inl (Or.inl (Or.inl ⟨new, Or.inr hn, hx.symm⟩))
  · exact Or.inl (Or.inl (Or.inr ⟨spent, hs, hx.symm⟩))
  · exact Or.inl (Or.inr ⟨new, hn, hx.symm⟩)
  · exact Or.inr ⟨(spent, new), List.mem_product.mpr ⟨hs, hn⟩, hx.symm⟩

def sampleShape (index : UInt32) (amount : UInt64) : RgkContinuationAllocationShape :=
  ⟨index, Bytes.fill 32 1, amount, Bytes.fill 32 0x0b⟩

lemma sample_preimages {spent : List RgkAllocation} {shapes : List RgkContinuationAllocationShape}
    (h : (Bytes.zero :: (listedPreimages Sha256.digest (sampleStatement spent shapes)
      (sampleFinal spent shapes)).map Sha256.digest).Nodup) :
    let strings := anyOrderPreimages Sha256.digest (sampleStatement spent shapes)
      (sampleFinal spent shapes)
    NeverZero Sha256.digest strings ∧ CollisionFree Sha256.digest strings := by
  obtain ⟨hzero, hnodup⟩ := List.nodup_cons.mp h
  have hsub := anyOrderPreimages_subset Sha256.digest (sampleStatement spent shapes)
    (sampleFinal spent shapes)
  refine ⟨?_, (CollisionFree.of_nodup hnodup).mono hsub⟩
  intro x hx h0
  exact hzero (h0 ▸ List.mem_map_of_mem (hsub hx))

def sampleShapes : List RgkContinuationAllocationShape := [sampleShape 0 3, sampleShape 1 7]

def orderedSpent : List RgkAllocation := [sampleAllocation 1 1 6, sampleAllocation 1 2 4]

/-- Two allocations in order become two. -/
theorem circuit_complete_iff_sample :
    Provable Sha256.digest .twoInTwoOut (sampleStatement orderedSpent sampleShapes) orderedSpent
      (sampleFinal orderedSpent sampleShapes).newAllocations sampleTxid := by
  have hv : (sampleStatement orderedSpent sampleShapes).validate = .ok () := by decide +kernel
  have ha : AcceptedTransition Sha256.digest _ _ :=
    sample_accepted (by decide +kernel) (by decide +kernel) (by decide +kernel) hv
  obtain ⟨f, hf, hfin, hval, hst⟩ := sample_finalizes ha (by decide +kernel) rfl hv
  have hcf := (@sample_preimages orderedSpent sampleShapes (by decide +kernel)).2
  rw [← hf] at hcf
  obtain ⟨shape, hshape, hiff⟩ :=
    circuit_complete_iff Sha256.digest _ sampleTxid 100 10 f _ _ hfin hval hst hcf
  rw [hf] at hshape hiff
  obtain rfl := Option.some.inj hshape
  exact hiff.mpr ⟨by decide +kernel, by decide +kernel⟩

def unorderedSpent : List RgkAllocation := [sampleAllocation 1 2 4, sampleAllocation 1 1 6]

/-- A plan that names the later of two spent allocations first has no satisfying order. -/
theorem circuit_rejects_unordered_plan :
    ∃ f : RgkFinalizedContinuation,
      RgkContinuationPlan.finalizeForProductionZk Sha256.digest
        (samplePlan unorderedSpent sampleShapes) sampleTxid 100 10 = .ok f ∧
      RgkContinuationPlan.validate Sha256.digest (samplePlan unorderedSpent sampleShapes) =
        .ok (sampleReport unorderedSpent sampleShapes) ∧
      SemanticTransitionStatement.fromReports f.transitionReport
        (sampleReport unorderedSpent sampleShapes) =
          .ok (sampleStatement unorderedSpent sampleShapes) ∧
      NeverZero Sha256.digest (anyOrderPreimages Sha256.digest
        (sampleStatement unorderedSpent sampleShapes) f.transition) ∧
      CollisionFree Sha256.digest (anyOrderPreimages Sha256.digest
        (sampleStatement unorderedSpent sampleShapes) f.transition) ∧
      ¬Provable Sha256.digest .twoInTwoOut (sampleStatement unorderedSpent sampleShapes)
        f.transition.spentAllocations f.transition.newAllocations f.transition.witnessTxid := by
  have hv : (sampleStatement unorderedSpent sampleShapes).validate = .ok () := by decide +kernel
  have ha : AcceptedTransition Sha256.digest _ _ :=
    sample_accepted (by decide +kernel) (by decide +kernel) (by decide +kernel) hv
  obtain ⟨f, hf, hfin, hval, hst⟩ := sample_finalizes ha (by decide +kernel) rfl hv
  obtain ⟨hzero, hcf⟩ := @sample_preimages unorderedSpent sampleShapes (by decide +kernel)
  refine ⟨f, hfin, hval, hst, ?_, ?_, ?_⟩
  · rw [hf]
    exact hzero
  · rw [hf]
    exact hcf
  · rw [hf]
    intro ⟨spent, new, hlen, hlen', hps, hpn, hsat⟩
    have hw := (generateConstraints_reportStatement rfl ha hv rfl hpn hlen hlen').mp hsat
    have hcanon := canonical_of_witnessAccepted rfl ha hval hcf hps hpn hw
    exact absurd hcanon.1 (by decide +kernel)

end Samples
end RgkProtocol.CircuitCompleteness
