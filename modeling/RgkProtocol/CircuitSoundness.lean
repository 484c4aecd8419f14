import RgkProtocol.CircuitMeaning

/-!
# The allocation circuits against the native validator

The circuits check outpoints together with four bytes of the covenant id, and hash allocations
in witness order where the native code sorts. These are the only two differences: with
canonical order, and where a shared outpoint means a shared start of the covenant id, whatever
satisfies a circuit passes the native checks.
-/
namespace RgkProtocol.CircuitSoundness
open ByteStrings FieldPacking Hashing CoreTypes Checked AssetTypes AssetEncoding AssetValidation
open SemanticStatement CircuitGadgets AllocationCircuit CircuitMeaning

/-- The native checks on the allocations of a transition, with the statement's fields, supplies
and digests. -/
structure NativeChecks (H : List UInt8 → Bytes32) (s : SemanticTransitionStatement)
    (spent new : List RgkAllocation) : Prop where
  spentSet : validateAllocationSetStructure s.chainId spent = .ok s.spentSupply
  newSet : validateAllocationSetStructureAllowEmpty s.chainId new = .ok s.newSupply
  delta : validateSupplyDelta s.spentSupply s.newSupply (statementBurn s) = .ok s.burnedSupply
  previousDigest : stateDigestForAllocations H (stateInput s spent s.previousOwnerCommitment) =
    s.previousStateDigest
  newDigest : stateDigestForAllocations H (stateInput s new s.newOwnerCommitment) =
    s.newStateDigest
  changed : s.newStateDigest ≠ s.previousStateDigest
  notReused : rejectReusedSpentAnchors spent new = .ok ()

/-- Allocations that share an outpoint agree on the first four bytes of the covenant id. -/
def SharedOutpointsAgree (as : List RgkAllocation) : Prop :=
  ∀ a ∈ as, ∀ b ∈ as, a.outpoint = b.outpoint →
    a.anchor.covenantId.toList.take 4 = b.anchor.covenantId.toList.take 4

section Order
variable (H : List UInt8 → Bytes32) (s : SemanticTransitionStatement)

/-- The strings hashed for one state digest, natively and in a circuit. -/
def sidePreimages (as : List RgkAllocation) (owner : Bytes32) : List (List UInt8) :=
  stateDigestPreimages H (stateInput s as owner) ++
    [taggedPreimage "rgk:asset:allocation-root:v1" (encodeAllocations as),
      taggedPreimage "rgk:asset:state:v2"
        (stateDigestPayloadWith (stateInput s as owner) (witnessRoot H as))]

/-- The strings hashed for the state digests of a transition, natively and in a circuit. -/
def statePreimages (spent new : List RgkAllocation) : List (List UInt8) :=
  sidePreimages H s spent s.previousOwnerCommitment ++ sidePreimages H s new s.newOwnerCommitment

variable {H s}

lemma allocationRoot_of_inKeyOrder {as : List RgkAllocation} (h : InKeyOrder allocationKey as) :
    allocationRoot H as = witnessRoot H as := by
  rw [allocationRoot, witnessRoot, allocationRootPayload, sortByKey_eq_self.mpr h]

/-- A collision-free root over the witness order is the native root only in canonical order. -/
lemma inKeyOrder_of_root_eq {Q : Set (List UInt8)} (hcf : CollisionFree H Q)
    {as : List RgkAllocation}
    (hn : taggedPreimage "rgk:asset:allocation-root:v1" (allocationRootPayload as) ∈ Q)
    (hw : taggedPreimage "rgk:asset:allocation-root:v1" (encodeAllocations as) ∈ Q)
    (h : allocationRoot H as = witnessRoot H as) : InKeyOrder allocationKey as := by
  have hp := payload_eq_of_domainHashStr_eq hcf hn hw h
  exact sortByKey_eq_self.mp (encodeAllocations_injective hp)

lemma stateDigest_eq_iff (as : List RgkAllocation) (owner : Bytes32) {Q : Set (List UInt8)}
    (hcf : CollisionFree H Q) (hQ : ∀ x ∈ sidePreimages H s as owner, x ∈ Q) :
    stateDigestForAllocations H (stateInput s as owner) =
        domainHashStr H "rgk:asset:state:v2"
          (stateDigestPayloadWith (stateInput s as owner) (witnessRoot H as)) ↔
      InKeyOrder allocationKey as := by
  simp only [sidePreimages, stateDigestPreimages, List.cons_append, List.nil_append,
    List.forall_mem_cons] at hQ
  obtain ⟨hroot, hstate, hroot', hstate', -⟩ := hQ
  constructor
  · intro h
    have hp := payload_eq_of_domainHashStr_eq hcf hstate hstate' h
    simp only [stateDigestPayload, stateDigestPayloadWith, Bytes.append_inj,
      le64_append_inj] at hp
    exact inKeyOrder_of_root_eq hcf hroot hroot' hp.2.2.1
  · intro h
    have hr : allocationRoot H (stateInput s as owner).allocations = witnessRoot H as :=
      allocationRoot_of_inKeyOrder h
    rw [stateDigestForAllocations, stateDigestPayload, hr]

end Order

section Outpoints

/-- Where the circuit's tags are distinct, outpoints are distinct exactly when shared outpoints
agree. -/
lemma outpoints_nodup_iff {as : List RgkAllocation} (h : (as.map anchorTag).Nodup) :
    (as.map RgkAllocation.outpoint).Nodup ↔ SharedOutpointsAgree as := by
  have has : as.Nodup := h.of_map _
  have htag := (List.nodup_map_iff_inj_on has).mp h
  rw [List.nodup_map_iff_inj_on has]
  constructor
  · intro hinj a ha b hb hab
    rw [hinj a ha b hb hab]
  · intro hagree a ha b hb hab
    exact htag a ha b hb (Prod.ext hab (hagree a ha b hb hab))

lemma outpoints_append_nodup_iff {spent new : List RgkAllocation} :
    ((spent ++ new).map RgkAllocation.outpoint).Nodup ↔
      (spent.map RgkAllocation.outpoint).Nodup ∧ (new.map RgkAllocation.outpoint).Nodup ∧
        ∀ a ∈ new, a.outpoint ∉ spent.map RgkAllocation.outpoint := by
  rw [List.map_append, List.nodup_append']
  refine and_congr_right fun _ => and_congr_right fun _ => ?_
  constructor
  · intro hd a ha hmem
    exact hd hmem (List.mem_map_of_mem ha)
  · intro hd o ho hn
    obtain ⟨a, ha, rfl⟩ := List.mem_map.mp hn
    exact hd a ha ho

lemma WitnessAccepted.tags_nodup {H : List UInt8 → Bytes32} {s : SemanticTransitionStatement}
    {spent new : List RgkAllocation} {burn : Option RgkBurnProof} {txid : Bytes32}
    {policy : RgkProofPolicy} (h : WitnessAccepted H s spent new burn txid policy) :
    ((spent ++ new).map anchorTag).Nodup := by
  rw [List.map_append, List.nodup_append']
  refine ⟨h.spentDistinct, h.newDistinct, ?_⟩
  intro x hx hy
  obtain ⟨a, ha, rfl⟩ := List.mem_map.mp hx
  obtain ⟨b, hb, hab⟩ := List.mem_map.mp hy
  exact h.notReused a ha b hb hab.symm

end Outpoints

section Soundness
variable {H : List UInt8 → Bytes32} {s : SemanticTransitionStatement}
  {spent new : List RgkAllocation} {burn : Option RgkBurnProof} {txid : Bytes32}
  {policy : RgkProofPolicy}

/-- What satisfies the circuit passes the native checks exactly when its order is canonical and
shared outpoints agree. -/
theorem nativeChecks_iff (h : WitnessAccepted H s spent new burn txid policy) (hne : spent ≠ [])
    (hburn : BurnAccounts s.burnedSupply (statementBurn s))
    (hchanged : s.previousStateDigest ≠ s.newStateDigest)
    (hcf : CollisionFree H {x | x ∈ statePreimages H s spent new}) :
    NativeChecks H s spent new ↔
      InKeyOrder allocationKey spent ∧ InKeyOrder allocationKey new ∧
        SharedOutpointsAgree (spent ++ new) := by
  have hprev := stateDigest_eq_iff (s := s) spent s.previousOwnerCommitment hcf
    (fun x hx => List.mem_append_left _ hx)
  have hnew := stateDigest_eq_iff (s := s) new s.newOwnerCommitment hcf
    (fun x hx => List.mem_append_right _ hx)
  rw [h.previousDigest] at hprev
  rw [h.newDigest] at hnew
  rw [← outpoints_nodup_iff (WitnessAccepted.tags_nodup h), outpoints_append_nodup_iff]
  constructor
  · intro hn
    have hs := (validateAllocationSetStructure_eq_ok.mp hn.spentSet).2.distinct
    have ht := (validateAllocationSetStructureAllowEmpty_eq_ok.mp hn.newSet).distinct
    exact ⟨hprev.mp hn.previousDigest, hnew.mp hn.newDigest, hs, ht,
      rejectReusedSpentAnchors_eq_ok.mp hn.notReused⟩
  · rintro ⟨hos, hon, hds, hdn, hreuse⟩
    refine ⟨?_, ?_, ?_, hprev.mpr hos, hnew.mpr hon, hchanged.symm, ?_⟩
    · exact validateAllocationSetStructure_eq_ok.mpr ⟨hne, h.spentOk, hds, h.spentSupply.symm⟩
    · exact validateAllocationSetStructureAllowEmpty_eq_ok.mpr ⟨h.newOk, hdn, h.newSupply.symm⟩
    · exact validateSupplyDelta_eq_ok.mpr ⟨h.delta, hburn⟩
    · exact rejectReusedSpentAnchors_eq_ok.mpr hreuse

end Soundness

/-- Every assignment that satisfies the system of a statement decodes, and what it decodes to
passes the native checks exactly when both sides stand in canonical order and allocations in
one outpoint agree on the first four bytes of the covenant id. -/
theorem circuit_nativeChecks_iff (H : List UInt8 → Bytes32) (shape : RgkAllocationProofShape)
    (p : List UInt8) (w : AllocationAssignment shape) (hp : w.publicFrs = publicInputsAsVars p)
    (hsat : SupportedAllocationVectorCircuit.generateConstraints H p w = .ok true) :
    ∃ (s : SemanticTransitionStatement) (spent new : List RgkAllocation),
      s.publicInputs = p ∧ spent.map encodeAllocation = w.spent ∧
      new.map encodeAllocation = w.new ∧
      (CollisionFree H {x | x ∈ statePreimages H s spent new} →
        (NativeChecks H s spent new ↔
          InKeyOrder allocationKey spent ∧ InKeyOrder allocationKey new ∧
            SharedOutpointsAgree (spent ++ new))) := by
  obtain ⟨burn, txid, hsys⟩ := generateConstraints_eq_ok.mp hsat
  have hstatement := hsys.statement_eq (burnDigestEncoding_length hsys.burnOk) hp
  obtain ⟨s, spent, new, t, hs, hspent, hnew, -, hacc⟩ := hsys.decodes
  have hps : s.publicInputs = p := hs.trans hstatement
  have hne : spent ≠ [] := by
    intro h
    rw [h] at hspent
    exact AllocationAssignment.spent_ne w hspent.symm
  have hburn := hsys.burnOk
  have hlayout := hsys.layout
  rw [← hps] at hburn
  rw [← hs] at hlayout
  have hchanged : s.previousStateDigest ≠ s.newStateDigest := by
    have hc := hlayout.2.2.2.2.2.1
    simpa using hc
  exact ⟨s, spent, new, hps, hspent, hnew, fun hcf => nativeChecks_iff
    (hacc (.verifierReceipt Bytes.zero)) hne (burnAccounts_statementBurn hburn) hchanged hcf⟩

section Samples
variable (H : List UInt8 → Bytes32)

/-- The statement of a witness: counts and digests are computed, the rest is as given. -/
def completeStatement (base : SemanticTransitionStatement) (spent new : List RgkAllocation)
    (burn : Option RgkBurnProof) (witnessTxid : Bytes32) (policy : RgkProofPolicy) :
    SemanticTransitionStatement :=
  let states := { base with
    spentAllocationCount := UInt64.ofNat spent.length
    newAllocationCount := UInt64.ofNat new.length
    previousStateDigest := domainHashStr H "rgk:asset:state:v2"
      (stateDigestPayloadWith (stateInput base spent base.previousOwnerCommitment)
        (witnessRoot H spent))
    newStateDigest := domainHashStr H "rgk:asset:state:v2"
      (stateDigestPayloadWith (stateInput base new base.newOwnerCommitment) (witnessRoot H new))
    continuationShapeRoot := domainHashStr H "rgk:continuation:shape-root:v1"
      (encodeShapes base.chainId (new.map shapeOf)) }
  let committed := { states with
    continuationCommitment := domainHashStr H "rgk:continuation:phase1:v2"
      (continuationCommitmentPayloadWith (planFor states spent new burn policy)
        states.policyCommitment (witnessRoot H spent) states.continuationShapeRoot) }
  { committed with
    transitionDigest := transitionDigestUnchecked H
      (transitionFor committed spent new burn witnessTxid policy) committed.newStateDigest
      committed.policyCommitment }

lemma completeStatement_accepted {base : SemanticTransitionStatement}
    {spent new : List RgkAllocation} (burn : Option RgkBurnProof) {witnessTxid : Bytes32}
    (policy : RgkProofPolicy) (hne : new ≠ [])
    (hspent : ∀ a ∈ spent, AllocationOk base.chainId a)
    (hnew : ∀ a ∈ new, AllocationOk base.chainId a)
    (htx : ∀ a ∈ new, a.outpoint.transactionId = witnessTxid ∧ a.anchor.witnessTxid = witnessTxid)
    (hds : (spent.map anchorTag).Nodup) (hdn : (new.map anchorTag).Nodup)
    (hreuse : ∀ a ∈ spent, ∀ b ∈ new, anchorTag a ≠ anchorTag b)
    (hss : supplyOf spent = base.spentSupply.toNat) (hns : supplyOf new = base.newSupply.toNat)
    (hdelta : base.spentSupply.toNat = base.newSupply.toNat + base.burnedSupply.toNat) :
    WitnessAccepted H (completeStatement H base spent new burn witnessTxid policy) spent new burn
      witnessTxid policy :=
  ⟨fun h => absurd h hne, rfl, rfl, hspent, hnew, fun a ha => (htx a ha).1.trans (htx a ha).2.symm,
    hds, hdn, hreuse, hss, hns, hdelta, rfl, rfl, rfl, rfl, fun a ha => (htx a ha).2, rfl⟩

def sampleAllocation (covenant txid : UInt8) (amount : UInt64) : RgkAllocation :=
  ⟨⟨.kaspaSimnet, ⟨Bytes.fill 32 txid, 0⟩, Bytes.fill 32 covenant, Bytes.fill 32 txid, 100, 10⟩,
    amount, Bytes.fill 32 0x0b⟩

lemma sampleAllocation_ok {covenant txid : UInt8} {amount : UInt64} (hc : covenant ≠ 0)
    (ht : txid ≠ 0) (ha : amount ≠ 0) :
    AllocationOk .kaspaSimnet (sampleAllocation covenant txid amount) := by
  have hfill : ∀ {x : UInt8}, x ≠ 0 → (Bytes.fill 32 x : Bytes32) ≠ Bytes.zero := by
    intro x hx h
    exact hx (List.cons.inj (congrArg Bytes.toList h)).1
  exact ⟨ha, rfl, fun h => hfill ht (congrArg KaspaOutpoint.transactionId h), hfill hc, hfill ht,
    hfill (by decide), show (10 : UInt64) ≠ 0 by decide⟩

/-- Ten units move, of which `burned` are burned. -/
def sampleBase (burned : UInt64) (authorization : Bytes32) : SemanticTransitionStatement where
  chainId := .kaspaSimnet
  schemaId := Bytes.fill 32 0x21
  assetId := Bytes.fill 32 0x22
  previousStateDigest := Bytes.zero
  newStateDigest := Bytes.zero
  transitionDigest := Bytes.zero
  continuationCommitment := Bytes.zero
  continuationShapeRoot := Bytes.zero
  laneId := Bytes.fill 32 0x23
  privacyPolicy := .publicLineage
  policyCommitment := Bytes.fill 32 0x24
  metadataCommitment := Bytes.fill 32 0x25
  previousOwnerCommitment := Bytes.fill 32 0x26
  newOwnerCommitment := Bytes.fill 32 0x26
  ownershipAuthorizationCommitment := Bytes.zero
  totalSupply := 10
  spentAllocationCount := 0
  newAllocationCount := 0
  spentSupply := 10
  newSupply := 10 - burned
  burnedSupply := burned
  burnAuthorizationCommitment := authorization

def samplePolicy : RgkProofPolicy := .verifierReceipt (Bytes.fill 32 0x27)

/-- The statement that moves ten units, less the burn in its fields, into a new allocation; its
digests are computed with the burn `burn`. -/
def sampleMove (covenant txid : UInt8) (burned : UInt64) (authorization : Bytes32)
    (burn : Option RgkBurnProof) : SemanticTransitionStatement :=
  completeStatement Sha256.digest (sampleBase burned authorization) [sampleAllocation 1 1 10]
    [sampleAllocation covenant txid (10-burned)] burn (Bytes.fill 32 txid) samplePolicy

def sampleAssignment (covenant txid : UInt8) (burned : UInt64) (authorization : Bytes32)
    (burn : Option RgkBurnProof) : AllocationAssignment .oneInOneOut :=
  assignmentFor .oneInOneOut (sampleMove covenant txid burned authorization burn)
    [sampleAllocation 1 1 10] [sampleAllocation covenant txid (10-burned)] (Bytes.fill 32 txid)
    rfl rfl

lemma sampleAssignment_publicFrs (covenant txid : UInt8) (burned : UInt64)
    (authorization : Bytes32) (burn : Option RgkBurnProof) :
    (sampleAssignment covenant txid burned authorization burn).publicFrs =
      publicInputsAsVars (sampleMove covenant txid burned authorization burn).publicInputs :=
  rfl

lemma sampleAssignment_satisfies {covenant txid : UInt8} {burned : UInt64}
    {authorization : Bytes32} {p : List UInt8} (burn : Option BurnDigestEncoding)
    (hp : burnDigestEncoding p = .ok burn)
    (hvalid : (sampleMove covenant txid burned authorization (burn.map burnProofOf)).validate =
      .ok ())
    (hnew : AllocationOk .kaspaSimnet (sampleAllocation covenant txid (10-burned)))
    (htag : anchorTag (sampleAllocation 1 1 10) ≠
      anchorTag (sampleAllocation covenant txid (10-burned)))
    (hdelta : 10 = (10-burned).toNat + burned.toNat) :
    SupportedAllocationVectorCircuit.generateConstraints Sha256.digest p
      (sampleAssignment covenant txid burned authorization (burn.map burnProofOf)) = .ok true := by
  refine (generateConstraints_assignmentFor rfl rfl hp (enforceSemanticLayout_of_validate hvalid)
    samplePolicy (fun h => by cases h) (by simp [sampleAllocation])).mpr ?_
  have hspent : AllocationOk .kaspaSimnet (sampleAllocation 1 1 10) :=
    sampleAllocation_ok (by decide) (by decide) (by decide)
  refine completeStatement_accepted _ _ samplePolicy (by simp)
    (List.forall_mem_singleton.mpr hspent) (List.forall_mem_singleton.mpr hnew)
    (by simp [sampleAllocation]) (by simp) (by simp) (by simpa using htag) rfl ?_ hdelta
  simp [supplyOf, sampleAllocation, sampleBase]

lemma sampleMove_satisfies :
    SupportedAllocationVectorCircuit.generateConstraints Sha256.digest
      (sampleMove 1 2 0 Bytes.zero none).publicInputs (sampleAssignment 1 2 0 Bytes.zero none) =
        .ok true := by
  refine sampleAssignment_satisfies none (by decide +kernel) (by decide +kernel) ?_ (by decide) rfl
  exact sampleAllocation_ok (by decide) (by decide) (by decide)

theorem circuit_nativeChecks_iff_sample :
    NativeChecks Sha256.digest (sampleMove 1 2 0 Bytes.zero none) [sampleAllocation 1 1 10]
      [sampleAllocation 1 2 10] := by
  obtain ⟨s, spent, new, hs, hspent, hnew, hiff⟩ := circuit_nativeChecks_iff Sha256.digest
    .oneInOneOut (sampleMove 1 2 0 Bytes.zero none).publicInputs
    (sampleAssignment 1 2 0 Bytes.zero none) (sampleAssignment_publicFrs 1 2 0 Bytes.zero none)
    sampleMove_satisfies
  obtain rfl := publicInputs_injective hs
  obtain rfl : spent = [sampleAllocation 1 1 10] := encodeAllocation_injective.list_map hspent
  obtain rfl : new = [sampleAllocation 1 2 10] := encodeAllocation_injective.list_map hnew
  exact (hiff (CollisionFree.of_nodup_dedup (by decide +kernel))).mpr
    ⟨by decide, by decide, by simp [SharedOutpointsAgree, sampleAllocation]⟩

/-- One outpoint is spent and created again under another covenant id. -/
theorem circuit_accepts_reused_outpoint :
    SupportedAllocationVectorCircuit.generateConstraints Sha256.digest
        (sampleMove 2 1 0 Bytes.zero none).publicInputs (sampleAssignment 2 1 0 Bytes.zero none) =
          .ok true ∧
      (sampleAllocation 1 1 10).outpoint = (sampleAllocation 2 1 10).outpoint ∧
      rejectReusedSpentAnchors [sampleAllocation 1 1 10] [sampleAllocation 2 1 10] =
        .error (.reusedSpentAnchor 0) ∧
      ¬NativeChecks Sha256.digest (sampleMove 2 1 0 Bytes.zero none) [sampleAllocation 1 1 10]
        [sampleAllocation 2 1 10] := by
  have hreuse : rejectReusedSpentAnchors [sampleAllocation 1 1 10] [sampleAllocation 2 1 10] =
      .error (.reusedSpentAnchor 0) := by
    decide
  refine ⟨?_, rfl, hreuse, fun h => ?_⟩
  · refine sampleAssignment_satisfies none (by decide +kernel) (by decide +kernel) ?_
      (by decide) rfl
    exact sampleAllocation_ok (by decide) (by decide) (by decide)
  · have hok := h.notReused
    rw [hreuse] at hok
    cases hok

end Samples
end RgkProtocol.CircuitSoundness
