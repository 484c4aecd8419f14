import RgkProtocol.CircuitSoundness

/-!
# Which burn the digests of a proved statement bind

A constraint system carries the burn of the statement it was generated from as a constant. A
system generated from one statement therefore accepts other statements whose burn fields say
something else than their digests.
-/
namespace RgkProtocol.BurnBinding
open ByteStrings FieldPacking Hashing CoreTypes Checked AssetTypes AssetEncoding AssetValidation
open SemanticStatement CircuitGadgets AllocationCircuit CircuitMeaning CircuitSoundness

/-- The statement's continuation commitment and transition digest are the native digests with
the burn that its own fields describe. -/
structure BurnBound (H : List UInt8 → Bytes32) (s : SemanticTransitionStatement)
    (spent new : List RgkAllocation) (witnessTxid : Bytes32) (policy : RgkProofPolicy) : Prop where
  commitment : commitmentUnchecked H (planFor s spent new (statementBurn s) policy)
    s.policyCommitment (continuationShapeRoot H s.chainId (new.map shapeOf)) =
      s.continuationCommitment
  transition : transitionDigestUnchecked H
    (transitionFor s spent new (statementBurn s) witnessTxid policy) s.newStateDigest
    s.policyCommitment = s.transitionDigest

section Preimages
variable (H : List UInt8 → Bytes32) (s : SemanticTransitionStatement)
  (spent new : List RgkAllocation)

/-- The strings hashed for the commitment, natively with the statement's own burn and in a
system with the burn `burn`. -/
def commitmentPreimages (burn : Option RgkBurnProof) (policy : RgkProofPolicy) :
    List (List UInt8) :=
  [taggedPreimage "rgk:asset:allocation-root:v1" (allocationRootPayload spent),
    taggedPreimage "rgk:asset:allocation-root:v1" (encodeAllocations spent),
    taggedPreimage "rgk:continuation:shape-root:v1"
      (continuationShapePayload s.chainId (new.map shapeOf)),
    taggedPreimage "rgk:continuation:shape-root:v1" (encodeShapes s.chainId (new.map shapeOf)),
    taggedPreimage "rgk:continuation:phase1:v2"
      (continuationCommitmentPayload H (planFor s spent new (statementBurn s) policy)
        s.policyCommitment (continuationShapeRoot H s.chainId (new.map shapeOf))),
    taggedPreimage "rgk:continuation:phase1:v2"
      (continuationCommitmentPayloadWith (planFor s spent new burn policy) s.policyCommitment
        (witnessRoot H spent) s.continuationShapeRoot)]

end Preimages

section Payloads

lemma commitmentPayload_inj {s : SemanticTransitionStatement} {spent new : List RgkAllocation}
    {b c : Option RgkBurnProof} {policy : RgkProofPolicy} {root root' shape shape' : Bytes32}
    (h : continuationCommitmentPayloadWith (planFor s spent new b policy) s.policyCommitment root
        shape =
      continuationCommitmentPayloadWith (planFor s spent new c policy) s.policyCommitment root'
        shape') : root = root' ∧ shape = shape' ∧ b = c := by
  simp only [continuationCommitmentPayloadWith, planFor, List.cons_append, List.nil_append,
    List.cons.injEq, true_and, Bytes.append_inj, le64_append_inj, encodeBurnProof_append_inj] at h
  exact ⟨h.1, h.2.1, h.2.2.1⟩

end Payloads

section Binding
variable {H : List UInt8 → Bytes32} {s : SemanticTransitionStatement}
  {spent new : List RgkAllocation} {burn : Option RgkBurnProof} {txid : Bytes32}
  {policy : RgkProofPolicy}

lemma shapeRoot_eq_iff {Q : Set (List UInt8)} (hcf : CollisionFree H Q)
    {shapes : List RgkContinuationAllocationShape} {c : KaspaChainId}
    (hn : taggedPreimage "rgk:continuation:shape-root:v1" (continuationShapePayload c shapes) ∈ Q)
    (hw : taggedPreimage "rgk:continuation:shape-root:v1" (encodeShapes c shapes) ∈ Q) :
    continuationShapeRoot H c shapes =
        domainHashStr H "rgk:continuation:shape-root:v1" (encodeShapes c shapes) ↔
      InKeyOrder shapeKey shapes := by
  constructor
  · intro h
    have hp := payload_eq_of_domainHashStr_eq hcf hn hw h
    exact sortByKey_eq_self.mp (encodeShapes_injective c hp)
  · intro h
    rw [continuationShapeRoot, continuationShapePayload, sortByKey_eq_self.mpr h]

/-- What satisfies a system binds the statement's own burn exactly when the system carries that
burn and the order is canonical. -/
theorem burnBound_iff (h : WitnessAccepted H s spent new burn txid policy)
    (hcf : CollisionFree H {x | x ∈ commitmentPreimages H s spent new burn policy}) :
    BurnBound H s spent new txid policy ↔
      burn = statementBurn s ∧ InKeyOrder allocationKey spent ∧
        InKeyOrder shapeKey (new.map shapeOf) := by
  have hQ : ∀ x ∈ commitmentPreimages H s spent new burn policy,
      x ∈ {x | x ∈ commitmentPreimages H s spent new burn policy} := fun x hx => hx
  simp only [commitmentPreimages, List.forall_mem_cons] at hQ
  obtain ⟨hroot, hroot', hshape, hshape', hpay, hpay', -⟩ := hQ
  have hshapes := shapeRoot_eq_iff hcf hshape hshape'
  rw [h.shapeRoot] at hshapes
  constructor
  · intro hb
    have hp := payload_eq_of_domainHashStr_eq hcf hpay hpay'
      (hb.commitment.trans h.commitment.symm)
    obtain ⟨hr, hs, hburn⟩ := commitmentPayload_inj hp
    exact ⟨hburn.symm, inKeyOrder_of_root_eq hcf hroot hroot' hr, hshapes.mp hs⟩
  · rintro ⟨rfl, hspent, hnew⟩
    refine ⟨?_, h.transition⟩
    have hr : allocationRoot H (planFor s spent new (statementBurn s) policy).spentAllocations =
        witnessRoot H spent := allocationRoot_of_inKeyOrder hspent
    rw [commitmentUnchecked, continuationCommitmentPayload, hr, hshapes.mpr hnew]
    exact h.commitment

end Binding

/-- A statement accepted by the system generated from `s0` has the native digests of its own
burn exactly when its burn bytes are those of `s0` and its witness is in canonical order. -/
theorem circuit_burn_bound_iff (H : List UInt8 → Bytes32) (shape : RgkAllocationProofShape)
    (s0 p : List UInt8) (w : AllocationAssignment shape) (policy : RgkProofPolicy)
    (hlen : p.length = 512) (hp : w.publicFrs = publicInputsAsVars p)
    (hsat : SupportedAllocationVectorCircuit.generateConstraints H s0 w = .ok true) :
    ∃ (s : SemanticTransitionStatement) (spent new : List RgkAllocation) (txid : Bytes32)
      (burn : Option BurnDigestEncoding),
      s.publicInputs = p ∧ spent.map encodeAllocation = w.spent ∧
      new.map encodeAllocation = w.new ∧
      transitionWitnessTxid w.new w.terminalWitnessTxid = .ok txid.toList ∧
      burnDigestEncoding s0 = .ok burn ∧
      (CollisionFree H {x | x ∈ commitmentPreimages H s spent new (burn.map burnProofOf) policy} →
        (BurnBound H s spent new txid policy ↔
          slice s0 472 512 = slice p 472 512 ∧ InKeyOrder allocationKey spent ∧
            InKeyOrder shapeKey (new.map shapeOf))) := by
  obtain ⟨burn, txid, hsys⟩ := generateConstraints_eq_ok.mp hsat
  obtain ⟨s, spent, new, t, hs, hspent, hnew, ht, hacc⟩ := hsys.decodes
  have hps : s.publicInputs = p := hs.trans (hsys.statement_eq hlen hp)
  refine ⟨s, spent, new, t, burn, hps, hspent, hnew, ht ▸ hsys.txid, hsys.burnOk, fun hcf => ?_⟩
  rw [burnBound_iff (hacc policy) hcf, burnProof_eq_statementBurn_iff hsys.burnOk, hps]

section Samples

def sampleAuthorization : Bytes32 := Bytes.fill 32 0x28

def sampleBurn : BurnDigestEncoding := ⟨⟨le64 3, length_le64 3⟩, sampleAuthorization⟩

/-- Three units are burned into an output of the given transaction. -/
def sampleBurnMove (txid : UInt8) : SemanticTransitionStatement :=
  sampleMove 1 txid 3 sampleAuthorization (some (burnProofOf sampleBurn))

/-- The system was generated from another statement with the same burn. -/
theorem circuit_burn_bound_iff_sample :
    (sampleBurnMove 3).publicInputs ≠ (sampleBurnMove 2).publicInputs ∧
      BurnBound Sha256.digest (sampleBurnMove 2) [sampleAllocation 1 1 10] [sampleAllocation 1 2 7]
        (Bytes.fill 32 2) samplePolicy := by
  have hburn : burnDigestEncoding (sampleBurnMove 3).publicInputs = .ok (some sampleBurn) := by
    decide +kernel
  have hvalid : (sampleBurnMove 2).validate = .ok () := by decide +kernel
  have hsat := @sampleAssignment_satisfies 1 2 3 sampleAuthorization _ (some sampleBurn) hburn
    hvalid (sampleAllocation_ok (by decide) (by decide) (by decide)) (by decide) rfl
  obtain ⟨s, spent, new, txid, burn, hs, hspent, hnew, htxid, hb, hiff⟩ := circuit_burn_bound_iff
    Sha256.digest .oneInOneOut (sampleBurnMove 3).publicInputs (sampleBurnMove 2).publicInputs _
    samplePolicy (length_publicInputs _) (sampleAssignment_publicFrs ..) hsat
  obtain rfl := publicInputs_injective hs
  obtain rfl : spent = [sampleAllocation 1 1 10] := encodeAllocation_injective.list_map hspent
  obtain rfl : new = [sampleAllocation 1 2 7] := encodeAllocation_injective.list_map hnew
  obtain rfl := Except.ok.inj (hburn.symm.trans hb)
  obtain rfl : Bytes.fill 32 2 = txid := Bytes.toList_inj.mp (Except.ok.inj htxid)
  exact ⟨by decide +kernel, (hiff (CollisionFree.of_nodup_dedup (by decide +kernel))).mpr
    ⟨by decide +kernel, by decide, by decide⟩⟩

/-- The statement's fields burn three units with an authorization; its digests bind no burn. -/
def sampleHiddenBurn : SemanticTransitionStatement := sampleMove 1 2 3 sampleAuthorization none

theorem circuit_accepts_unbound_burn :
    SupportedAllocationVectorCircuit.generateConstraints Sha256.digest
        (sampleMove 1 2 0 Bytes.zero none).publicInputs
        (sampleAssignment 1 2 3 sampleAuthorization none) = .ok true ∧
      statementBurn sampleHiddenBurn = some ⟨3, sampleAuthorization⟩ ∧
      ¬BurnBound Sha256.digest sampleHiddenBurn [sampleAllocation 1 1 10] [sampleAllocation 1 2 7]
        (Bytes.fill 32 2) samplePolicy := by
  refine ⟨?_, by decide +kernel, fun h => ?_⟩
  · refine sampleAssignment_satisfies none (by decide +kernel) (by decide +kernel) ?_
      (by decide) rfl
    exact sampleAllocation_ok (by decide) (by decide) (by decide)
  · have hne : transitionDigestUnchecked Sha256.digest
        (transitionFor sampleHiddenBurn [sampleAllocation 1 1 10] [sampleAllocation 1 2 7]
          (statementBurn sampleHiddenBurn) (Bytes.fill 32 2) samplePolicy)
        sampleHiddenBurn.newStateDigest sampleHiddenBurn.policyCommitment ≠
          sampleHiddenBurn.transitionDigest := by
      decide +kernel
    exact hne h.transition

end Samples
end RgkProtocol.BurnBinding
