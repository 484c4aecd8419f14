import RgkProtocol.AllocationCircuit

/-!
# What the allocation constraints mean

Byte strings that satisfy the constraints decode: the statement to a typed statement, the
records to allocations. On decoded values every constraint is a typed condition; the digests
run over the allocations in witness order.
-/
namespace RgkProtocol.CircuitMeaning
open ByteStrings FieldPacking Hashing CoreTypes Checked AssetTypes AssetEncoding AssetValidation
open SemanticStatement CircuitGadgets AllocationCircuit

section Records

@[simp] theorem slice_encodeAllocation (a : RgkAllocation) :
    slice (encodeAllocation a) 1 33 = a.outpoint.transactionId.toList ∧
    slice (encodeAllocation a) 33 37 = le32 a.outpoint.index ∧
    slice (encodeAllocation a) 37 69 = a.anchor.covenantId.toList ∧
    slice (encodeAllocation a) 69 101 = a.anchor.witnessTxid.toList ∧
    slice (encodeAllocation a) 101 109 = le64 a.anchor.daaScore ∧
    slice (encodeAllocation a) 109 117 = le64 a.anchor.confirmationDepth ∧
    slice (encodeAllocation a) 117 125 = le64 a.amount ∧
    slice (encodeAllocation a) 125 157 = a.encryptedNoteCommitment.toList := by
  simp [encodeAllocation, slice_cons, slice_append_right, slice_append_left, slice_full]

@[simp] lemma byteAt_encodeAllocation (a : RgkAllocation) :
    byteAt (encodeAllocation a) 0 = a.anchor.chain.asU8 := rfl

/-- The outpoint with the first four bytes of the covenant id: what the circuits compare. -/
def anchorTag (a : RgkAllocation) : KaspaOutpoint × List UInt8 :=
  (a.outpoint, a.anchor.covenantId.toList.take 4)

lemma slice_outpoint (a : RgkAllocation) :
    slice (encodeAllocation a) 1 37 = a.outpoint.transactionId.toList ++ le32 a.outpoint.index := by
  have hs := slice_encodeAllocation a
  rw [← slice_append_slice (show 1 ≤ 33 by omega) (show 33 ≤ 37 by omega), hs.1, hs.2.1]

lemma slice_anchorTag (a : RgkAllocation) :
    slice (encodeAllocation a) 1 41 =
      a.outpoint.transactionId.toList ++ (le32 a.outpoint.index ++
        a.anchor.covenantId.toList.take 4) := by
  have hs := slice_encodeAllocation a
  have hc : slice (encodeAllocation a) 37 41 = a.anchor.covenantId.toList.take 4 := by
    have hslice := @slice_slice (encodeAllocation a) 37 69 0 4 (by omega)
    rw [hs.2.2.1] at hslice
    exact hslice.symm
  rw [← slice_append_slice (show 1 ≤ 37 by omega) (show 37 ≤ 41 by omega), slice_outpoint, hc,
    List.append_assoc]

lemma slice_anchorTag_inj {a b : RgkAllocation} :
    slice (encodeAllocation a) 1 41 = slice (encodeAllocation b) 1 41 ↔
      anchorTag a = anchorTag b := by
  rw [slice_anchorTag, slice_anchorTag, Bytes.append_inj, le32_append_inj, anchorTag, anchorTag,
    Prod.mk.injEq, ← and_assoc]
  refine and_congr_left fun _ => ?_
  constructor
  · intro h
    exact KaspaOutpoint.ext h.1 h.2
  · intro h
    rw [h]
    exact ⟨rfl, rfl⟩

/-- On a record of the chain, the common constraints are the native checks of an allocation. -/
theorem enforceAllocationCommon_iff {c : KaspaChainId} {a : RgkAllocation} :
    enforceAllocationCommonForChain c.asU8 (encodeAllocation a) ↔ AllocationOk c a := by
  have hs := slice_encodeAllocation a
  have hout : enforceNonzeroBytes (slice (encodeAllocation a) 1 37) ↔
      a.outpoint ≠ KaspaOutpoint.null := by
    have hz : List.replicate 36 (0 : UInt8) =
        (Bytes.zero : Bytes32).toList ++ le32 0 := rfl
    have hlen : (slice (encodeAllocation a) 1 37).length = 36 := length_slice (by simp)
    rw [enforceNonzeroBytes, hlen, hz, slice_outpoint, ne_eq, Bytes.append_inj, le32_inj, ne_eq,
      not_iff_not]
    exact ⟨fun h => KaspaOutpoint.ext h.1 h.2, fun h => by rw [h]; exact ⟨rfl, rfl⟩⟩
  rw [enforceAllocationCommonForChain, hout, byteAt_encodeAllocation, KaspaChainId.asU8_inj,
    hs.2.2.1, hs.2.2.2.1, hs.2.2.2.2.2.1, hs.2.2.2.2.2.2.1, hs.2.2.2.2.2.2.2]
  simp only [enforceNonzeroBytes_toList, enforceNonzeroBytes_le64]
  constructor
  · rintro ⟨hc, ho, hv, hw, hd, hm, hn⟩
    exact ⟨hm, hc, ho, hv, hw, hn, hd⟩
  · rintro ⟨hm, hc, ho, hv, hw, hn, hd⟩
    exact ⟨hc, ho, hv, hw, hd, hm, hn⟩

/-- A record of the right width whose chain byte is known decodes. -/
lemma exists_encodeAllocation {b : List UInt8} (hlen : b.length = 157) {c : KaspaChainId}
    (hc : byteAt b 0 = c.asU8) : ∃ a, encodeAllocation a = b := by
  refine ⟨⟨⟨c, ⟨bytesAt 32 b 1, u32OfLe (slice b 33 37)⟩, bytesAt 32 b 37, bytesAt 32 b 69,
    u64OfLe (slice b 101 109), u64OfLe (slice b 109 117)⟩, u64OfLe (slice b 117 125),
    bytesAt 32 b 125⟩, ?_⟩
  have hl : ∀ lo hi, hi ≤ 157 → (slice b lo hi).length = hi-lo := fun lo hi h =>
    length_slice (hlen ▸ h)
  have hchain : [c.asU8] = slice b 0 1 := by
    obtain ⟨x, l, rfl⟩ := List.exists_cons_of_length_eq_add_one hlen
    rw [← hc]
    rfl
  simp only [encodeAllocation]
  rw [toList_bytesAt (by omega), toList_bytesAt (by omega), toList_bytesAt (by omega),
    toList_bytesAt (by omega), le32_u32OfLe (hl 33 37 (by omega)), le64_u64OfLe (hl 101 109 (by omega)),
    le64_u64OfLe (hl 109 117 (by omega)), le64_u64OfLe (hl 117 125 (by omega)), hchain]
  simp only [Nat.reduceAdd]
  simp (disch := omega) only [slice_append_slice]
  exact slice_full hlen

lemma exists_encodeAllocations (bs : List (List UInt8)) {c : KaspaChainId}
    (h : ∀ b ∈ bs, b.length = 157 ∧ byteAt b 0 = c.asU8) :
    ∃ as : List RgkAllocation, as.map encodeAllocation = bs := by
  induction bs with
  | nil => exact ⟨[], rfl⟩
  | cons b bs ih =>
    obtain ⟨hb, hbs⟩ := List.forall_mem_cons.mp h
    obtain ⟨a, ha⟩ := exists_encodeAllocation hb.1 hb.2
    obtain ⟨as, has⟩ := ih hbs
    exact ⟨a :: as, by rw [List.map_cons, ha, has]⟩

lemma amountAt_encodeAllocation (a : RgkAllocation) :
    amountAt (encodeAllocation a) = a.amount.toNat := by
  rw [amountAt, (slice_encodeAllocation a).2.2.2.2.2.2.1, leNat_le64]

end Records

section Statements

lemma exists_privacyPolicy {b : UInt8} (h : b ∈ [(0 : UInt8), 1, 2]) :
    ∃ p : LanePrivacyPolicy, b = p.asU8 := by
  simp only [List.mem_cons, List.not_mem_nil, or_false] at h
  rcases h with rfl | rfl | rfl
  · exact ⟨.publicLineage, rfl⟩
  · exact ⟨.privateLane, rfl⟩
  · exact ⟨.stealthLane, rfl⟩

/-- A string of the right width that satisfies the layout is the encoding of a statement. -/
theorem exists_publicInputs {p : List UInt8} (hlen : p.length = 512)
    (h : enforceSemanticLayout p) : ∃ s : SemanticTransitionStatement, s.publicInputs = p := by
  have hl : ∀ lo hi, hi ≤ 512 → (slice p lo hi).length = hi-lo := fun lo hi h =>
    length_slice (hlen ▸ h)
  obtain ⟨hchain, -, -, -, -, -, -, -, -, -, -, -, -, -, -, -, -, hpriv, hpad, -⟩ := h
  obtain ⟨c, hc⟩ := (enforceChainIdLayout_iff (hl 0 8 (by omega))).mp hchain
  obtain ⟨q, hq⟩ := exists_privacyPolicy hpriv
  have hqs : slice p 448 456 = le64 q.asU8.toUInt64 := by
    have hb : ∀ i < 8, byteAt (slice p 448 456) i = byteAt p (448+i) := fun i hi =>
      byteAt_slice (by omega)
    have hz : ∀ i, 1 ≤ i → i < 8 → byteAt (slice p 448 456) i = 0 := by
      intro i h1 h8
      rw [hb i h8]
      apply hpad
      simp only [List.mem_cons, List.not_mem_nil, or_false]
      omega
    rw [eq_byteAt_of_length_eight (hl 448 456 (by omega)), hb 0 (by omega), hq,
      hz 1 (by omega) (by omega), hz 2 (by omega) (by omega), hz 3 (by omega) (by omega),
      hz 4 (by omega) (by omega), hz 5 (by omega) (by omega), hz 6 (by omega) (by omega),
      hz 7 (by omega) (by omega)]
    cases q <;> rfl
  refine ⟨⟨c, bytesAt 32 p 8, bytesAt 32 p 40, bytesAt 32 p 72, bytesAt 32 p 104,
    bytesAt 32 p 136, bytesAt 32 p 168, bytesAt 32 p 200, bytesAt 32 p 232, q,
    bytesAt 32 p 264, bytesAt 32 p 296, bytesAt 32 p 328, bytesAt 32 p 360, bytesAt 32 p 392,
    u64OfLe (slice p 424 432), u64OfLe (slice p 432 440), u64OfLe (slice p 440 448),
    u64OfLe (slice p 456 464), u64OfLe (slice p 464 472), u64OfLe (slice p 472 480),
    bytesAt 32 p 480⟩, ?_⟩
  have hword : ∀ lo, lo+8 ≤ 512 → le64 (u64OfLe (slice p lo (lo+8))) = slice p lo (lo+8) :=
    fun lo h => le64_u64OfLe (by rw [hl lo (lo+8) h]; omega)
  simp (disch := omega) only [SemanticTransitionStatement.publicInputs, toList_bytesAt]
  rw [← hc, ← hqs, hword 424 (by omega), hword 432 (by omega), hword 440 (by omega),
    hword 456 (by omega), hword 464 (by omega), hword 472 (by omega)]
  simp only [Nat.reduceAdd]
  simp (disch := omega) only [slice_append_slice]
  exact slice_full hlen

end Statements

section Digests
variable (H : List UInt8 → Bytes32) (s : SemanticTransitionStatement)

/-- The allocation root over the allocations in the order given. -/
def witnessRoot (as : List RgkAllocation) : Bytes32 :=
  domainHashStr H "rgk:asset:allocation-root:v1" (encodeAllocations as)

/-- What a state digest under the statement's fields is computed from. -/
def stateInput (as : List RgkAllocation) (owner : Bytes32) : RgkStateDigestInput :=
  { assetId := s.assetId, totalSupply := s.totalSupply, allocations := as, laneId := s.laneId,
    privacyPolicy := s.privacyPolicy, policyCommitment := s.policyCommitment,
    metadataCommitment := s.metadataCommitment, ownerCommitment := owner }

def shapeOf (a : RgkAllocation) : RgkContinuationAllocationShape :=
  ⟨a.outpoint.index, a.anchor.covenantId, a.amount, a.encryptedNoteCommitment⟩

/-- The continuation plan that the statement's fields describe. -/
def planFor (spent new : List RgkAllocation) (burn : Option RgkBurnProof)
    (policy : RgkProofPolicy) : RgkContinuationPlan :=
  { chain := s.chainId, schemaId := s.schemaId, assetId := s.assetId,
    totalSupply := s.totalSupply, metadataCommitment := s.metadataCommitment,
    previousOwnerCommitment := s.previousOwnerCommitment,
    newOwnerCommitment := s.newOwnerCommitment,
    ownershipAuthorizationCommitment := s.ownershipAuthorizationCommitment,
    previousStateDigest := s.previousStateDigest, spentAllocations := spent,
    newAllocationShapes := new.map shapeOf, burn := burn, laneId := s.laneId,
    privacyPolicy := s.privacyPolicy, proofPolicy := policy }

/-- The transition that the statement's fields describe. -/
def transitionFor (spent new : List RgkAllocation) (burn : Option RgkBurnProof)
    (witnessTxid : Bytes32) (policy : RgkProofPolicy) : RgkTransition :=
  { chain := s.chainId, schemaId := s.schemaId, assetId := s.assetId,
    totalSupply := s.totalSupply, metadataCommitment := s.metadataCommitment,
    previousOwnerCommitment := s.previousOwnerCommitment,
    newOwnerCommitment := s.newOwnerCommitment,
    ownershipAuthorizationCommitment := s.ownershipAuthorizationCommitment,
    previousStateDigest := s.previousStateDigest, spentAllocations := spent,
    newAllocations := new, burn := burn, witnessTxid := witnessTxid, laneId := s.laneId,
    privacyPolicy := s.privacyPolicy, proofPolicy := policy }

/-- The burn that a synthesized constant stands for. -/
def burnProofOf (b : BurnDigestEncoding) : RgkBurnProof :=
  ⟨u64OfLe b.amount.toList, b.authorizationCommitment⟩

lemma encodeBurnDigest_eq (burn : Option BurnDigestEncoding) :
    encodeBurnDigest burn = encodeBurnProof (burn.map burnProofOf) := by
  cases burn with
  | none => rfl
  | some b => simp [encodeBurnDigest, encodeBurnProof, burnProofOf]

variable {H s} {spent new as : List RgkAllocation}

lemma allocationRootDigest_encode :
    allocationRootDigest H (as.map encodeAllocation) = (witnessRoot H as).toList := by
  rw [allocationRootDigest, domainHashDigest, witnessRoot, encodeAllocations, List.length_map,
    List.flatMap_def]

lemma stateDigest_encode {root owner : Bytes32} :
    stateDigest H s.publicInputs root.toList owner.toList =
      (domainHashStr H "rgk:asset:state:v2"
        (stateDigestPayloadWith (stateInput s as owner) root)).toList := by
  simp [stateDigest, domainHashDigest, stateDigestPayloadWith, stateInput]

lemma shapeBytes_encode (a : RgkAllocation) :
    shapeBytes (encodeAllocation a) = encodeShape (shapeOf a) := by
  simp [shapeBytes, encodeShape, shapeOf]

lemma continuationShapeRootDigest_encode :
    continuationShapeRootDigest H s.publicInputs (new.map encodeAllocation) =
      (domainHashStr H "rgk:continuation:shape-root:v1"
        (encodeShapes s.chainId (new.map shapeOf))).toList := by
  simp [continuationShapeRootDigest, domainHashDigest, encodeShapes, List.flatMap_map,
    shapeBytes_encode]

lemma governanceBytes_encode : governanceBytes s.publicInputs =
    governancePayload s.laneId s.privacyPolicy s.policyCommitment s.metadataCommitment
      s.previousOwnerCommitment s.newOwnerCommitment s.ownershipAuthorizationCommitment := by
  simp [governanceBytes, governancePayload]

lemma continuationCommitmentDigest_encode (spent new : List RgkAllocation)
    {root shapeRoot : Bytes32} {burn : Option BurnDigestEncoding} (policy : RgkProofPolicy) :
    continuationCommitmentDigest H s.publicInputs root.toList shapeRoot.toList burn =
      (domainHashStr H "rgk:continuation:phase1:v2"
        (continuationCommitmentPayloadWith (planFor s spent new (burn.map burnProofOf) policy)
          s.policyCommitment root shapeRoot)).toList := by
  simp [continuationCommitmentDigest, domainHashDigest, continuationCommitmentPayloadWith,
    planFor, encodeBurnDigest_eq, governanceBytes_encode]

lemma taggedRecords_encode (tag : UInt8) :
    taggedRecords tag (as.map encodeAllocation) = taggedAllocations tag as := by
  simp [taggedRecords, taggedAllocations, List.flatMap_map]

lemma transitionDigest_encode {burn : Option BurnDigestEncoding} {witnessTxid : Bytes32}
    (policy : RgkProofPolicy) :
    transitionDigest H s.publicInputs (spent.map encodeAllocation) (new.map encodeAllocation) burn
        witnessTxid.toList =
      (transitionDigestUnchecked H
        (transitionFor s spent new (burn.map burnProofOf) witnessTxid policy) s.newStateDigest
        s.policyCommitment).toList := by
  simp [transitionDigest, domainHashDigest, transitionDigestUnchecked, transitionDigestPayload,
    transitionFor, encodeBurnDigest_eq, governanceBytes_encode, taggedRecords_encode]

end Digests

section Transition

/-- The transition constraints on decoded values. -/
structure WitnessAccepted (H : List UInt8 → Bytes32) (s : SemanticTransitionStatement)
    (spent new : List RgkAllocation) (burn : Option RgkBurnProof) (witnessTxid : Bytes32)
    (policy : RgkProofPolicy) : Prop where
  terminal : new = [] → witnessTxid ≠ Bytes.zero
  spentCount : s.spentAllocationCount = UInt64.ofNat spent.length
  newCount : s.newAllocationCount = UInt64.ofNat new.length
  spentOk : ∀ a ∈ spent, AllocationOk s.chainId a
  newOk : ∀ a ∈ new, AllocationOk s.chainId a
  ownTx : ∀ a ∈ new, a.outpoint.transactionId = a.anchor.witnessTxid
  spentDistinct : (spent.map anchorTag).Nodup
  newDistinct : (new.map anchorTag).Nodup
  notReused : ∀ a ∈ spent, ∀ b ∈ new, anchorTag a ≠ anchorTag b
  spentSupply : supplyOf spent = s.spentSupply.toNat
  newSupply : supplyOf new = s.newSupply.toNat
  delta : s.spentSupply.toNat = s.newSupply.toNat + s.burnedSupply.toNat
  previousDigest : domainHashStr H "rgk:asset:state:v2"
    (stateDigestPayloadWith (stateInput s spent s.previousOwnerCommitment) (witnessRoot H spent)) =
      s.previousStateDigest
  newDigest : domainHashStr H "rgk:asset:state:v2"
    (stateDigestPayloadWith (stateInput s new s.newOwnerCommitment) (witnessRoot H new)) =
      s.newStateDigest
  shapeRoot : domainHashStr H "rgk:continuation:shape-root:v1"
    (encodeShapes s.chainId (new.map shapeOf)) = s.continuationShapeRoot
  commitment : domainHashStr H "rgk:continuation:phase1:v2"
    (continuationCommitmentPayloadWith (planFor s spent new burn policy) s.policyCommitment
      (witnessRoot H spent) s.continuationShapeRoot) = s.continuationCommitment
  sameTx : ∀ a ∈ new, a.anchor.witnessTxid = witnessTxid
  transition : transitionDigestUnchecked H (transitionFor s spent new burn witnessTxid policy)
    s.newStateDigest s.policyCommitment = s.transitionDigest

variable {H : List UInt8 → Bytes32} {s : SemanticTransitionStatement}
  {spent new as : List RgkAllocation}

lemma enforceDistinctOutpoints_iff :
    enforceDistinctOutpoints (as.map encodeAllocation) ↔ (as.map anchorTag).Nodup := by
  rw [enforceDistinctOutpoints, List.pairwise_map, List.Nodup, List.pairwise_map]
  simp only [ne_eq, slice_anchorTag_inj]

lemma enforceSpentAnchorsNotReused_iff :
    enforceSpentAnchorsNotReused (spent.map encodeAllocation) (new.map encodeAllocation) ↔
      ∀ a ∈ spent, ∀ b ∈ new, anchorTag a ≠ anchorTag b := by
  simp only [enforceSpentAnchorsNotReused, List.forall_mem_map, ne_eq, slice_anchorTag_inj]

lemma sumAllocationAmounts_encode (hcount : as.length*2^64 < bn254) {x : UInt64} :
    sumAllocationAmounts (as.map encodeAllocation) = leBytesAsFr (le64 x) ↔
      supplyOf as = x.toNat := by
  rw [sumAllocationAmounts_eq_iff (by rwa [List.length_map]) (length_le64 x), leNat_le64,
    List.map_map]
  have hm : (fun a => (RgkAllocation.amount a).toNat) = amountAt ∘ encodeAllocation :=
    funext fun a => (amountAt_encodeAllocation a).symm
  rw [supplyOf, natSum, hm]

lemma add_leBytesAsFr_iff {x y z : UInt64} :
    leBytesAsFr (le64 x) + leBytesAsFr (le64 y) = leBytesAsFr (le64 z) ↔
      x.toNat + y.toNat = z.toNat := by
  have hx := x.toNat_lt
  have hy := y.toNat_lt
  have hz := z.toNat_lt
  simp only [leBytesAsFr, leField, leNat_le64]
  rw [← Nat.cast_add]
  apply natCast_inj_of_lt
  · unfold bn254
    omega
  · unfold bn254
    omega

lemma enforceAllocationSupplyDelta_iff (hs : spent.length*2^64 < bn254)
    (hn : new.length*2^64 < bn254) :
    enforceAllocationSupplyDelta s.publicInputs (spent.map encodeAllocation)
        (new.map encodeAllocation) ↔
      supplyOf spent = s.spentSupply.toNat ∧ supplyOf new = s.newSupply.toNat ∧
        s.spentSupply.toNat = s.newSupply.toNat + s.burnedSupply.toNat := by
  simp only [enforceAllocationSupplyDelta, slice_publicInputs]
  rw [sumAllocationAmounts_encode hs, sumAllocationAmounts_encode hn]
  refine and_congr_right fun hspent => and_congr_right fun hnew => ?_
  rw [(sumAllocationAmounts_encode hs).mpr hspent, (sumAllocationAmounts_encode hn).mpr hnew,
    eq_comm, add_leBytesAsFr_iff, eq_comm]

theorem transitionConstraints_iff {burn : Option BurnDigestEncoding} {witnessTxid : Bytes32}
    (policy : RgkProofPolicy) (hs : spent.length*2^64 < bn254) (hn : new.length*2^64 < bn254) :
    transitionConstraints H s.publicInputs (spent.map encodeAllocation) (new.map encodeAllocation)
        burn witnessTxid.toList ↔
      WitnessAccepted H s spent new (burn.map burnProofOf) witnessTxid policy := by
  have hprev := @stateDigest_encode H s spent (witnessRoot H spent) s.previousOwnerCommitment
  have hnew := @stateDigest_encode H s new (witnessRoot H new) s.newOwnerCommitment
  simp only [transitionConstraints, slice_publicInputs, byteAt_chainId, List.length_map,
    List.map_eq_nil_iff, List.forall_mem_map, enforceAllocationCommon_iff, slice_encodeAllocation,
    enforceDistinctOutpoints_iff, enforceSpentAnchorsNotReused_iff,
    enforceAllocationSupplyDelta_iff hs hn, allocationRootDigest_encode, hprev, hnew,
    continuationShapeRootDigest_encode,
    continuationCommitmentDigest_encode spent new policy,
    transitionDigest_encode policy, Bytes.toList_inj, le64_inj, enforceNonzeroBytes_toList]
  constructor
  · rintro ⟨h1, h2, h3, h4, h5, h6, h7, h8, ⟨h9, h10, h11⟩, h12, h13, h14, h15, h16, h17⟩
    refine ⟨h1, h2, h3, h4, fun a ha => (h5 a ha).1, fun a ha => (h5 a ha).2, h6, h7, h8, h9, h10,
      h11, h12, h13, h14, ?_, h16, h17⟩
    rw [h14] at h15
    exact h15
  · intro h
    refine ⟨h.terminal, h.spentCount, h.newCount, h.spentOk,
      fun a ha => ⟨h.newOk a ha, h.ownTx a ha⟩, h.spentDistinct, h.newDistinct, h.notReused,
      ⟨h.spentSupply, h.newSupply, h.delta⟩, h.previousDigest, h.newDigest, h.shapeRoot, ?_,
      h.sameTx, h.transition⟩
    rw [h.shapeRoot]
    exact h.commitment

end Transition

section Systems
variable {H : List UInt8 → Bytes32} {shape : RgkAllocationProofShape}

/-- A system generated from `publicInputs` holds at an assignment, with the burn and the
transaction id that its digests bind. -/
structure SystemHolds (H : List UInt8 → Bytes32) (publicInputs : List UInt8)
    (w : AllocationAssignment shape) (burn : Option BurnDigestEncoding)
    (witnessTxid : List UInt8) : Prop where
  burnOk : burnDigestEncoding publicInputs = .ok burn
  burn_ne : shape = .oneInZeroOut → burn ≠ none
  statement_length : w.statement.length = 512
  spent_record : ∀ a ∈ w.spent, a.length = 157
  new_record : ∀ a ∈ w.new, a.length = 157
  txid : transitionWitnessTxid w.new w.terminalWitnessTxid = .ok witnessTxid
  publicFrs : digestBytesAsFrs w.statement = w.publicFrs
  layout : enforceSemanticLayout w.statement
  transition : transitionConstraints H w.statement w.spent w.new burn witnessTxid

lemma burnDigestEncoding_length {publicInputs : List UInt8} {burn : Option BurnDigestEncoding}
    (h : burnDigestEncoding publicInputs = .ok burn) : publicInputs.length = 512 := by
  rw [burnDigestEncoding, unit_bind_eq_ok, failIf_eq_ok, not_not] at h
  exact h.1

lemma validateNonemptyAllocationSlices_eq_ok {as : List (List UInt8)} :
    validateNonemptyAllocationSlices as = .ok () ↔ as ≠ [] ∧ ∀ a ∈ as, a.length = 157 := by
  rw [validateNonemptyAllocationSlices, unit_bind_eq_ok, failIf_eq_ok, failIf_eq_ok]
  simp [allocationWitnessLen]

lemma enforceAllocationTransition_eq_ok {statement : List UInt8} {spent new : List (List UInt8)}
    {burn : Option BurnDigestEncoding} {terminal : Option (List UInt8)} :
    enforceAllocationTransition H statement spent new burn terminal = .ok true ↔
      checkTransitionShape statement spent new burn terminal = .ok () ∧
        ∃ txid, transitionWitnessTxid new terminal = .ok txid ∧
          transitionConstraints H statement spent new burn txid := by
  rw [enforceAllocationTransition, unit_bind_eq_ok, bind_eq_ok]
  simp only [Except.ok.injEq, decide_eq_true_eq]

lemma AllocationAssignment.spent_ne (w : AllocationAssignment shape) : w.spent ≠ [] := by
  intro h
  have hl := w.spent_length
  rw [h] at hl
  cases shape <;> cases hl

lemma vectorConstraints_eq_ok (hshape : shape ≠ .oneInZeroOut) {publicInputs : List UInt8}
    {w : AllocationAssignment shape} :
    vectorConstraints H publicInputs w = .ok true ↔
      ∃ burn txid, SystemHolds H publicInputs w burn txid := by
  have hterm : w.terminalWitnessTxid = none := by simpa [hshape] using w.terminal_isSome
  have hnew : w.new ≠ [] := by
    intro h
    have hl := w.new_length
    rw [h] at hl
    cases shape
    case oneInZeroOut => exact hshape rfl
    all_goals cases hl
  rw [vectorConstraints, unit_bind_eq_ok, failIf_eq_ok, bind_eq_ok]
  simp only [bind_eq_ok, not_or, not_not, not_exists, not_and, Except.ok.injEq,
    decide_eq_true_eq]
  constructor
  · rintro ⟨⟨-, hst, hsp, hnw⟩, burn, hburn, b, htr, hfrs, hlay, rfl⟩
    obtain ⟨-, txid, htx, hc⟩ := enforceAllocationTransition_eq_ok.mp htr
    exact ⟨burn, txid, hburn, fun h => absurd h hshape, hst, hsp, hnw, hterm ▸ htx, hfrs, hlay, hc⟩
  · rintro ⟨burn, txid, h⟩
    refine ⟨⟨burnDigestEncoding_length h.burnOk, h.statement_length, h.spent_record,
      h.new_record⟩, burn, h.burnOk, true, ?_, h.publicFrs, h.layout, rfl⟩
    refine enforceAllocationTransition_eq_ok.mpr ⟨?_, txid, hterm ▸ h.txid, h.transition⟩
    rw [checkTransitionShape, unit_bind_eq_ok, unit_bind_eq_ok, if_neg hnew, unit_bind_eq_ok,
      validateNonemptyAllocationSlices_eq_ok, validateNonemptyAllocationSlices_eq_ok]
    simp only [failIf_eq_ok, not_not]
    exact ⟨h.statement_length, ⟨AllocationAssignment.spent_ne w, h.spent_record⟩,
      ⟨hnew, h.new_record⟩, by simp⟩

/-- The terminal circuit checks its transaction id twice; the second check adds nothing. -/
lemma oneInZeroOut_eq_ok {publicInputs : List UInt8} {w : AllocationAssignment .oneInZeroOut} :
    OneInZeroOutAllocationCircuit.generateConstraints H publicInputs w = .ok true ↔
      ∃ burn txid, SystemHolds H publicInputs w burn txid := by
  have hnew : w.new = [] := List.eq_nil_of_length_eq_zero w.new_length
  obtain ⟨t, ht⟩ := Option.isSome_iff_exists.mp w.terminal_isSome
  rw [OneInZeroOutAllocationCircuit.generateConstraints, unit_bind_eq_ok, failIf_eq_ok, bind_eq_ok]
  simp only [bind_eq_ok, not_or, not_not, not_exists, not_and, Except.ok.injEq,
    decide_eq_true_eq, failIf_eq_ok, okOr_eq_ok, ht]
  constructor
  · rintro ⟨⟨-, hst, hsp⟩, burn, hburn, -, hne, t', ht', b, htr, hfrs, hlay, -, rfl⟩
    obtain rfl := Option.some.inj ht'
    obtain ⟨-, txid, htx, hc⟩ := enforceAllocationTransition_eq_ok.mp htr
    exact ⟨burn, txid, hburn, fun _ => hne, hst, hsp, by simp [hnew], ht ▸ htx, hfrs, hlay, hc⟩
  · rintro ⟨burn, txid, h⟩
    have htx := h.txid
    rw [hnew, ht, transitionWitnessTxid, unit_bind_eq_ok, failIf_eq_ok, not_not,
      Except.ok.injEq] at htx
    obtain ⟨hlen, rfl⟩ := htx
    refine ⟨⟨burnDigestEncoding_length h.burnOk, h.statement_length, h.spent_record⟩, burn,
      h.burnOk, (), h.burn_ne rfl, t, rfl, true, ?_, h.publicFrs, h.layout,
      h.transition.1 hnew, rfl⟩
    refine enforceAllocationTransition_eq_ok.mpr ⟨?_, t, ht ▸ h.txid, h.transition⟩
    rw [checkTransitionShape, unit_bind_eq_ok, unit_bind_eq_ok, if_pos hnew,
      validateNonemptyAllocationSlices_eq_ok]
    simp only [failIf_eq_ok, not_not, bind_eq_ok, okOr_eq_ok]
    exact ⟨h.statement_length, ⟨AllocationAssignment.spent_ne w, h.spent_record⟩, t, rfl, by
      simp [hlen, h.burn_ne rfl]⟩

theorem generateConstraints_eq_ok {publicInputs : List UInt8} {w : AllocationAssignment shape} :
    SupportedAllocationVectorCircuit.generateConstraints H publicInputs w = .ok true ↔
      ∃ burn txid, SystemHolds H publicInputs w burn txid := by
  cases shape
  case oneInZeroOut => exact oneInZeroOut_eq_ok
  case oneInOneOut => exact vectorConstraints_eq_ok (by simp)
  case twoInTwoOut => exact vectorConstraints_eq_ok (by simp)
  all_goals
    rw [SupportedAllocationVectorCircuit.generateConstraints,
      FixedAllocationVectorCircuit.generateConstraints, unit_bind_eq_ok,
      vectorConstraints_eq_ok (by simp), failIf_eq_ok]
    simp [RgkAllocationProofShape.spentCount, RgkAllocationProofShape.newCount]

lemma count_lt_bn254 {n : ℕ} (h : n ≤ 4) : n*2^64 < bn254 := by
  unfold bn254
  omega

lemma AllocationAssignment.counts_lt (w : AllocationAssignment shape) :
    w.spent.length*2^64 < bn254 ∧ w.new.length*2^64 < bn254 := by
  rw [w.spent_length, w.new_length]
  cases shape <;> exact ⟨count_lt_bn254 (by decide), count_lt_bn254 (by decide)⟩

lemma SystemHolds.statement_eq {publicInputs p : List UInt8} {w : AllocationAssignment shape}
    {burn : Option BurnDigestEncoding} {txid : List UInt8}
    (h : SystemHolds H publicInputs w burn txid) (hlen : p.length = 512)
    (hp : w.publicFrs = publicInputsAsVars p) : w.statement = p :=
  packBytes_injective pow_le_bn254 (h.statement_length.trans hlen.symm) (h.publicFrs.trans hp)

lemma SystemHolds.exists_txid {publicInputs : List UInt8} {w : AllocationAssignment shape}
    {burn : Option BurnDigestEncoding} {txid : List UInt8}
    (h : SystemHolds H publicInputs w burn txid) : ∃ t : Bytes32, t.toList = txid := by
  have hlen : txid.length = 32 := by
    have ht := h.txid
    unfold transitionWitnessTxid at ht
    split at ht
    · rename_i first rest hw _
      rw [← Except.ok.inj ht]
      exact length_slice (by rw [h.new_record first (by rw [hw]; simp)]; omega)
    · rw [unit_bind_eq_ok, failIf_eq_ok, not_not] at ht
      rw [← Except.ok.inj ht.2]
      exact ht.1
    · cases ht
  exact ⟨⟨txid, hlen⟩, rfl⟩

/-- A satisfying assignment decodes to a statement, allocations and a transaction id that meet
the typed conditions. -/
theorem SystemHolds.decodes {publicInputs : List UInt8} {w : AllocationAssignment shape}
    {burn : Option BurnDigestEncoding} {txid : List UInt8}
    (h : SystemHolds H publicInputs w burn txid) :
    ∃ (s : SemanticTransitionStatement) (spent new : List RgkAllocation) (t : Bytes32),
      s.publicInputs = w.statement ∧ spent.map encodeAllocation = w.spent ∧
      new.map encodeAllocation = w.new ∧ t.toList = txid ∧
      ∀ policy, WitnessAccepted H s spent new (burn.map burnProofOf) t policy := by
  obtain ⟨s, hs⟩ := exists_publicInputs h.statement_length h.layout
  obtain ⟨t, ht⟩ := h.exists_txid
  have htr := h.transition
  have hchain : ∀ a, enforceAllocationCommonForChain (byteAt w.statement 4) a →
      byteAt a 0 = s.chainId.asU8 := by
    intro a ha
    rw [← byteAt_chainId, hs]
    exact ha.1
  obtain ⟨spent, hspent⟩ := exists_encodeAllocations w.spent fun b hb =>
    ⟨h.spent_record b hb, hchain b (htr.2.2.2.1 b hb)⟩
  obtain ⟨new, hnew⟩ := exists_encodeAllocations w.new fun b hb =>
    ⟨h.new_record b hb, hchain b (htr.2.2.2.2.1 b hb).1⟩
  obtain ⟨hsc, hnc⟩ := AllocationAssignment.counts_lt w
  rw [← hspent, List.length_map] at hsc
  rw [← hnew, List.length_map] at hnc
  rw [← hs, ← hspent, ← hnew, ← ht] at htr
  exact ⟨s, spent, new, t, hs, hspent, hnew, ht, fun policy =>
    (transitionConstraints_iff policy hsc hnc).mp htr⟩

end Systems

section Burn

/-- The burn that a statement describes: none exactly when both of its fields are zero. -/
def statementBurn (s : SemanticTransitionStatement) : Option RgkBurnProof :=
  if s.burnedSupply = 0 ∧ s.burnAuthorizationCommitment = Bytes.zero then none
  else some ⟨s.burnedSupply, s.burnAuthorizationCommitment⟩

lemma burnDigestEncoding_inv {p : List UInt8} {burn : Option BurnDigestEncoding}
    (h : burnDigestEncoding p = .ok burn) :
    (burn = none ∧ slice p 472 480 = (Bytes.zero : Bytes 8).toList ∧
        slice p 480 512 = (Bytes.zero : Bytes32).toList) ∨
      ∃ b : BurnDigestEncoding, burn = some b ∧ b.amount ≠ Bytes.zero ∧
        b.authorizationCommitment ≠ Bytes.zero ∧ slice p 472 480 = b.amount.toList ∧
        slice p 480 512 = b.authorizationCommitment.toList := by
  have hlen := burnDigestEncoding_length h
  have ha := @toList_bytesAt 8 472 p (by omega)
  have hc := @toList_bytesAt 32 480 p (by omega)
  rw [burnDigestEncoding, unit_bind_eq_ok] at h
  obtain ⟨-, h⟩ := h
  cases hza : (bytesAt 8 p 472).isZero with
  | true =>
    cases hzc : (bytesAt 32 p 480).isZero with
    | true =>
      simp only [hza, hzc] at h
      rw [Bytes.isZero_iff] at hza hzc
      exact Or.inl ⟨(Except.ok.inj h).symm, by rw [← ha, hza], by rw [← hc, hzc]⟩
    | false => simp [hza, hzc] at h
  | false =>
    cases hzc : (bytesAt 32 p 480).isZero with
    | true => simp [hza, hzc] at h
    | false =>
      simp only [hza, hzc] at h
      rw [Bytes.isZero_eq_false_iff] at hza hzc
      exact Or.inr ⟨_, (Except.ok.inj h).symm, hza, hzc, ha.symm, hc.symm⟩

lemma zero_eight_toList : (Bytes.zero : Bytes 8).toList = le64 0 := rfl

theorem burnProof_eq_statementBurn_iff {p : List UInt8} {burn : Option BurnDigestEncoding}
    (h : burnDigestEncoding p = .ok burn) (s : SemanticTransitionStatement) :
    burn.map burnProofOf = statementBurn s ↔ slice p 472 512 = slice s.publicInputs 472 512 := by
  have hlen := burnDigestEncoding_length h
  have hp := @slice_append_slice p 472 480 512 (by omega) (by omega)
  have hs := @slice_append_slice s.publicInputs 472 480 512 (by omega) (by omega)
  have hl : (slice p 472 480).length = (le64 s.burnedSupply).length := by
    rw [length_slice (by omega), length_le64]
  simp only [slice_publicInputs] at hs
  rw [← hp, ← hs, append_cancel hl]
  rcases burnDigestEncoding_inv h with ⟨rfl, ha, hc⟩ | ⟨b, rfl, hza, hzc, ha, hc⟩
  · rw [ha, hc, zero_eight_toList, le64_inj, Bytes.toList_inj, Option.map_none, statementBurn]
    constructor
    · intro hn
      by_contra hne
      rw [if_neg (fun hz => hne ⟨hz.1.symm, hz.2.symm⟩)] at hn
      cases hn
    · intro hz
      rw [if_pos ⟨hz.1.symm, hz.2.symm⟩]
  · rw [ha, hc, Bytes.toList_inj, Option.map_some, statementBurn]
    constructor
    · intro hb
      split_ifs at hb
      simp only [Option.some.injEq, burnProofOf, RgkBurnProof.mk.injEq] at hb
      refine ⟨?_, hb.2⟩
      rw [← hb.1, le64_u64OfLe (by simp)]
    · intro hb
      rw [if_neg (fun hz => hzc (hb.2.trans hz.2)), burnProofOf, hb.1, u64OfLe_le64, hb.2]

/-- The burn of a statement that its own synthesis accepts accounts for the burned supply. -/
lemma burnAccounts_statementBurn {s : SemanticTransitionStatement}
    {burn : Option BurnDigestEncoding} (h : burnDigestEncoding s.publicInputs = .ok burn) :
    BurnAccounts s.burnedSupply (statementBurn s) := by
  have hs := slice_publicInputs s
  rcases burnDigestEncoding_inv h with ⟨-, ha, hc⟩ | ⟨b, -, hza, hzc, ha, hc⟩
  · simp only [slice_publicInputs, zero_eight_toList, le64_inj, Bytes.toList_inj] at ha hc
    rw [statementBurn, if_pos ⟨ha, hc⟩]
    exact ha
  · simp only [slice_publicInputs, Bytes.toList_inj] at ha hc
    rw [statementBurn, if_neg (fun hz => hzc (hc.symm.trans hz.2))]
    refine ⟨?_, rfl, hc ▸ hzc⟩
    intro hz
    rw [hz] at ha
    exact hza (Bytes.ext ha.symm)

lemma burnDigestEncoding_of_fields {s : SemanticTransitionStatement}
    (h : s.burnedSupply = 0 ↔ s.burnAuthorizationCommitment = Bytes.zero) :
    ∃ burn, burnDigestEncoding s.publicInputs = .ok burn := by
  have hlen := length_publicInputs s
  have ha := @toList_bytesAt 8 472 s.publicInputs (by omega)
  have hc := @toList_bytesAt 32 480 s.publicInputs (by omega)
  simp only [Nat.reduceAdd, slice_publicInputs] at ha hc
  have hamount : (bytesAt 8 s.publicInputs 472).isZero = true ↔ s.burnedSupply = 0 := by
    rw [Bytes.isZero_iff, ← Bytes.toList_inj, ha, zero_eight_toList, le64_inj]
  have hauth : (bytesAt 32 s.publicInputs 480).isZero = true ↔
      s.burnAuthorizationCommitment = Bytes.zero := by
    rw [Bytes.isZero_iff, ← Bytes.toList_inj, hc, Bytes.toList_inj]
  rw [← hamount, ← hauth, Bool.eq_iff_iff.symm] at h
  have hlen' : failIf (s.publicInputs.length ≠ semanticPublicInputLen)
      SynthesisError.unsatisfiable = .ok () := failIf_eq_ok.mpr (not_not.mpr hlen)
  by_cases hz : (bytesAt 8 s.publicInputs 472).isZero = true
  · refine ⟨none, unit_bind_eq_ok.mpr ⟨hlen', ?_⟩⟩
    simp only [← h, hz]
  · rw [Bool.not_eq_true] at hz
    refine ⟨some ⟨bytesAt 8 s.publicInputs 472, bytesAt 32 s.publicInputs 480⟩,
      unit_bind_eq_ok.mpr ⟨hlen', ?_⟩⟩
    simp only [← h, hz]

end Burn

section Layout
variable {s : SemanticTransitionStatement}

theorem enforceSemanticLayout_of_validate (h : s.validate = .ok ()) :
    enforceSemanticLayout s.publicInputs := by
  have hv := SemanticTransitionStatement.validate_eq_ok.mp h
  have hpad : ∀ i ∈ [449, 450, 451, 452, 453, 454, 455], byteAt s.publicInputs i = 0 := by
    intro i hi
    simp only [List.mem_cons, List.not_mem_nil, or_false] at hi
    have hb := @byteAt_slice s.publicInputs 448 456 (i-448) (by omega)
    rw [show 448 + (i-448) = i by omega] at hb
    simp only [slice_publicInputs] at hb
    rw [← hb]
    rcases hi with rfl | rfl | rfl | rfl | rfl | rfl | rfl
    all_goals cases s.privacyPolicy <;> rfl
  have hpriv : s.privacyPolicy.asU8 ∈ [(0 : UInt8), 1, 2] := by
    cases s.privacyPolicy <;> decide
  simp only [enforceSemanticLayout, slice_publicInputs, byteAt_privacyPolicy,
    enforceNonzeroBytes_toList, enforceNonzeroBytes_le64, add_leBytesAsFr_iff, Bytes.toList_inj,
    ne_eq]
  exact ⟨(enforceChainIdLayout_iff (by simp)).mpr ⟨_, rfl⟩, hv.schemaId, hv.assetId,
    hv.previousStateDigest, hv.newStateDigest, hv.moves, hv.transitionDigest,
    hv.continuationCommitment, hv.continuationShapeRoot, hv.laneId, hv.policyCommitment,
    hv.metadataCommitment, hv.previousOwnerCommitment, hv.newOwnerCommitment, hv.handoff,
    hv.totalSupply, hv.spentAllocationCount, hpriv, hpad, hv.spentSupply, hv.conserved.symm,
    hv.allocates_or_burns, hv.supplies_or_burns⟩

end Layout

section Assignments
variable {H : List UInt8 → Bytes32}

/-- The assignment of a statement and allocations in a given order. -/
def assignmentFor (shape : RgkAllocationProofShape) (s : SemanticTransitionStatement)
    (spent new : List RgkAllocation) (terminal : Bytes32) (hspent : spent.length = shape.spentCount)
    (hnew : new.length = shape.newCount) : AllocationAssignment shape where
  publicFrs := publicInputsAsVars s.publicInputs
  statement := s.publicInputs
  spent := spent.map encodeAllocation
  new := new.map encodeAllocation
  terminalWitnessTxid := if shape = .oneInZeroOut then some terminal.toList else none
  spent_length := by rw [List.length_map, hspent]
  new_length := by rw [List.length_map, hnew]
  terminal_isSome := by split_ifs with h <;> simp [h]

theorem generateConstraints_assignmentFor {shape : RgkAllocationProofShape} {p : List UInt8}
    {s : SemanticTransitionStatement} {spent new : List RgkAllocation} {txid : Bytes32}
    (hspent : spent.length = shape.spentCount) (hnew : new.length = shape.newCount)
    {burn : Option BurnDigestEncoding} (hburn : burnDigestEncoding p = .ok burn)
    (hlayout : enforceSemanticLayout s.publicInputs) (policy : RgkProofPolicy)
    (hterm : shape = .oneInZeroOut → burn ≠ none)
    (htx : ∀ a ∈ new, a.anchor.witnessTxid = txid) :
    SupportedAllocationVectorCircuit.generateConstraints H p
        (assignmentFor shape s spent new txid hspent hnew) = .ok true ↔
      WitnessAccepted H s spent new (burn.map burnProofOf) txid policy := by
  have hcount := AllocationAssignment.counts_lt (assignmentFor shape s spent new txid hspent hnew)
  simp only [assignmentFor, List.length_map] at hcount
  have htxid : transitionWitnessTxid (new.map encodeAllocation)
      (if shape = .oneInZeroOut then some txid.toList else none) = .ok txid.toList := by
    cases new with
    | nil =>
      have hshape : shape = .oneInZeroOut := by
        cases shape <;> first | rfl | cases hnew
      rw [if_pos hshape]
      simp [transitionWitnessTxid, failIf, bind, Except.bind]
    | cons a new =>
      have hshape : shape ≠ .oneInZeroOut := by
        intro h
        rw [h] at hnew
        cases hnew
      rw [if_neg hshape, List.map_cons, transitionWitnessTxid,
        (slice_encodeAllocation a).2.2.2.1, htx a List.mem_cons_self]
  rw [generateConstraints_eq_ok, ← transitionConstraints_iff policy hcount.1 hcount.2]
  constructor
  · rintro ⟨b, t, h⟩
    obtain rfl : b = burn := Except.ok.inj (h.burnOk.symm.trans hburn)
    obtain rfl : t = txid.toList := Except.ok.inj (h.txid.symm.trans htxid)
    exact h.transition
  · intro h
    refine ⟨burn, txid.toList, hburn, hterm, length_publicInputs s, ?_, ?_, htxid, rfl, hlayout, h⟩
    · intro a ha
      obtain ⟨b, -, rfl⟩ := List.mem_map.mp ha
      exact length_encodeAllocation b
    · intro a ha
      obtain ⟨b, -, rfl⟩ := List.mem_map.mp ha
      exact length_encodeAllocation b

end Assignments
end RgkProtocol.CircuitMeaning
