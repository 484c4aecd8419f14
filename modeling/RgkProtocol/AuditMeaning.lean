import RgkProtocol.AuditCircuits
import RgkProtocol.CircuitMeaning

/-!
# What the audit constraints mean

On the public input of a typed statement every audit circuit is a typed condition. All four
rest on the same condition of one segment, and a segment root fixes the records behind it.
-/
namespace RgkProtocol.AuditMeaning
open ByteStrings FieldPacking Hashing CoreTypes Checked CircuitGadgets AllocationCircuit
open CircuitMeaning AuditStatements AuditCircuits

section Conditions
variable (H : List UInt8 → Bytes32) {allocs : ℕ}

/-- The public conditions of one segment. -/
structure SegmentLayout (s : AllocationTranscriptSegmentStatement allocs) : Prop where
  previousRoot_ne : s.previousRoot ≠ Bytes.zero
  nextRoot_ne : s.nextRoot ≠ Bytes.zero
  moves : s.previousRoot ≠ s.nextRoot
  totalCount_ne : s.totalCount ≠ 0
  amountCommitment_ne : s.segmentAmountCommitment ≠ Bytes.zero

/-- The conditions on the records of one segment. -/
structure SegmentHolds (s : AllocationTranscriptSegmentStatement allocs)
    (w : AllocationTranscriptSegmentWitness allocs) : Prop where
  allocs_ne : allocs ≠ 0
  amount_ne : w.segmentAmount ≠ 0
  blinding_ne : w.amountBlinding ≠ Bytes.zero
  width : ∀ a ∈ w.allocations, a.length = 157
  common : ∀ a ∈ w.allocations, enforceAllocationCommonForChain s.chainId.asU8 a
  distinct : enforceDistinctOutpoints w.allocations
  sum : sumAllocationAmounts w.allocations = leBytesAsFr (le64 w.segmentAmount)
  amountCommitment : allocationTranscriptAmountCommitment H s.side s.segmentIndex s.totalCount
    w.segmentAmount w.amountBlinding = s.segmentAmountCommitment
  root : allocationTranscriptSegmentRootFromWitness H s.previousRoot s.side s.segmentIndex
    s.totalCount w.allocations = s.nextRoot

/-- The conditions of a conservation segment: its transcript segment and the running totals. -/
structure ConservationHolds (s : AllocationConservationSegmentStatement allocs)
    (w : AllocationConservationSegmentWitness allocs) : Prop where
  layout : SegmentLayout s.transcript
  previousCommitment_ne : s.previousTotalCommitment ≠ Bytes.zero
  nextCommitment_ne : s.nextTotalCommitment ≠ Bytes.zero
  transcript : SegmentHolds H s.transcript w.transcript
  previousBlinding_ne : w.previousTotalBlinding ≠ Bytes.zero
  nextBlinding_ne : w.nextTotalBlinding ≠ Bytes.zero
  adds : w.previousTotal.toNat + w.transcript.segmentAmount.toNat = w.nextTotal.toNat
  starts : s.transcript.segmentIndex = 0 → w.previousTotal = 0
  previous : allocationConservationTotalCommitment H s.transcript.side s.transcript.totalCount
    w.previousTotal w.previousTotalBlinding = s.previousTotalCommitment
  next : allocationConservationTotalCommitment H s.transcript.side s.transcript.totalCount
    w.nextTotal w.nextTotalBlinding = s.nextTotalCommitment

/-- The conditions of the final statement: both commitments open to one total. -/
structure FinalHolds (s : AllocationConservationFinalStatement)
    (w : AllocationConservationFinalWitness) : Prop where
  spentCount_ne : s.spentTotalCount ≠ 0
  newCount_ne : s.newTotalCount ≠ 0
  spentCommitment_ne : s.spentTotalCommitment ≠ Bytes.zero
  newCommitment_ne : s.newTotalCommitment ≠ Bytes.zero
  total_ne : w.total ≠ 0
  spentBlinding_ne : w.spentTotalBlinding ≠ Bytes.zero
  newBlinding_ne : w.newTotalBlinding ≠ Bytes.zero
  spent : allocationConservationTotalCommitment H .spent s.spentTotalCount w.total
    w.spentTotalBlinding = s.spentTotalCommitment
  new : allocationConservationTotalCommitment H .new s.newTotalCount w.total
    w.newTotalBlinding = s.newTotalCommitment

/-- The conditions of an exclusion pair: two segments whose anchors differ across. -/
structure ExclusionHolds {spent new : ℕ} (s : AllocationExclusionSegmentPairStatement spent new)
    (w : AllocationExclusionSegmentPairWitness spent new) : Prop where
  spentLayout : SegmentLayout s.spentSegment
  newLayout : SegmentLayout s.newSegment
  spent : SegmentHolds H s.spentSegment w.spent
  new : SegmentHolds H s.newSegment w.new
  excluded : enforceSpentAnchorsNotReused w.spent.allocations w.new.allocations

end Conditions

section Digests
variable {H : List UInt8 → Bytes32} (side : RgkAllocationTranscriptSide)

lemma segmentRootDigest_eq (previousRoot : Bytes32) (segmentIndex totalCount : UInt64)
    {allocs : ℕ} {allocations : List (List UInt8)} (hlen : allocations.length = allocs) :
    allocationTranscriptSegmentRootDigest H allocs previousRoot.toList side.asU8
        (le64 segmentIndex) (le64 totalCount) allocations =
      .ok (allocationTranscriptSegmentRootFromWitness H previousRoot side segmentIndex totalCount
        allocations).toList := by
  subst hlen
  exact unit_bind_eq_ok.mpr ⟨failIf_eq_ok.mpr (by simp), rfl⟩

lemma amountCommitmentDigest_eq (segmentIndex totalCount segmentAmount : UInt64)
    (amountBlinding : Bytes32) :
    allocationTranscriptAmountCommitmentDigest H side.asU8 (le64 segmentIndex) (le64 totalCount)
        (le64 segmentAmount) amountBlinding.toList =
      .ok (allocationTranscriptAmountCommitment H side segmentIndex totalCount segmentAmount
        amountBlinding).toList :=
  unit_bind_eq_ok.mpr ⟨failIf_eq_ok.mpr (by simp), rfl⟩

lemma totalCommitmentDigest_eq (totalCount runningTotal : UInt64) (blinding : Bytes32) :
    allocationConservationTotalCommitmentDigest H side.asU8 (le64 totalCount) (le64 runningTotal)
        blinding.toList =
      .ok (allocationConservationTotalCommitment H side totalCount runningTotal
        blinding).toList :=
  unit_bind_eq_ok.mpr ⟨failIf_eq_ok.mpr (by simp), rfl⟩

end Digests

section PublicInputs

/-- A circuit whose body fixes the width of the public bytes holds exactly of the public input:
the field elements determine the bytes. -/
lemma synthesize_eq_ok {refused : Prop} [Decidable refused]
    {publicInputs publicBytes : List UInt8} {layout : List UInt8 → Prop} [DecidablePred layout]
    {body : List UInt8 → Except SynthesisError Bool}
    (hlen : ∀ {l b}, body l = .ok b → l.length = publicInputs.length) :
    synthesize refused publicInputs publicBytes layout body = .ok true ↔
      ¬refused ∧ publicBytes = publicInputs ∧ layout publicInputs ∧
        body publicInputs = .ok true := by
  rw [synthesize, unit_bind_eq_ok, bind_eq_ok, failIf_eq_ok]
  simp only [Except.ok.injEq, decide_eq_true_eq]
  refine and_congr_right fun _ => ?_
  constructor
  · rintro ⟨b, hbody, hpub, hlayout, hb⟩
    have hbytes := packBytes_injective pow_le_bn254 (hlen hbody) hpub
    rw [hbytes] at hbody hlayout
    rw [hb] at hbody
    exact ⟨hbytes, hlayout, hbody⟩
  · rintro ⟨hbytes, hlayout, hbody⟩
    rw [hbytes]
    exact ⟨true, hbody, rfl, hlayout, rfl⟩

/-- The bodies refuse public bytes of another width first. -/
lemma length_of_refused {pub : List UInt8} {n : ℕ} {q : Prop} [Decidable q]
    {rest : Unit → Except SynthesisError Bool} {b : Bool}
    (h : (failIf (pub.length ≠ n ∨ q) SynthesisError.unsatisfiable >>= rest) = .ok b) :
    pub.length = n := by
  rw [unit_bind_eq_ok, failIf_eq_ok] at h
  by_contra hne
  exact h.1 (Or.inl hne)

lemma chainLayout (c : KaspaChainId) : enforceChainIdLayout (SemanticStatement.chainIdTaggedLeU32 c) :=
  (enforceChainIdLayout_iff (SemanticStatement.length_chainIdTaggedLeU32 c)).mpr ⟨c, rfl⟩

lemma transcriptLayout_iff {allocs : ℕ} {s : AllocationTranscriptSegmentStatement allocs} :
    enforceAllocationTranscriptSegmentPublicLayout s.publicInputs ↔ SegmentLayout s := by
  have hside : s.side.asU8 ∈ [(0 : UInt8), 1] := by cases s.side <;> decide
  simp only [enforceAllocationTranscriptSegmentPublicLayout, slice_transcriptInputs,
    byteAt_transcriptInputs, enforceNonzeroBytes_toList, enforceNonzeroBytes_le64, ne_eq,
    Bytes.toList_inj, chainLayout, hside, List.mem_replicate, true_and]
  constructor
  · rintro ⟨hp, hn, hm, hzero, ht, hc⟩
    exact ⟨hp, hn, hm, ht, hc⟩
  · intro h
    exact ⟨h.previousRoot_ne, h.nextRoot_ne, h.moves, fun b hb => hb.2, h.totalCount_ne,
      h.amountCommitment_ne⟩

lemma conservationLayout_iff {allocs : ℕ} {s : AllocationConservationSegmentStatement allocs} :
    enforceAllocationConservationSegmentPublicLayout s.publicInputs ↔
      SegmentLayout s.transcript ∧ s.previousTotalCommitment ≠ Bytes.zero ∧
        s.nextTotalCommitment ≠ Bytes.zero := by
  simp only [enforceAllocationConservationSegmentPublicLayout, slice_conservationInputs,
    transcriptLayout_iff, enforceNonzeroBytes_toList]

lemma finalLayout_iff {s : AllocationConservationFinalStatement} :
    enforceAllocationConservationFinalPublicLayout s.publicInputs ↔
      s.spentTotalCount ≠ 0 ∧ s.newTotalCount ≠ 0 ∧ s.spentTotalCommitment ≠ Bytes.zero ∧
        s.newTotalCommitment ≠ Bytes.zero := by
  simp only [enforceAllocationConservationFinalPublicLayout, slice_finalInputs,
    enforceNonzeroBytes_toList, enforceNonzeroBytes_le64]

lemma exclusionLayout_iff {spent new : ℕ}
    {s : AllocationExclusionSegmentPairStatement spent new} :
    enforceAllocationExclusionSegmentPairPublicLayout s.publicInputs ↔
      SegmentLayout s.spentSegment ∧ SegmentLayout s.newSegment := by
  simp only [enforceAllocationExclusionSegmentPairPublicLayout, slice_exclusionInputs,
    enforceNonzeroBytes_toList, enforceNonzeroBytes_le64, ne_eq, Bytes.toList_inj, chainLayout,
    true_and]
  constructor
  · rintro ⟨h1, h2, h3, h4, h5, h6, h7, h8, h9, h10⟩
    exact ⟨⟨h1, h2, h5, h7, h9⟩, ⟨h3, h4, h6, h8, h10⟩⟩
  · rintro ⟨hs, hn⟩
    exact ⟨hs.previousRoot_ne, hs.nextRoot_ne, hn.previousRoot_ne, hn.nextRoot_ne, hs.moves,
      hn.moves, hs.totalCount_ne, hn.totalCount_ne, hs.amountCommitment_ne, hn.amountCommitment_ne⟩

end PublicInputs

section Transcript
variable {H : List UInt8 → Bytes32} {allocs : ℕ} {s : AllocationTranscriptSegmentStatement allocs}

lemma allocations_ne_nil {w : AllocationTranscriptSegmentWitness allocs} :
    w.allocations ≠ [] ↔ allocs ≠ 0 := by
  have hlen := w.allocations_length
  rw [ne_eq, ne_eq, ← List.length_eq_zero_iff, hlen]

lemma enforceTranscript_eq_ok {w : AllocationTranscriptSegmentWitness allocs} :
    enforceAllocationTranscriptSegment H allocs s.publicInputs (le64 w.segmentAmount)
        w.amountBlinding.toList w.allocations = .ok true ↔ SegmentHolds H s w := by
  simp only [enforceAllocationTranscriptSegment, unit_bind_eq_ok, failIf_eq_ok,
    validateNonemptyAllocationSlices_eq_ok, slice_transcriptInputs, byteAt_transcriptInputs,
    amountCommitmentDigest_eq, segmentRootDigest_eq _ _ _ _ w.allocations_length]
  simp only [bind_eq_ok, Except.ok.injEq, exists_eq_left', decide_eq_true_eq, Bytes.toList_inj,
    enforceNonzeroBytes_toList, enforceNonzeroBytes_le64, length_transcriptInputs, length_le64,
    Bytes.length_toList, w.allocations_length, allocations_ne_nil, ne_eq, not_true_eq_false, or_self,
    not_false_eq_true, true_and]
  constructor
  · rintro ⟨⟨hn, hw⟩, ha, hb, hc, hd, hs, hcom, hr⟩
    exact ⟨hn, ha, hb, hw, hc, hd, hs, hcom, hr⟩
  · intro h
    exact ⟨⟨h.allocs_ne, h.width⟩, h.amount_ne, h.blinding_ne, h.common, h.distinct, h.sum,
      h.amountCommitment, h.root⟩

theorem transcriptCircuit_eq_ok {a : Assigned (AllocationTranscriptSegmentWitness allocs)} :
    AllocationTranscriptSegmentCircuit.generateConstraints H s.publicInputs a = .ok true ↔
      a.publicBytes = s.publicInputs ∧ SegmentLayout s ∧ SegmentHolds H s a.witness := by
  rw [AllocationTranscriptSegmentCircuit.generateConstraints, synthesize_eq_ok,
    transcriptLayout_iff, enforceTranscript_eq_ok]
  · constructor
    · intro h
      exact h.2
    · intro h
      have hwidth : ∀ x ∈ a.witness.allocations, x.length = allocationWitnessLen := h.2.2.width
      exact ⟨by simpa [h.2.2.allocs_ne] using hwidth, h⟩
  · intro l b h
    exact (length_of_refused h).trans (length_transcriptInputs s).symm

end Transcript

section Conservation
variable {H : List UInt8 → Bytes32} {allocs : ℕ}

lemma firstTotalZero_iff {segmentIndex previousTotal : UInt64} :
    enforceInitialConservationTotalZeroForFirstSegment (le64 segmentIndex) (le64 previousTotal) ↔
      (segmentIndex = 0 → previousTotal = 0) := by
  have hzero : ∀ x : UInt64, le64 x = List.replicate 8 0 ↔ x = 0 := fun x => le64_inj (y := 0)
  have htotal : (∀ b ∈ le64 previousTotal, b = 0) ↔ previousTotal = 0 := by
    rw [← hzero, List.eq_replicate_iff]
    simp
  rw [enforceInitialConservationTotalZeroForFirstSegment, ← htotal]
  constructor
  · intro hall hindex b hb
    exact (hall b hb).resolve_left (not_not.mpr ((hzero _).mpr hindex))
  · intro h b hb
    by_cases hindex : segmentIndex = 0
    · exact Or.inr (h hindex b hb)
    · exact Or.inl (mt (hzero _).mp hindex)

lemma enforceConservation_eq_ok {s : AllocationConservationSegmentStatement allocs}
    {w : AllocationConservationSegmentWitness allocs} :
    SegmentLayout s.transcript ∧ s.previousTotalCommitment ≠ Bytes.zero ∧
        s.nextTotalCommitment ≠ Bytes.zero ∧
      enforceAllocationConservationSegment H allocs s.publicInputs
        (le64 w.transcript.segmentAmount) w.transcript.amountBlinding.toList
        (le64 w.previousTotal) (le64 w.nextTotal) w.previousTotalBlinding.toList
        w.nextTotalBlinding.toList w.transcript.allocations = .ok true ↔
      ConservationHolds H s w := by
  simp only [enforceAllocationConservationSegment, unit_bind_eq_ok, failIf_eq_ok,
    slice_conservationInputs, slice_conservation_transcript s (show 96 ≤ 128 by omega),
    slice_conservation_transcript s (show 88 ≤ 128 by omega), slice_transcriptInputs,
    byteAt_conservationInputs, totalCommitmentDigest_eq]
  simp only [bind_eq_ok, Except.ok.injEq, exists_eq_left', decide_eq_true_eq, Bytes.toList_inj,
    enforceNonzeroBytes_toList, add_leBytesAsFr_iff, firstTotalZero_iff, length_conservationInputs,
    length_le64, Bytes.length_toList, ne_eq, not_true_eq_false, or_self, not_false_eq_true,
    true_and]
  constructor
  · rintro ⟨hl, hp, hn, b, hseg, hb, hpb, hnb, hadd, hfirst, hprev, hnext⟩
    rw [hb] at hseg
    exact ⟨hl, hp, hn, enforceTranscript_eq_ok.mp hseg, hpb, hnb, hadd, hfirst, hprev, hnext⟩
  · intro h
    exact ⟨h.layout, h.previousCommitment_ne, h.nextCommitment_ne, true,
      enforceTranscript_eq_ok.mpr h.transcript, rfl, h.previousBlinding_ne, h.nextBlinding_ne,
      h.adds, h.starts, h.previous, h.next⟩

theorem conservationCircuit_eq_ok {s : AllocationConservationSegmentStatement allocs}
    {a : Assigned (AllocationConservationSegmentWitness allocs)} :
    AllocationConservationSegmentCircuit.generateConstraints H s.publicInputs a = .ok true ↔
      a.publicBytes = s.publicInputs ∧ ConservationHolds H s a.witness := by
  rw [AllocationConservationSegmentCircuit.generateConstraints, synthesize_eq_ok,
    conservationLayout_iff, ← enforceConservation_eq_ok]
  · constructor
    · rintro ⟨_, hbytes, ⟨hl, hp, hn⟩, hseg⟩
      exact ⟨hbytes, hl, hp, hn, hseg⟩
    · rintro ⟨hbytes, hl, hp, hn, hseg⟩
      have h := enforceConservation_eq_ok.mp ⟨hl, hp, hn, hseg⟩
      have hwidth : ∀ x ∈ a.witness.transcript.allocations, x.length = allocationWitnessLen :=
        h.transcript.width
      exact ⟨by simpa [h.transcript.allocs_ne] using hwidth, hbytes, ⟨hl, hp, hn⟩, hseg⟩
  · intro l b h
    exact (length_of_refused h).trans (length_conservationInputs s).symm

theorem finalCircuit_eq_ok {s : AllocationConservationFinalStatement}
    {a : Assigned AllocationConservationFinalWitness} :
    AllocationConservationFinalCircuit.generateConstraints H s.publicInputs a = .ok true ↔
      a.publicBytes = s.publicInputs ∧ FinalHolds H s a.witness := by
  rw [AllocationConservationFinalCircuit.generateConstraints, synthesize_eq_ok, finalLayout_iff]
  · simp only [enforceAllocationConservationFinal, unit_bind_eq_ok, failIf_eq_ok,
      slice_finalInputs, totalCommitmentDigest_eq]
    simp only [bind_eq_ok, Except.ok.injEq, exists_eq_left', decide_eq_true_eq, Bytes.toList_inj,
      enforceNonzeroBytes_toList, enforceNonzeroBytes_le64, length_finalInputs, length_le64,
      Bytes.length_toList, ne_eq, not_true_eq_false, or_self, not_false_eq_true, true_and]
    refine and_congr_right fun _ => ?_
    constructor
    · rintro ⟨⟨h1, h2, h3, h4⟩, h5, h6, h7, h8, h9⟩
      exact ⟨h1, h2, h3, h4, h5, h6, h7, h8, h9⟩
    · intro h
      exact ⟨⟨h.spentCount_ne, h.newCount_ne, h.spentCommitment_ne, h.newCommitment_ne⟩,
        h.total_ne, h.spentBlinding_ne, h.newBlinding_ne, h.spent, h.new⟩
  · intro l b h
    exact (length_of_refused h).trans (length_finalInputs s).symm

end Conservation

section Exclusion
variable {H : List UInt8 → Bytes32} {spent new : ℕ}
  {s : AllocationExclusionSegmentPairStatement spent new}

lemma enforceExclusion_eq_ok {w : AllocationExclusionSegmentPairWitness spent new} :
    enforceAllocationExclusionSegmentPair H spent new s.publicInputs (le64 w.spent.segmentAmount)
        w.spent.amountBlinding.toList (le64 w.new.segmentAmount) w.new.amountBlinding.toList
        w.spent.allocations w.new.allocations = .ok true ↔
      SegmentHolds H s.spentSegment w.spent ∧ SegmentHolds H s.newSegment w.new ∧
        enforceSpentAnchorsNotReused w.spent.allocations w.new.allocations := by
  simp only [enforceAllocationExclusionSegmentPair, unit_bind_eq_ok, failIf_eq_ok,
    validateNonemptyAllocationSlices_eq_ok, slice_exclusionInputs, byteAt_exclusionInputs,
    amountCommitmentDigest_eq, segmentRootDigest_eq _ _ _ _ w.spent.allocations_length,
    segmentRootDigest_eq _ _ _ _ w.new.allocations_length]
  simp only [bind_eq_ok, Except.ok.injEq, exists_eq_left', decide_eq_true_eq, Bytes.toList_inj,
    enforceNonzeroBytes_toList, enforceNonzeroBytes_le64, length_exclusionInputs, length_le64,
    Bytes.length_toList, w.spent.allocations_length, w.new.allocations_length,
    allocations_ne_nil, ne_eq, not_true_eq_false, or_self, not_false_eq_true, true_and]
  constructor
  · rintro ⟨⟨hs, hws⟩, ⟨hn, hwn⟩, has, han, hbs, hbn, hcs, hcn, hds, hdn, hex, hss, hsn, hms, hmn,
      hrs, hrn⟩
    exact ⟨⟨hs, has, hbs, hws, hcs, hds, hss, hms, hrs⟩, ⟨hn, han, hbn, hwn, hcn, hdn, hsn, hmn,
      hrn⟩, hex⟩
  · rintro ⟨hs, hn, hex⟩
    exact ⟨⟨hs.allocs_ne, hs.width⟩, ⟨hn.allocs_ne, hn.width⟩, hs.amount_ne, hn.amount_ne,
      hs.blinding_ne, hn.blinding_ne, hs.common, hn.common, hs.distinct, hn.distinct, hex, hs.sum,
      hn.sum, hs.amountCommitment, hn.amountCommitment, hs.root, hn.root⟩

theorem exclusionCircuit_eq_ok
    {a : Assigned (AllocationExclusionSegmentPairWitness spent new)} :
    AllocationExclusionSegmentPairCircuit.generateConstraints H s.publicInputs a = .ok true ↔
      a.publicBytes = s.publicInputs ∧ ExclusionHolds H s a.witness := by
  rw [AllocationExclusionSegmentPairCircuit.generateConstraints, synthesize_eq_ok,
    exclusionLayout_iff, enforceExclusion_eq_ok]
  · constructor
    · rintro ⟨_, hbytes, ⟨hls, hln⟩, hs, hn, hex⟩
      exact ⟨hbytes, hls, hln, hs, hn, hex⟩
    · rintro ⟨hbytes, h⟩
      have hs : ∀ x ∈ a.witness.spent.allocations, x.length = allocationWitnessLen := h.spent.width
      have hn : ∀ x ∈ a.witness.new.allocations, x.length = allocationWitnessLen := h.new.width
      exact ⟨by simpa [h.spent.allocs_ne, h.new.allocs_ne] using ⟨hs, hn⟩, hbytes,
        ⟨h.spentLayout, h.newLayout⟩, h.spent, h.new, h.excluded⟩
  · intro l b h
    exact (length_of_refused h).trans (length_exclusionInputs s).symm

end Exclusion

section Binding
variable {H : List UInt8 → Bytes32} {allocs : ℕ} {s : AllocationTranscriptSegmentStatement allocs}

/-- The string hashed for the root of a segment with these records. -/
def rootPreimage (s : AllocationTranscriptSegmentStatement allocs)
    (allocations : List (List UInt8)) : List UInt8 :=
  taggedPreimage "rgk:asset:allocation-transcript-segment-root:v1"
    (segmentRootPayload s.previousRoot s.side s.segmentIndex s.totalCount allocations)

/-- The string hashed for a running total. -/
def totalPreimage (side : RgkAllocationTranscriptSide) (totalCount runningTotal : UInt64)
    (blinding : Bytes32) : List UInt8 :=
  taggedPreimage "rgk:asset:allocation-conservation-total:v1"
    (totalCommitmentPayload side totalCount runningTotal blinding)

theorem SegmentHolds.records_eq {w v : AllocationTranscriptSegmentWitness allocs}
    {Q : Set (List UInt8)} (hcf : CollisionFree H Q) (hw : SegmentHolds H s w)
    (hv : SegmentHolds H s v) (hwQ : rootPreimage s w.allocations ∈ Q)
    (hvQ : rootPreimage s v.allocations ∈ Q) : w.allocations = v.allocations := by
  have hlen : w.allocations.length = v.allocations.length := by
    rw [w.allocations_length, v.allocations_length]
  have hp := payload_eq_of_domainHashStr_eq hcf hwQ hvQ (hw.root.trans hv.root.symm)
  simp only [segmentRootPayload, List.append_cancel_left_eq, hlen] at hp
  exact flatten_injective (show 0 < 157 by omega) hw.width hv.width hp

lemma total_eq_of_commitment_eq {side : RgkAllocationTranscriptSide} {count t u : UInt64}
    {b c : Bytes32} {Q : Set (List UInt8)} (hcf : CollisionFree H Q)
    (ht : totalPreimage side count t b ∈ Q) (hu : totalPreimage side count u c ∈ Q)
    (h : allocationConservationTotalCommitment H side count t b =
      allocationConservationTotalCommitment H side count u c) : t = u := by
  have hp := payload_eq_of_domainHashStr_eq hcf ht hu h
  simp only [totalCommitmentPayload, List.append_cancel_left_eq, le64_append_inj] at hp
  exact hp.1

end Binding

section Amounts
variable {H : List UInt8 → Bytes32} {allocs : ℕ} {s : AllocationTranscriptSegmentStatement allocs}

lemma SegmentHolds.sum_eq {w : AllocationTranscriptSegmentWitness allocs}
    (hn : allocs*2^64 < bn254) (h : SegmentHolds H s w) :
    (w.allocations.map amountAt).sum = w.segmentAmount.toNat := by
  have hcount : w.allocations.length*2^64 < bn254 := by rwa [w.allocations_length]
  rw [(sumAllocationAmounts_eq_iff hcount (length_le64 _)).mp h.sum, leNat_le64]

lemma allocationWitnessAmount_eq_some {as : List (List UInt8)} (hw : ∀ a ∈ as, a.length = 157)
    {x : UInt64} : allocationWitnessAmount as = some x ↔ (as.map amountAt).sum = x.toNat := by
  suffices h : ∀ sum : UInt64, as.foldlM (fun sum a =>
      if 125 ≤ a.length then checkedAdd sum (u64OfLe (slice a 117 125)) else none) sum = some x ↔
        sum.toNat + (as.map amountAt).sum = x.toNat by
    have h0 := h 0
    rwa [UInt64.toNat_zero, Nat.zero_add] at h0
  induction as with
  | nil =>
    intro sum
    simp [UInt64.toNat_inj]
  | cons a as ih =>
    intro sum
    obtain ⟨ha, has⟩ := List.forall_mem_cons.mp hw
    have hamount : (u64OfLe (slice a 117 125)).toNat = amountAt a :=
      toNat_u64OfLe (length_slice (by omega))
    rw [List.foldlM_cons, if_pos (by omega), Option.bind_eq_bind, Option.bind_eq_some_iff]
    simp only [checkedAdd_eq_some, ih has, hamount, List.map_cons, List.sum_cons]
    constructor
    · rintro ⟨t, ht, hsum⟩
      omega
    · intro hsum
      have hlt : x.toNat < UInt64.size := x.toNat_lt
      have hfit := UInt64.toNat_ofNat_of_lt' (show sum.toNat + amountAt a < UInt64.size by omega)
      exact ⟨_, hfit, by omega⟩

end Amounts

section Native
variable {H : List UInt8 → Bytes32} {allocs : ℕ}

lemma SegmentHolds.segmentMatches {s : AllocationTranscriptSegmentStatement allocs}
    {w : AllocationTranscriptSegmentWitness allocs} (hn : allocs*2^64 < bn254)
    (h : SegmentHolds H s w) : segmentMatches H s w :=
  ⟨(allocationWitnessAmount_eq_some h.width).mpr (h.sum_eq hn), h.amountCommitment.symm,
    h.root.symm⟩

/-- What satisfies a circuit passes the native check of its statement. -/
theorem SegmentHolds.matchesWitness {s : AllocationTranscriptSegmentStatement allocs}
    {w : AllocationTranscriptSegmentWitness allocs} (hn : allocs*2^64 < bn254)
    (h : SegmentHolds H s w) : s.matchesWitness H w = true :=
  decide_eq_true ⟨h.allocs_ne, h.width, fun a ha => (h.common a ha).1, h.segmentMatches hn⟩

theorem ConservationHolds.matchesWitness {s : AllocationConservationSegmentStatement allocs}
    {w : AllocationConservationSegmentWitness allocs} (hn : allocs*2^64 < bn254)
    (h : ConservationHolds H s w) : s.matchesWitness H w = true := by
  have hamount : (allocationWitnessAmount w.transcript.allocations).bind
      (checkedAdd w.previousTotal) = some w.nextTotal := by
    rw [(h.transcript.segmentMatches hn).1, Option.bind_some, checkedAdd_eq_some]
    exact h.adds.symm
  exact decide_eq_true ⟨h.previousBlinding_ne, h.nextBlinding_ne, h.starts,
    h.transcript.matchesWitness hn, hamount, h.previous.symm, h.next.symm⟩

theorem FinalHolds.matchesWitness {s : AllocationConservationFinalStatement}
    {w : AllocationConservationFinalWitness} (h : FinalHolds H s w) :
    s.matchesWitness H w = true :=
  decide_eq_true ⟨h.spentCount_ne, h.newCount_ne, h.total_ne, h.spentBlinding_ne,
    h.newBlinding_ne, h.spent.symm, h.new.symm⟩

theorem ExclusionHolds.matchesWitness {spent new : ℕ}
    {s : AllocationExclusionSegmentPairStatement spent new}
    {w : AllocationExclusionSegmentPairWitness spent new} (hs : spent*2^64 < bn254)
    (hn : new*2^64 < bn254) (h : ExclusionHolds H s w) : s.matchesWitness H w = true := by
  have hrecord : ∀ a ∈ w.spent.allocations ++ w.new.allocations,
      a.length = allocationWitnessLen ∧ byteAt a 0 = s.chainId.asU8 := by
    intro a ha
    rcases List.mem_append.mp ha with ha | ha
    · exact ⟨h.spent.width a ha, (h.spent.common a ha).1⟩
    · exact ⟨h.new.width a ha, (h.new.common a ha).1⟩
  exact decide_eq_true ⟨h.spent.allocs_ne, h.new.allocs_ne, hrecord, h.excluded,
    h.spent.segmentMatches hs, h.new.segmentMatches hn⟩

end Native
end RgkProtocol.AuditMeaning
