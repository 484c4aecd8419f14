import RgkProtocol.AuditBundle
import RgkProtocol.Segments

/-!
# The records behind an accepted audit

Every statement of a bundle comes with its own private assignment. The roots tie them together:
whoever opens a segment of a side opens it to the records that the side's transcripts carry at
that position.
-/
namespace RgkProtocol.AuditOpenings
open ByteStrings Hashing CoreTypes Checked LinkedPath Segments CircuitGadgets
open AuditStatements AuditCircuits AuditMeaning AuditBundle

section Assignments

/-- The statements of one side, each with an assignment for its circuit. -/
structure SideAssignment (allocs : ℕ) where
  transcripts : List (AllocationTranscriptSegmentStatement allocs ×
    Assigned (AllocationTranscriptSegmentWitness allocs))
  conservation : List (AllocationConservationSegmentStatement allocs ×
    Assigned (AllocationConservationSegmentWitness allocs))

/-- The statements of a bundle, each with an assignment for its circuit. -/
structure AuditAssignment (spentAllocs newAllocs : ℕ) where
  spent : SideAssignment spentAllocs
  new : SideAssignment newAllocs
  finalConservation : AllocationConservationFinalStatement ×
    Assigned AllocationConservationFinalWitness
  exclusions : List (AllocationExclusionSegmentPairStatement spentAllocs newAllocs ×
    Assigned (AllocationExclusionSegmentPairWitness spentAllocs newAllocs))

def AuditAssignment.bundle {spent new : ℕ} (A : AuditAssignment spent new) :
    AllocationAuditBundle spent new where
  spentTranscripts := A.spent.transcripts.map Prod.fst
  newTranscripts := A.new.transcripts.map Prod.fst
  spentConservation := A.spent.conservation.map Prod.fst
  newConservation := A.new.conservation.map Prod.fst
  finalConservation := A.finalConservation.1
  exclusions := A.exclusions.map Prod.fst

variable (H : List UInt8 → Bytes32)

structure SideAssignment.Satisfies {allocs : ℕ} (S : SideAssignment allocs) : Prop where
  transcripts : ∀ p ∈ S.transcripts,
    AllocationTranscriptSegmentCircuit.generateConstraints H p.1.publicInputs p.2 = .ok true
  conservation : ∀ p ∈ S.conservation,
    AllocationConservationSegmentCircuit.generateConstraints H p.1.publicInputs p.2 = .ok true

/-- Every assignment satisfies the circuit of its statement. -/
structure AuditAssignment.Satisfies {spent new : ℕ} (A : AuditAssignment spent new) : Prop where
  spent : A.spent.Satisfies H
  new : A.new.Satisfies H
  finalConservation : AllocationConservationFinalCircuit.generateConstraints H
    A.finalConservation.1.publicInputs A.finalConservation.2 = .ok true
  exclusions : ∀ p ∈ A.exclusions,
    AllocationExclusionSegmentPairCircuit.generateConstraints H p.1.publicInputs p.2 = .ok true

structure SideAssignment.Matches {allocs : ℕ} (S : SideAssignment allocs) : Prop where
  transcripts : ∀ p ∈ S.transcripts, p.1.matchesWitness H p.2.witness = true
  conservation : ∀ p ∈ S.conservation, p.1.matchesWitness H p.2.witness = true

/-- Every statement holds natively of its witness. -/
structure AuditAssignment.Matches {spent new : ℕ} (A : AuditAssignment spent new) : Prop where
  spent : A.spent.Matches H
  new : A.new.Matches H
  finalConservation : A.finalConservation.1.matchesWitness H A.finalConservation.2.witness = true
  exclusions : ∀ p ∈ A.exclusions, p.1.matchesWitness H p.2.witness = true

/-- The records of a side, in the order of its transcripts. -/
def SideAssignment.records {allocs : ℕ} (S : SideAssignment allocs) : List (List UInt8) :=
  S.transcripts.flatMap (fun p => p.2.witness.allocations)

end Assignments

section Preimages

def SideAssignment.rootPreimages {allocs : ℕ} (S : SideAssignment allocs) : List (List UInt8) :=
  S.transcripts.map (fun p => rootPreimage p.1 p.2.witness.allocations) ++
    S.conservation.map (fun p => rootPreimage p.1.transcript p.2.witness.transcript.allocations)

def SideAssignment.totalPreimages {allocs : ℕ} (S : SideAssignment allocs) : List (List UInt8) :=
  S.conservation.flatMap (fun p =>
    [totalPreimage p.1.transcript.side p.1.transcript.totalCount p.2.witness.previousTotal
      p.2.witness.previousTotalBlinding,
    totalPreimage p.1.transcript.side p.1.transcript.totalCount p.2.witness.nextTotal
      p.2.witness.nextTotalBlinding])

/-- The strings hashed for the segment roots in all circuits. -/
def AuditAssignment.rootPreimages {spent new : ℕ} (A : AuditAssignment spent new) :
    List (List UInt8) :=
  A.spent.rootPreimages ++ (A.new.rootPreimages ++ A.exclusions.flatMap (fun p =>
    [rootPreimage p.1.spentSegment p.2.witness.spent.allocations,
      rootPreimage p.1.newSegment p.2.witness.new.allocations]))

/-- The strings hashed for the running totals in all circuits. -/
def AuditAssignment.totalPreimages {spent new : ℕ} (A : AuditAssignment spent new) :
    List (List UInt8) :=
  A.spent.totalPreimages ++ (A.new.totalPreimages ++
    [totalPreimage .spent A.finalConservation.1.spentTotalCount
        A.finalConservation.2.witness.total A.finalConservation.2.witness.spentTotalBlinding,
      totalPreimage .new A.finalConservation.1.newTotalCount
        A.finalConservation.2.witness.total A.finalConservation.2.witness.newTotalBlinding])

/-- The strings whose digests have to tell records and totals apart. -/
def AuditAssignment.preimages {spent new : ℕ} (A : AuditAssignment spent new) :
    List (List UInt8) :=
  A.rootPreimages ++ A.totalPreimages

end Preimages

section Side
variable {H : List UInt8 → Bytes32} {allocs : ℕ} {S : SideAssignment allocs}
  {side : RgkAllocationTranscriptSide} {chainId : KaspaChainId} {total : UInt64} {final : Bytes32}

lemma SideAssignment.segmentHolds (hsat : S.Satisfies H)
    {p : AllocationTranscriptSegmentStatement allocs ×
      Assigned (AllocationTranscriptSegmentWitness allocs)} (hp : p ∈ S.transcripts) :
    SegmentHolds H p.1 p.2.witness :=
  (transcriptCircuit_eq_ok.mp (hsat.transcripts p hp)).2.2

lemma SideAssignment.conservationHolds (hsat : S.Satisfies H)
    {p : AllocationConservationSegmentStatement allocs ×
      Assigned (AllocationConservationSegmentWitness allocs)} (hp : p ∈ S.conservation) :
    ConservationHolds H p.1 p.2.witness :=
  (conservationCircuit_eq_ok.mp (hsat.conservation p hp)).2

lemma SideAssignment.Satisfies.matches (hn : allocs*2^64 < bn254) (hsat : S.Satisfies H) :
    S.Matches H :=
  ⟨fun _ hp => (SideAssignment.segmentHolds hsat hp).matchesWitness hn,
    fun _ hp => (SideAssignment.conservationHolds hsat hp).matchesWitness hn⟩

theorem AuditAssignment.Satisfies.matches {spent new : ℕ} {A : AuditAssignment spent new}
    (hspent : spent*2^64 < bn254) (hnew : new*2^64 < bn254) (hsat : A.Satisfies H) :
    A.Matches H where
  spent := hsat.spent.matches hspent
  new := hsat.new.matches hnew
  finalConservation := (finalCircuit_eq_ok.mp hsat.finalConservation).2.matchesWitness
  exclusions p hp :=
    (exclusionCircuit_eq_ok.mp (hsat.exclusions p hp)).2.matchesWitness hspent hnew

/-- A transcript carries the segment of the side's records at its index. -/
lemma SideAssignment.segmentAt_records
    (hchain : TranscriptChain H side (S.transcripts.map Prod.fst) chainId total final)
    {p : AllocationTranscriptSegmentStatement allocs ×
      Assigned (AllocationTranscriptSegmentWitness allocs)} (hp : p ∈ S.transcripts) :
    segmentAt allocs S.records p.1.segmentIndex.toNat = p.2.witness.allocations := by
  have hindex : S.transcripts.map (fun p => p.1.segmentIndex.toNat) =
      List.range' 0 S.transcripts.length := by
    have hi := hchain.indices
    rw [List.map_map, List.length_map, List.range_eq_range'] at hi
    exact hi
  exact segmentAt_flatMap (fun p _ => p.2.witness.allocations_length) hindex p hp

lemma SideAssignment.length_records
    (hchain : TranscriptChain H side (S.transcripts.map Prod.fst) chainId total final) :
    S.records.length = total.toNat := by
  have hlen : S.records.length = S.transcripts.length*allocs :=
    length_flatMap_of_forall fun p _ => p.2.witness.allocations_length
  rw [hlen, hchain.total, List.length_map]

/-- Whoever opens a segment of the side opens it to the side's records. -/
theorem SideAssignment.opens_records {Q : Set (List UInt8)} (hcf : CollisionFree H Q)
    (hchain : TranscriptChain H side (S.transcripts.map Prod.fst) chainId total final)
    (hsat : S.Satisfies H) (hQ : ∀ x ∈ S.rootPreimages, x ∈ Q)
    {s : AllocationTranscriptSegmentStatement allocs} (hs : s ∈ S.transcripts.map Prod.fst)
    {w : AllocationTranscriptSegmentWitness allocs} (hw : SegmentHolds H s w)
    (hwQ : rootPreimage s w.allocations ∈ Q) :
    w.allocations = segmentAt allocs S.records s.segmentIndex.toNat := by
  obtain ⟨p, hp, rfl⟩ := List.mem_map.mp hs
  rw [SideAssignment.segmentAt_records hchain hp]
  refine hw.records_eq hcf (SideAssignment.segmentHolds hsat hp) hwQ (hQ _ ?_)
  exact List.mem_append_left _ (List.mem_map_of_mem hp)

lemma SideAssignment.mem_records (hsat : S.Satisfies H) {r : List UInt8} (hr : r ∈ S.records) :
    ∃ p ∈ S.transcripts, r ∈ p.2.witness.allocations ∧ SegmentHolds H p.1 p.2.witness := by
  obtain ⟨p, hp, hr⟩ := List.mem_flatMap.mp hr
  exact ⟨p, hp, hr, SideAssignment.segmentHolds hsat hp⟩

end Side

section Carried

/-- Every assignment of the side carries its segment of one list of records. -/
structure SideAssignment.Carries {allocs : ℕ} (S : SideAssignment allocs)
    (records : List (List UInt8)) : Prop where
  transcripts : ∀ p ∈ S.transcripts,
    p.2.witness.allocations = segmentAt allocs records p.1.segmentIndex.toNat
  conservation : ∀ p ∈ S.conservation,
    p.2.witness.transcript.allocations =
      segmentAt allocs records p.1.transcript.segmentIndex.toNat

/-- Every assignment carries its segments of one list of records on either side. -/
structure AuditAssignment.Carries {spentAllocs newAllocs : ℕ}
    (A : AuditAssignment spentAllocs newAllocs) (spentRecords newRecords : List (List UInt8)) : Prop where
  spent : A.spent.Carries spentRecords
  new : A.new.Carries newRecords
  exclusions : ∀ p ∈ A.exclusions,
    p.2.witness.spent.allocations =
        segmentAt spentAllocs spentRecords p.1.spentSegmentIndex.toNat ∧
      p.2.witness.new.allocations = segmentAt newAllocs newRecords p.1.newSegmentIndex.toNat

/-- Two lists of 157-byte records, as long as the report says, that open all statements of the
bundle at once through strings of `Q`. -/
structure Opening (H : List UInt8 → Bytes32) (Q : Set (List UInt8)) {spent new : ℕ}
    (b : AllocationAuditBundle spent new) (r : AllocationAuditBundleReport)
    (spentRecords newRecords : List (List UInt8)) : Prop where
  spentLength : spentRecords.length = r.spentTotalCount.toNat
  newLength : newRecords.length = r.newTotalCount.toNat
  width : ∀ x ∈ spentRecords ++ newRecords, x.length = 157
  opens : ∃ A : AuditAssignment spent new, A.bundle = b ∧ A.Satisfies H ∧
    A.Carries spentRecords newRecords ∧ ∀ x ∈ A.preimages, x ∈ Q

variable {H : List UInt8 → Bytes32} {Q : Set (List UInt8)}

lemma SideAssignment.carries_records {allocs : ℕ} {S : SideAssignment allocs}
    {side : RgkAllocationTranscriptSide} {chainId : KaspaChainId} {total : UInt64}
    {final : Bytes32} (hcf : CollisionFree H Q)
    (hchain : TranscriptChain H side (S.transcripts.map Prod.fst) chainId total final)
    (hextends : (S.conservation.map Prod.fst).map AllocationConservationSegmentStatement.transcript =
      S.transcripts.map Prod.fst)
    (hsat : S.Satisfies H) (hQ : ∀ x ∈ S.rootPreimages, x ∈ Q) : S.Carries S.records := by
  constructor
  · intro p hp
    exact (SideAssignment.segmentAt_records hchain hp).symm
  · intro p hp
    refine SideAssignment.opens_records hcf hchain hsat hQ ?_
      (SideAssignment.conservationHolds hsat hp).transcript (hQ _ ?_)
    · rw [← hextends, List.map_map]
      exact List.mem_map_of_mem hp
    · exact List.mem_append_right _ (List.mem_map_of_mem hp)

lemma SideAssignment.Carries.eq_records {allocs : ℕ} {S T : SideAssignment allocs}
    {side : RgkAllocationTranscriptSide} {chainId : KaspaChainId} {total : UInt64}
    {final : Bytes32} {records : List (List UInt8)} (hcf : CollisionFree H Q)
    (hchain : TranscriptChain H side (S.transcripts.map Prod.fst) chainId total final)
    (hsat : S.Satisfies H) (hQ : ∀ x ∈ S.rootPreimages, x ∈ Q)
    (hsame : T.transcripts.map Prod.fst = S.transcripts.map Prod.fst) (hT : T.Satisfies H)
    (hTQ : ∀ x ∈ T.rootPreimages, x ∈ Q) (h : T.Carries records)
    (hlen : records.length = total.toNat) : records = S.records := by
  rw [hchain.total] at hlen
  refine eq_of_segmentAt_eq hlen ?_ fun i hi => ?_
  · rw [SideAssignment.length_records hchain, hchain.total]
  · have hindex : i ∈ (T.transcripts.map Prod.fst).map (fun s => s.segmentIndex.toNat) := by
      rw [hsame, hchain.indices]
      exact List.mem_range.mpr hi
    rw [List.map_map] at hindex
    obtain ⟨p, hp, rfl⟩ := List.mem_map.mp hindex
    have hmem : p.1 ∈ S.transcripts.map Prod.fst := hsame ▸ List.mem_map_of_mem hp
    have hpQ := hTQ _ (List.mem_append_left _ (List.mem_map_of_mem hp))
    exact (h.transcripts p hp).symm.trans (SideAssignment.opens_records hcf hchain hsat hQ hmem
      (SideAssignment.segmentHolds hT hp) hpQ)

end Carried

section Accepted
variable {H : List UInt8 → Bytes32} {Q : Set (List UInt8)} {spent new : ℕ}
  {A : AuditAssignment spent new} {r : AllocationAuditBundleReport}

lemma AuditAssignment.exclusions_carry (hcf : CollisionFree H Q)
    (hacc : PassedAudit H A.bundle r) (hsat : A.Satisfies H)
    (hQ : ∀ x ∈ A.rootPreimages, x ∈ Q) :
    ∀ p ∈ A.exclusions,
      p.2.witness.spent.allocations =
          segmentAt spent A.spent.records p.1.spentSegmentIndex.toNat ∧
        p.2.witness.new.allocations =
          segmentAt new A.new.records p.1.newSegmentIndex.toNat := by
  intro p hp
  obtain ⟨hspent, hnew⟩ := hacc.grid.bound p.1 (List.mem_map_of_mem hp)
  have hholds := (exclusionCircuit_eq_ok.mp (hsat.exclusions p hp)).2
  simp only [AuditAssignment.rootPreimages, List.forall_mem_append, List.forall_mem_flatMap,
    List.forall_mem_cons] at hQ
  obtain ⟨hs, hn, hpairs⟩ := hQ
  obtain ⟨hps, hpn, _⟩ := hpairs p hp
  exact ⟨SideAssignment.opens_records hcf hacc.spentChain hsat.spent hs hspent hholds.spent hps,
    SideAssignment.opens_records hcf hacc.newChain hsat.new hn hnew hholds.new hpn⟩

theorem AuditAssignment.opening (hcf : CollisionFree H Q) (hacc : PassedAudit H A.bundle r)
    (hsat : A.Satisfies H) (hQ : ∀ x ∈ A.preimages, x ∈ Q) :
    Opening H Q A.bundle r A.spent.records A.new.records := by
  obtain ⟨hroots, _⟩ := List.forall_mem_append.mp hQ
  obtain ⟨hs, hn⟩ := List.forall_mem_append.mp hroots
  obtain ⟨hn, _⟩ := List.forall_mem_append.mp hn
  refine ⟨SideAssignment.length_records hacc.spentChain, SideAssignment.length_records hacc.newChain,
    ?_, A, rfl, hsat, ⟨?_, ?_, ?_⟩, hQ⟩
  · intro x hx
    rcases List.mem_append.mp hx with hx | hx
    · obtain ⟨p, _, hr, hp⟩ := SideAssignment.mem_records hsat.spent hx
      exact hp.width x hr
    · obtain ⟨p, _, hr, hp⟩ := SideAssignment.mem_records hsat.new hx
      exact hp.width x hr
  · exact SideAssignment.carries_records hcf hacc.spentChain hacc.spentExtends hsat.spent hs
  · exact SideAssignment.carries_records hcf hacc.newChain hacc.newExtends hsat.new hn
  · exact AuditAssignment.exclusions_carry hcf hacc hsat hroots

theorem AuditAssignment.opening_unique (hcf : CollisionFree H Q)
    (hacc : PassedAudit H A.bundle r) (hsat : A.Satisfies H) (hQ : ∀ x ∈ A.rootPreimages, x ∈ Q)
    {spentRecords newRecords : List (List UInt8)}
    (h : Opening H Q A.bundle r spentRecords newRecords) :
    spentRecords = A.spent.records ∧ newRecords = A.new.records := by
  obtain ⟨B, hbundle, hB, hcarries, hBQ⟩ := h.opens
  obtain ⟨hs, hn⟩ := List.forall_mem_append.mp hQ
  obtain ⟨hn, _⟩ := List.forall_mem_append.mp hn
  obtain ⟨hBroots, _⟩ := List.forall_mem_append.mp hBQ
  obtain ⟨hBs, hBn⟩ := List.forall_mem_append.mp hBroots
  obtain ⟨hBn, _⟩ := List.forall_mem_append.mp hBn
  constructor
  · exact hcarries.spent.eq_records hcf hacc.spentChain hsat.spent hs
      (congrArg AllocationAuditBundle.spentTranscripts hbundle) hB.spent hBs h.spentLength
  · exact hcarries.new.eq_records hcf hacc.newChain hsat.new hn
      (congrArg AllocationAuditBundle.newTranscripts hbundle) hB.new hBn h.newLength

end Accepted
end RgkProtocol.AuditOpenings
